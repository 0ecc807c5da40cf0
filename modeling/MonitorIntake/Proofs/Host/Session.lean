import Mathlib.Data.List.Induction
import MonitorIntake.Host
import MonitorIntake.Proofs.Tool.Configured

/-!
# Sessions of a host

**What has become of each factory and each tool after any actions in a fresh host** (`session`). Each was made by one of
the actions (`MakesFactory`, `MakesTool`), and of the actions after that only the last that gave it a client, a name or
a description counts. A step replaces what is at a place by what the action gives to it, or makes it (`factory?_act_iff`,
`tool?_act_iff`); the run follows for both in the same way (`place_after_iff`).
-/

namespace MonitorIntake

variable {κ : Type}

/-! ## What is given by actions -/

namespace Action

/-- The client that an action gives to a factory. -/
def clientFor? (f : FactoryId) : Action κ → Option (Option κ)
  | .setClient f' client => if f' = f then some client else none
  | _ => none

/-- The name and the description that an action gives to a tool of a type. -/
def overrideFor (t : ToolId) (type : Text) : Action κ → Override
  | .setName t' name => if t' = t then ⟨some name, none⟩ else ⟨none, none⟩
  | .setDescription t' description => if t' = t then ⟨none, some description⟩ else ⟨none, none⟩
  | .applyConfig c t' => if t' = t then (c.override? type).getD ⟨none, none⟩ else ⟨none, none⟩
  | _ => ⟨none, none⟩

/-- The last client that actions give to a factory. -/
def lastClient? (f : FactoryId) (actions : List (Action κ)) : Option (Option κ) :=
  (actions.filterMap (clientFor? f)).getLast?

/-- The last name that actions give to a tool of a type. -/
def lastName? (t : ToolId) (type : Text) (actions : List (Action κ)) : Option Text :=
  (actions.filterMap fun a => (a.overrideFor t type).name).getLast?

/-- The last description that actions give to a tool of a type. -/
def lastDescription? (t : ToolId) (type : Text) (actions : List (Action κ)) : Option Text :=
  (actions.filterMap fun a => (a.overrideFor t type).description).getLast?

/-- What comes first counts only if nothing is given later. -/
theorem getD_getLast?_filterMap_cons {α β : Type} (g : α → Option β) (a : α) (l : List α) (b : β) :
    (((a :: l).filterMap g).getLast?).getD b = ((l.filterMap g).getLast?).getD ((g a).getD b) := by
  cases hg : g a with
  | none => rw [List.filterMap_cons_none hg, Option.getD_none]
  | some c => rw [List.filterMap_cons_some hg, List.getLast?_cons, Option.getD_some, Option.getD_some]

end Action

/-- The factory with the client that an action gives to it. -/
def Factory.given (f : FactoryId) (x : Factory κ) (a : Action κ) : Factory κ :=
  { x with client := (a.clientFor? f).getD x.client }

/-- The tool with the name and the description that an action gives to it. -/
def Tool.given (t : ToolId) (x : Tool κ) (a : Action κ) : Tool κ := x.override (a.overrideFor t x.kind.typeName)

theorem Factory.foldl_given (f : FactoryId) (x : Factory κ) (actions : List (Action κ)) :
    actions.foldl (Factory.given f) x = ⟨x.kind, (Action.lastClient? f actions).getD x.client⟩ := by
  induction actions generalizing x with
  | nil => rfl
  | cons a actions ih =>
    rw [List.foldl_cons, ih, Action.lastClient?, Action.lastClient?, Action.getD_getLast?_filterMap_cons]
    rfl

theorem Tool.foldl_given (t : ToolId) (x : Tool κ) (actions : List (Action κ)) :
    actions.foldl (Tool.given t) x =
      ⟨x.kind, (Action.lastName? t x.kind.typeName actions).getD x.name,
        (Action.lastDescription? t x.kind.typeName actions).getD x.description, x.client⟩ := by
  induction actions generalizing x with
  | nil => rfl
  | cons a actions ih =>
    rw [List.foldl_cons, ih, Action.lastName?, Action.lastName?, Action.lastDescription?, Action.lastDescription?,
      Action.getD_getLast?_filterMap_cons, Action.getD_getLast?_filterMap_cons]
    rfl

/-! ## What is made by actions -/

/-- After the actions `before`, an action makes a factory: one of its own, or the shared one when it is first asked
for. -/
inductive MakesFactory (before : List (Action κ)) : Action κ → FactoryId → Factory κ → Prop
  | own {k : ToolKind} {client : Option κ} {f : FactoryId}
    (hid : ((Host.fresh.after before).addFactory k client).1 = f) :
    MakesFactory before (.addFactory k client) f ⟨k, client⟩
  | shared {k : ToolKind} {f : FactoryId} (hfirst : .sharedFactory k ∉ before)
    (hid : ((Host.fresh.after before).sharedFactory k).1 = f) :
    MakesFactory before (.sharedFactory k) f ⟨k, none⟩

/-- After the actions `before`, an action makes a tool: with the client that a factory has then, or with a client and
what a configuration says about its type. -/
inductive MakesTool (before : List (Action κ)) : Action κ → ToolId → Tool κ → Prop
  | create {f : FactoryId} {x : Factory κ} {t : ToolId}
    (hfactory : (Host.fresh.after before).factory? f = some x)
    (hid : ((Host.fresh.after before).create f).map Prod.fst = some t) :
    MakesTool before (.create f) t ⟨x.kind, x.kind.typeName, x.kind.defaultDescription, x.client⟩
  | createTool {k : ToolKind} {client : Option κ} {c : Option Config} {t : ToolId}
    (hid : ((Host.fresh.after before).createTool k client c).1 = t) :
    MakesTool before (.createTool k client c) t
      ⟨k, ((c.bind fun c => c.override? k.typeName).bind Override.name).getD k.typeName,
        ((c.bind fun c => c.override? k.typeName).bind Override.description).getD k.defaultDescription, client⟩

namespace Host

theorem after_concat (h : Host κ) (actions : List (Action κ)) (a : Action κ) :
    h.after (actions ++ [a]) = (h.after actions).act a := by
  rw [after, after, List.foldl_append]
  rfl

/-- What every action keeps is kept by all actions. -/
theorem after_preserves {P : Host κ → Prop} (hstep : ∀ h a, P h → P (h.act a)) {h : Host κ} (hP : P h)
    (actions : List (Action κ)) : P (h.after actions) := by
  induction actions generalizing h with
  | nil => exact hP
  | cons a actions ih => exact ih (hstep h a hP)

/-! ## Factories -/

/-- What stands in a list with one more at its end. -/
theorem getElem?_concat_eq_some_iff {α : Type} {l : List α} {x y : α} {i : Nat} :
    (l ++ [x])[i]? = some y ↔ i = l.length ∧ y = x ∨ l[i]? = some y := by
  grind

section Factories

variable {h : Host κ} {k : ToolKind} {f : FactoryId} {x : Factory κ}

theorem sharedFactory_of_lookup (hlookup : h.shared.lookup k = some f) : h.sharedFactory k = (f, h) := by
  simp only [sharedFactory, hlookup]

theorem sharedFactory_of_lookup_none (hlookup : h.shared.lookup k = none) :
    h.sharedFactory k = (⟨h.factories.length⟩,
      ⟨h.factories ++ [⟨k, none⟩], h.tools, (k, ⟨h.factories.length⟩) :: h.shared⟩) := by
  simp only [sharedFactory, hlookup, addFactory]

theorem factory?_setClient (f : FactoryId) (client : Option κ) (f' : FactoryId) :
    (h.setClient f client).factory? f' =
      (h.factory? f').map fun x => Factory.given f' x (.setClient f client) := by
  have hid : f.index = f'.index ↔ f = f' := by cases f; cases f'; simp
  simp only [setClient, factory?, List.getElem?_modify, Factory.given, Action.clientFor?, hid]
  congr 1
  funext x
  split <;> rfl

/-- What an action can do to the factories: it makes the shared one of a kind, it makes another one, or it gives clients
to those that are there. -/
theorem act_cases (h : Host κ) (a : Action κ) :
    (∃ k, a = .sharedFactory k ∧ h.shared.lookup k = none ∧
      (h.act a).factories = h.factories ++ [⟨k, none⟩] ∧ (h.act a).shared = (k, ⟨h.factories.length⟩) :: h.shared) ∨
    (∃ k client, a = .addFactory k client ∧
      (h.act a).factories = h.factories ++ [⟨k, client⟩] ∧ (h.act a).shared = h.shared) ∨
    (∀ k client, a ≠ .addFactory k client) ∧ (∀ k, a = .sharedFactory k → h.shared.lookup k ≠ none) ∧
      (∀ f, (h.act a).factory? f = (h.factory? f).map fun x => Factory.given f x a) ∧ (h.act a).shared = h.shared := by
  cases a with
  | sharedFactory k =>
    cases hlookup : h.shared.lookup k with
    | none =>
      refine .inl ⟨k, rfl, hlookup, ?_⟩
      rw [act, sharedFactory_of_lookup_none hlookup]
      exact ⟨rfl, rfl⟩
    | some f =>
      refine .inr (.inr ⟨nofun, ?_, ?_⟩)
      · intro k' heq hnone
        cases heq
        rw [hlookup] at hnone
        cases hnone
      · rw [act, sharedFactory_of_lookup hlookup]
        exact ⟨fun f => Option.map_id'.symm, rfl⟩
  | addFactory k client => exact .inr (.inl ⟨k, client, rfl, rfl, rfl⟩)
  | setClient f client => exact .inr (.inr ⟨nofun, nofun, factory?_setClient f client, rfl⟩)
  | create f =>
    refine .inr (.inr ⟨nofun, nofun, ?_⟩)
    rw [act, create]
    cases h.factory? f <;> exact ⟨fun f => Option.map_id'.symm, rfl⟩
  | createTool | applyConfig | setName | setDescription | run =>
    exact .inr (.inr ⟨nofun, nofun, fun f => Option.map_id'.symm, rfl⟩)

/-- One more factory leaves the others at their places. -/
theorem factory?_of_concat {h' : Host κ} {y : Factory κ} (hfactories : h'.factories = h.factories ++ [y])
    (hf : h.factory? f ≠ none) : h'.factory? f ≠ none := by
  obtain ⟨x, hx⟩ := Option.ne_none_iff_exists'.1 hf
  rw [factory?, hfactories, getElem?_concat_eq_some_iff.2 (.inr hx)]
  exact Option.some_ne_none x

/-- A place that holds a factory still holds one after every action. -/
theorem factory?_act_ne_none (a : Action κ) (hf : h.factory? f ≠ none) : (h.act a).factory? f ≠ none := by
  rcases act_cases h a with ⟨k, -, -, hfactories, -⟩ | ⟨k, client, -, hfactories, -⟩ | ⟨-, -, hgiven, -⟩
  · exact factory?_of_concat hfactories hf
  · exact factory?_of_concat hfactories hf
  · rw [hgiven, Ne, Option.map_eq_none_iff]
    exact hf

/-- A shared factory stays the one of its kind. -/
theorem lookup_shared_act (a : Action κ) (hlookup : h.shared.lookup k = some f) :
    (h.act a).shared.lookup k = some f := by
  rcases act_cases h a with ⟨k', -, hnone, -, hshared⟩ | ⟨-, -, -, -, hshared⟩ | ⟨-, -, -, hshared⟩
  · rw [hshared, List.lookup_cons]
    split
    · next heq =>
      rw [beq_iff_eq.1 heq, hnone] at hlookup
      cases hlookup
    · exact hlookup
  · rw [hshared, hlookup]
  · rw [hshared, hlookup]

/-- There is no shared factory of a kind as long as none was asked for. -/
theorem lookup_shared_act_eq_none_iff (a : Action κ) :
    (h.act a).shared.lookup k = none ↔ h.shared.lookup k = none ∧ a ≠ .sharedFactory k := by
  rcases act_cases h a with ⟨k', rfl, hnone, -, hshared⟩ | ⟨k', client, rfl, -, hshared⟩ | ⟨-, hasked, -, hshared⟩
  · rw [hshared, List.lookup_cons]
    split
    · next heq => exact iff_of_false (Option.some_ne_none _) fun hne => hne.2 (by rw [beq_iff_eq.1 heq])
    · next hne =>
      refine ⟨fun hlookup => ⟨hlookup, fun heq => ?_⟩, And.left⟩
      cases heq
      rw [beq_self_eq_true] at hne
      cases hne
  · simp [hshared]
  · rw [hshared]
    exact ⟨fun hnone => ⟨hnone, fun ha => hasked k ha hnone⟩, And.left⟩

/-- The shared factories are there. -/
def SharedPresent (h : Host κ) : Prop := ∀ k f, h.shared.lookup k = some f → h.factory? f ≠ none

theorem sharedPresent_act (h : Host κ) (a : Action κ) (hpresent : h.SharedPresent) : (h.act a).SharedPresent := by
  intro k f hlookup
  by_cases hbefore : h.shared.lookup k = some f
  · exact factory?_act_ne_none a (hpresent k f hbefore)
  · rcases act_cases h a with ⟨k', -, -, hfactories, hshared⟩ | ⟨-, -, -, -, hshared⟩ | ⟨-, -, -, hshared⟩
    · rw [hshared, List.lookup_cons] at hlookup
      split at hlookup
      · cases hlookup
        rw [factory?, hfactories, getElem?_concat_eq_some_iff.2 (.inl ⟨rfl, rfl⟩)]
        exact Option.some_ne_none _
      · exact absurd hlookup hbefore
    · exact absurd (hshared ▸ hlookup) hbefore
    · exact absurd (hshared ▸ hlookup) hbefore

/-- The factory is there, and not shared. -/
def Own (f : FactoryId) (h : Host κ) : Prop := h.factory? f ≠ none ∧ ∀ k, h.shared.lookup k ≠ some f

/-- A factory that is there is never made a shared one. -/
theorem own_act (h : Host κ) (a : Action κ) (hown : Own f h) : Own f (h.act a) := by
  refine ⟨factory?_act_ne_none a hown.1, fun k hlookup => ?_⟩
  rcases act_cases h a with ⟨k', -, -, -, hshared⟩ | ⟨-, -, -, -, hshared⟩ | ⟨-, -, -, hshared⟩
  · rw [hshared, List.lookup_cons] at hlookup
    split at hlookup
    · cases hlookup
      exact hown.1 (List.getElem?_eq_none (Nat.le_refl _))
    · exact hown.2 k hlookup
  · exact hown.2 k (hshared ▸ hlookup)
  · exact hown.2 k (hshared ▸ hlookup)

theorem own_addFactory (client : Option κ) (hpresent : h.SharedPresent) :
    Own (h.addFactory k client).1 (h.addFactory k client).2 := by
  refine ⟨?_, fun k' hlookup => hpresent k' _ hlookup (List.getElem?_eq_none (Nat.le_refl _))⟩
  rw [factory?, addFactory, getElem?_concat_eq_some_iff.2 (.inl ⟨rfl, rfl⟩)]
  exact Option.some_ne_none _

/-- The factory that is given to who asks is the shared one from then on. -/
theorem lookup_sharedFactory (h : Host κ) (k : ToolKind) :
    (h.sharedFactory k).2.shared.lookup k = some (h.sharedFactory k).1 := by
  cases hlookup : h.shared.lookup k with
  | none => rw [sharedFactory_of_lookup_none hlookup, List.lookup_cons_self]
  | some f => rw [sharedFactory_of_lookup hlookup, hlookup]

end Factories

section Runs

variable {before rest : List (Action κ)} {a : Action κ} {k : ToolKind} {f : FactoryId} {t : ToolId}

theorem after_append_cons (h : Host κ) : h.after (before ++ a :: rest) = ((h.after before).act a).after rest :=
  List.foldl_append

/-- **The shared factory of a kind is always the same one.** -/
theorem sharedFactory_after :
    ((fresh.after (before ++ .sharedFactory k :: rest)).sharedFactory k).1 =
      ((fresh.after (κ := κ) before).sharedFactory k).1 := by
  rw [after_append_cons]
  have hlookup := after_preserves (fun h a => lookup_shared_act (h := h) a)
    (lookup_sharedFactory (fresh.after before) k) rest
  rw [act, sharedFactory_of_lookup hlookup]

theorem sharedPresent_after (actions : List (Action κ)) : (fresh.after actions).SharedPresent := by
  refine after_preserves sharedPresent_act (fun k f hlookup => ?_) actions
  cases hlookup

/-- **The shared factory of a kind is none of the others.** -/
theorem sharedFactory_after_ne {k' : ToolKind} {client : Option κ} :
    ((fresh.after (before ++ .addFactory k' client :: rest)).sharedFactory k).1 ≠
      ((fresh.after before).addFactory k' client).1 := by
  have hown := own_addFactory (k := k') client (sharedPresent_after before)
  have hown' := after_preserves own_act hown (rest ++ [.sharedFactory k])
  rw [after_append_cons, act]
  rw [after_concat] at hown'
  intro heq
  exact hown'.2 k (heq ▸ lookup_sharedFactory _ k)

theorem lookup_shared_after_eq_none_iff (actions : List (Action κ)) :
    (fresh.after actions).shared.lookup k = none ↔ .sharedFactory k ∉ actions := by
  induction actions using List.reverseRecOn with
  | nil => exact iff_of_true rfl List.not_mem_nil
  | append_singleton actions a ih =>
    rw [after_concat, lookup_shared_act_eq_none_iff, ih, List.mem_append, List.mem_singleton, not_or, eq_comm]

/-- **What is at a place after any actions** was made there by one of them and changed by those that followed, if this
holds for each step. -/
theorem place_after_iff {α : Type} (place : Host κ → Option α) {makes : List (Action κ) → Action κ → α → Prop}
    {given : α → Action κ → α} (hfresh : place fresh = none)
    (hstep : ∀ before a x, place ((fresh.after before).act a) = some x ↔
      makes before a x ∨ ∃ y, place (fresh.after before) = some y ∧ x = given y a)
    (actions : List (Action κ)) (x : α) :
    place (fresh.after actions) = some x ↔
      ∃ before a rest y, actions = before ++ a :: rest ∧ makes before a y ∧ x = rest.foldl given y := by
  induction actions using List.reverseRecOn generalizing x with
  | nil =>
    refine iff_of_false (fun h => ?_) fun ⟨before, a, rest, _, h, _⟩ => ?_
    · rw [after, List.foldl_nil, hfresh] at h
      cases h
    · exact List.append_ne_nil_of_right_ne_nil _ (List.cons_ne_nil a rest) h.symm
  | append_singleton actions b ih =>
    rw [after_concat, hstep]
    constructor
    · rintro (hmakes | ⟨y, hy, rfl⟩)
      · exact ⟨actions, b, [], x, rfl, hmakes, rfl⟩
      · obtain ⟨before, a, rest, z, rfl, hmakes, rfl⟩ := (ih y).1 hy
        exact ⟨before, a, rest ++ [b], z, List.append_assoc _ _ _, hmakes, by rw [List.foldl_append]; rfl⟩
    · rintro ⟨before, a, rest, y, heq, hmakes, rfl⟩
      rcases List.eq_nil_or_concat rest with rfl | ⟨rest, c, rfl⟩
      · obtain ⟨rfl, hb⟩ := List.append_inj' heq rfl
        cases hb
        exact .inl hmakes
      · have hlast : actions ++ [b] = (before ++ a :: rest) ++ [c] := by
          rw [heq, List.append_assoc, List.concat_eq_append]
          rfl
        obtain ⟨rfl, hc⟩ := List.append_inj' hlast rfl
        cases hc
        refine .inr ⟨_, (ih _).2 ⟨before, a, rest, y, rfl, hmakes, rfl⟩, ?_⟩
        rw [List.concat_eq_append, List.foldl_append]
        rfl

/-- What an action does at the place of a factory. -/
theorem factory?_act_iff (f : FactoryId) (before : List (Action κ)) (a : Action κ) (x : Factory κ) :
    ((fresh.after before).act a).factory? f = some x ↔
      MakesFactory before a f x ∨ ∃ y, (fresh.after before).factory? f = some y ∧ x = Factory.given f y a := by
  obtain ⟨i⟩ := f
  rcases act_cases (fresh.after before) a with ⟨k, rfl, hnone, hfactories, -⟩ | ⟨k, client, rfl, hfactories, -⟩ |
    ⟨hown, hasked, hgiven, -⟩
  · have hid : ((fresh.after before).sharedFactory k).1 = ⟨(fresh.after before).factories.length⟩ :=
      congrArg Prod.fst (sharedFactory_of_lookup_none hnone)
    rw [factory?, hfactories, getElem?_concat_eq_some_iff]
    refine or_congr ⟨?_, ?_⟩ ⟨fun hx => ⟨x, hx, rfl⟩, ?_⟩
    · rintro ⟨rfl, rfl⟩
      exact .shared ((lookup_shared_after_eq_none_iff before).1 hnone) hid
    · rintro (_ | ⟨_, hid'⟩)
      exact ⟨FactoryId.mk.inj (hid'.symm.trans hid), rfl⟩
    · rintro ⟨y, hy, rfl⟩
      exact hy
  · rw [factory?, hfactories, getElem?_concat_eq_some_iff]
    refine or_congr ⟨?_, ?_⟩ ⟨fun hx => ⟨x, hx, rfl⟩, ?_⟩
    · rintro ⟨rfl, rfl⟩
      exact .own rfl
    · rintro (⟨hid⟩ | _)
      exact ⟨(FactoryId.mk.inj hid).symm, rfl⟩
    · rintro ⟨y, hy, rfl⟩
      exact hy
  · have hmakes : ¬ MakesFactory before a ⟨i⟩ x := by
      intro hmakes
      cases hmakes with
      | own _ => exact hown _ _ rfl
      | shared hfirst _ => exact hasked _ rfl ((lookup_shared_after_eq_none_iff before).2 hfirst)
    rw [hgiven, Option.map_eq_some_iff, or_iff_right hmakes]
    simp only [eq_comm]

end Runs

/-! ## Tools -/

section Tools

theorem tools_sharedFactory (h : Host κ) (k : ToolKind) : (h.sharedFactory k).2.tools = h.tools := by
  cases hlookup : h.shared.lookup k with
  | none => rw [sharedFactory_of_lookup_none hlookup]
  | some f => rw [sharedFactory_of_lookup hlookup]

theorem tool?_change (h : Host κ) (t' : ToolId) (g : Tool κ → Tool κ) (t : ToolId) :
    (h.change t' g).tool? t = (h.tool? t).map fun x => if t' = t then g x else x := by
  have hid : t'.index = t.index ↔ t' = t := by cases t'; cases t; simp
  simp only [change, tool?, List.getElem?_modify, hid]
  rfl

/-- What an action can do to the tools: it makes one more, or it gives names and descriptions to those that are
there. -/
theorem tools_act_cases (before : List (Action κ)) (a : Action κ) :
    (∃ x, (∀ t y, MakesTool before a t y ↔ t.index = (fresh.after before).tools.length ∧ y = x) ∧
      ((fresh.after before).act a).tools = (fresh.after before).tools ++ [x] ∧ ∀ t y, Tool.given t y a = y) ∨
    (∀ t y, ¬ MakesTool before a t y) ∧
      ∀ t, ((fresh.after before).act a).tool? t = ((fresh.after before).tool? t).map fun y => Tool.given t y a := by
  cases a with
  | sharedFactory k =>
    refine .inr ⟨nofun, fun t => ?_⟩
    rw [act, tool?, tools_sharedFactory]
    exact Option.map_id'.symm
  | create f =>
    cases hfactory : (fresh.after before).factory? f with
    | none =>
      refine .inr ⟨?_, fun t => ?_⟩
      · rintro t y (⟨hsome, -⟩ | _)
        rw [hfactory] at hsome
        cases hsome
      · rw [act, create, hfactory]
        exact Option.map_id'.symm
    | some x =>
      refine .inl ⟨x.create, fun t y => ⟨?_, ?_⟩, ?_, fun _ _ => rfl⟩
      · rintro (⟨hsome, hid⟩ | _)
        rw [create, hfactory] at hid
        rw [hfactory] at hsome
        cases hsome
        cases hid
        exact ⟨rfl, rfl⟩
      · rintro ⟨hindex, rfl⟩
        refine .create hfactory ?_
        rw [create, hfactory]
        exact congrArg (fun i => some (ToolId.mk i)) hindex.symm
      · rw [act, create, hfactory]
        rfl
  | createTool k client c =>
    refine .inl ⟨_, fun t y => ⟨?_, ?_⟩, congrArg (fun x => _ ++ [x]) (Tool.configured_eq k client c), fun _ _ => rfl⟩
    · rintro (_ | ⟨hid⟩)
      exact ⟨congrArg ToolId.index hid.symm, rfl⟩
    · rintro ⟨hindex, rfl⟩
      exact .createTool (congrArg ToolId.mk hindex.symm)
  | applyConfig c t' =>
    refine .inr ⟨nofun, fun t => ?_⟩
    rw [act, applyConfig, tool?_change]
    congr 1
    funext x
    simp only [Tool.given, Action.overrideFor, Tool.apply]
    split
    · cases c.override? x.kind.typeName <;> rfl
    · rfl
  | setName t' name =>
    refine .inr ⟨nofun, fun t => ?_⟩
    rw [act, setName, tool?_change]
    congr 1
    funext x
    simp only [Tool.given, Action.overrideFor]
    split <;> rfl
  | setDescription t' description =>
    refine .inr ⟨nofun, fun t => ?_⟩
    rw [act, setDescription, tool?_change]
    congr 1
    funext x
    simp only [Tool.given, Action.overrideFor]
    split <;> rfl
  | addFactory | setClient | run => exact .inr ⟨nofun, fun t => Option.map_id'.symm⟩

/-- What an action does at the place of a tool. -/
theorem tool?_act_iff (t : ToolId) (before : List (Action κ)) (a : Action κ) (x : Tool κ) :
    ((fresh.after before).act a).tool? t = some x ↔
      MakesTool before a t x ∨ ∃ y, (fresh.after before).tool? t = some y ∧ x = Tool.given t y a := by
  rcases tools_act_cases before a with ⟨y, hmakes, htools, hgiven⟩ | ⟨hmakes, hgiven⟩
  · rw [tool?, htools, getElem?_concat_eq_some_iff, hmakes]
    refine or_congr_right ⟨fun hx => ⟨x, hx, (hgiven t x).symm⟩, ?_⟩
    rintro ⟨z, hz, rfl⟩
    rwa [hgiven]
  · rw [hgiven, Option.map_eq_some_iff, or_iff_right (hmakes t x)]
    simp only [eq_comm]

end Tools

/-- **What has become of the factories and tools of a host, after any actions.** The shared factory of a kind is the one
that was given to whoever asked for it first, and none of the others. A factory has the last client that it was given
since it was made, or else the one that it was made with. A tool has the client that it was made with, whatever its
factory was given since; and it has the last name and the last description that it was given since it was made, or else
those that it was made with. -/
theorem session (actions : List (Action κ)) :
    (∀ k before rest, actions = before ++ .sharedFactory k :: rest →
      ((fresh.after actions).sharedFactory k).1 = ((fresh.after before).sharedFactory k).1) ∧
    (∀ k k' client before rest, actions = before ++ .addFactory k' client :: rest →
      ((fresh.after actions).sharedFactory k).1 ≠ ((fresh.after before).addFactory k' client).1) ∧
    (∀ f x, (fresh.after actions).factory? f = some x ↔
      ∃ before a rest y, actions = before ++ a :: rest ∧ MakesFactory before a f y ∧
        x = ⟨y.kind, (Action.lastClient? f rest).getD y.client⟩) ∧
    ∀ t x, (fresh.after actions).tool? t = some x ↔
      ∃ before a rest y, actions = before ++ a :: rest ∧ MakesTool before a t y ∧
        x = ⟨y.kind, (Action.lastName? t y.kind.typeName rest).getD y.name,
          (Action.lastDescription? t y.kind.typeName rest).getD y.description, y.client⟩ := by
  refine ⟨?_, ?_, fun f x => ?_, fun t x => ?_⟩
  · rintro k before rest rfl
    exact sharedFactory_after
  · rintro k k' client before rest rfl
    exact sharedFactory_after_ne
  · rw [place_after_iff (fun h => h.factory? f) rfl (factory?_act_iff f)]
    simp only [Factory.foldl_given]
  · rw [place_after_iff (fun h => h.tool? t) rfl (tool?_act_iff t)]
    simp only [Tool.foldl_given]

/-- A tool that was made before its factory was given another client, and then renamed by an empty name and described
by a configuration. -/
theorem session_of_renamed_tool : ∃ (k : ToolKind) (c : Config) (actions : List (Action Nat)),
    k = .createMonitorParameters ∧ c = ⟨[(k.typeName, ⟨none, some "b".toText⟩)]⟩ ∧
      actions = [.sharedFactory k, .setClient ⟨0⟩ (some 1), .create ⟨0⟩, .setClient ⟨0⟩ (some 2), .setName ⟨0⟩ [],
        .createTool k none (some c), .setName ⟨1⟩ "a".toText, .applyConfig c ⟨0⟩] ∧
      (fresh.after actions).factory? ⟨0⟩ = some ⟨k, some 2⟩ ∧
      (fresh.after actions).tool? ⟨0⟩ = some ⟨k, [], "b".toText, some 1⟩ := by
  obtain ⟨k, hk⟩ : ∃ k, k = ToolKind.createMonitorParameters := ⟨_, rfl⟩
  obtain ⟨c, hc⟩ : ∃ c : Config, c = ⟨[(k.typeName, ⟨none, some "b".toText⟩)]⟩ := ⟨_, rfl⟩
  have hoverride : c.override? k.typeName = some ⟨none, some "b".toText⟩ := by
    rw [hc]
    exact List.lookup_cons_self
  refine ⟨k, c, _, hk, hc, rfl, ((session _).2.2.1 ⟨0⟩ _).2 ⟨[], _, _, ⟨k, none⟩, rfl, .shared nofun rfl, rfl⟩,
    ((session _).2.2.2 ⟨0⟩ _).2 ⟨[.sharedFactory k, .setClient ⟨0⟩ (some 1)], _, _, _, rfl,
      .create (x := ⟨k, some 1⟩) rfl rfl, ?_⟩⟩
  simp [Action.lastName?, Action.lastDescription?, Action.overrideFor, hoverride]

end Host

end MonitorIntake
