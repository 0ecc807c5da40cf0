import Mathlib.Data.List.TakeWhile
import MonitorIntake.Cli.Answer
import MonitorIntake.Config.Path

/-!
# The path of the configuration

A path is read from one of three texts (`Path.Chosen`) and written in normal form (`Path.IsNormalForm`): its leading
slashes, one or exactly two or none, and its proper components with single slashes between them. **The path depends on
the chosen text alone, its text is the normal form of that text, and it is read from its own text again**
(`resolve_of_chosen`). So a configuration is loaded alike whether its path is given or stands in the environment, and an
empty option counts as none.
-/

namespace MonitorIntake

/-! ## Parts of a text -/

namespace Text

section Parts

variable {separator : CodePoint} {t u : Text}

theorem splitAt_ne_nil (separator : CodePoint) : ∀ t : Text, splitAt separator t ≠ []
  | [] => List.cons_ne_nil _ _
  | c :: rest => by
    unfold splitAt
    split
    · exact List.cons_ne_nil _ _
    · split <;> exact List.cons_ne_nil _ _

theorem splitAt_cons_self (separator : CodePoint) (t : Text) :
    splitAt separator (separator :: t) = [] :: splitAt separator t := if_pos rfl

/-- A code point that is no separator belongs to the first part. -/
theorem splitAt_cons {c : CodePoint} {part : Text} {parts : List Text} (hc : c ≠ separator)
    (h : splitAt separator t = part :: parts) : splitAt separator (c :: t) = (c :: part) :: parts := by
  rw [splitAt, if_neg hc, h]

/-- No part holds the separator. -/
theorem notMem_of_mem_splitAt : ∀ {t part : Text}, part ∈ splitAt separator t → separator ∉ part
  | [], part, h => by
    obtain rfl := List.mem_singleton.1 h
    exact List.not_mem_nil
  | c :: rest, part, h => by
    have ih : ∀ p ∈ splitAt separator rest, separator ∉ p := fun p => notMem_of_mem_splitAt
    by_cases hc : c = separator
    · rw [hc, splitAt_cons_self] at h
      rcases List.mem_cons.1 h with rfl | h
      · exact List.not_mem_nil
      · exact ih part h
    · obtain ⟨p, ps, hps⟩ := List.exists_cons_of_ne_nil (splitAt_ne_nil separator rest)
      rw [splitAt_cons hc hps] at h
      rw [hps] at ih
      rcases List.mem_cons.1 h with rfl | h
      · rw [List.mem_cons, not_or]
        exact ⟨Ne.symm hc, ih p List.mem_cons_self⟩
      · exact ih part (List.mem_cons_of_mem _ h)

theorem splitAt_of_notMem (h : separator ∉ t) : splitAt separator t = [t] := by
  induction t with
  | nil => rfl
  | cons c rest ih =>
    rw [List.mem_cons, not_or] at h
    exact splitAt_cons (Ne.symm h.1) (ih h.2)

/-- A part ends at the first separator. -/
theorem splitAt_append_cons (h : separator ∉ t) (u : Text) :
    splitAt separator (t ++ separator :: u) = t :: splitAt separator u := by
  induction t with
  | nil => exact splitAt_cons_self separator u
  | cons c rest ih =>
    rw [List.mem_cons, not_or] at h
    exact splitAt_cons (Ne.symm h.1) (ih h.2)

/-- **Parts without the separator that are put together with it are its parts again.** -/
theorem splitAt_joinWith : ∀ {parts : List Text}, parts ≠ [] → (∀ p ∈ parts, separator ∉ p) →
    splitAt separator (joinWith [separator] parts) = parts
  | [p], _, h => splitAt_of_notMem (h p List.mem_cons_self)
  | p :: q :: parts, _, h => by
    have hrest := splitAt_joinWith (List.cons_ne_nil q parts) fun p' hp => h p' (List.mem_cons_of_mem _ hp)
    rw [joinWith, List.append_assoc, List.singleton_append, splitAt_append_cons (h p List.mem_cons_self), hrest]
    exact List.cons_ne_nil q parts

/-- A text that is put together begins like its first part. -/
theorem head?_joinWith {p : Text} {parts : List Text} (h : p ≠ []) :
    (joinWith u (p :: parts)).head? = p.head? := by
  obtain ⟨c, rest, rfl⟩ := List.exists_cons_of_ne_nil h
  cases parts <;> rfl

end Parts

end Text

/-! ## Normal forms -/

namespace Path

/-- The number of slashes that a text begins with. -/
def leadingSlashes (t : Text) : Nat := (t.takeWhile (· = ('/' : CodePoint))).length

/-- The components of a text that count: those between slashes that are neither empty nor a single dot. -/
def properComponents (t : Text) : List Text := (Text.splitAt '/' t).filter isProper

/-- The text `s` is the normal form of `t`. -/
structure IsNormalForm (t s : Text) : Prop where
  /-- The components are kept, in order, and nothing else stands between the slashes. -/
  components : properComponents s = properComponents t
  spelled : s = ".".toText ∨
    s = List.replicate (leadingSlashes s) ('/' : CodePoint) ++ Text.joinWith "/".toText (properComponents t)
  network : "//".toText <+: s ↔ leadingSlashes t = 2
  absolute : leadingSlashes s = 1 ↔ leadingSlashes t = 1 ∨ 3 ≤ leadingSlashes t
  /-- There are never more than two slashes in front. -/
  slashes : leadingSlashes s ≤ 2
  dot : s = ".".toText ↔ leadingSlashes t = 0 ∧ properComponents t = []

/-- Every component is proper and has no slash in it. -/
def IsNormal (p : Path) : Prop := ∀ c ∈ p.components, isProper c = true ∧ ('/' : CodePoint) ∉ c

section Normal

variable {p : Path} {t : Text}

theorem isNormal_ofText (t : Text) : (ofText t).IsNormal := fun _ hc =>
  ⟨(List.mem_filter.1 hc).2, Text.notMem_of_mem_splitAt (List.mem_filter.1 hc).1⟩

theorem isProper_iff {c : Text} : isProper c = true ↔ c ≠ [] ∧ c ≠ ".".toText := by
  simp [isProper]

theorem properComponents_slash (t : Text) : properComponents ('/' :: t) = properComponents t := by
  rw [properComponents, Text.splitAt_cons_self]
  rfl

theorem properComponents_replicate : ∀ (n : Nat) (t : Text),
    properComponents (List.replicate n ('/' : CodePoint) ++ t) = properComponents t
  | 0, t => rfl
  | n + 1, t => by
    rw [List.replicate_succ, List.cons_append, properComponents_slash, properComponents_replicate n t]

/-- The proper components of components put together are these components. -/
theorem properComponents_joinWith (h : p.IsNormal) :
    properComponents (Text.joinWith "/".toText p.components) = p.components := by
  have hproper : p.components.filter isProper = p.components := List.filter_eq_self.2 fun c hc => (h c hc).1
  by_cases hnil : p.components = []
  · rw [hnil]
    rfl
  · exact (congrArg _ (Text.splitAt_joinWith hnil fun c hc => (h c hc).2)).trans hproper

/-- Components put together do not begin with a slash. -/
theorem leadingSlashes_joinWith (h : p.IsNormal) : leadingSlashes (Text.joinWith "/".toText p.components) = 0 := by
  cases hcomponents : p.components with
  | nil => rfl
  | cons c rest =>
    obtain ⟨hproper, hslash⟩ := h c (hcomponents ▸ List.mem_cons_self)
    obtain ⟨d, c, rfl⟩ := List.exists_cons_of_ne_nil (isProper_iff.1 hproper).1
    have hhead : (Text.joinWith "/".toText ((d :: c) :: rest)).head? = some d :=
      Text.head?_joinWith (List.cons_ne_nil d c)
    obtain ⟨more, hmore⟩ := List.head?_eq_some_iff.1 hhead
    have hd : d ≠ '/' := fun e => hslash (e ▸ List.mem_cons_self)
    rw [hmore, leadingSlashes, List.takeWhile_cons_of_neg (by simpa using hd)]
    rfl

theorem leadingSlashes_replicate (n : Nat) (t : Text) :
    leadingSlashes (List.replicate n ('/' : CodePoint) ++ t) = n + leadingSlashes t := by
  rw [leadingSlashes, List.takeWhile_append_of_pos (by simp), List.length_append, List.length_replicate]
  rfl

theorem rootText_eq (r : PathRoot) : r.text = List.replicate r.text.length ('/' : CodePoint) := by
  cases r <;> rfl

theorem joinWith_eq_nil_iff (h : p.IsNormal) :
    Text.joinWith "/".toText p.components = [] ↔ p.components = [] := by
  refine ⟨fun hjoin => ?_, fun hnil => by rw [hnil]; rfl⟩
  have hcomponents := properComponents_joinWith h
  rw [hjoin] at hcomponents
  exact hcomponents.symm

/-- A path is written with the slashes of its root and its components, unless it has neither. -/
theorem text_eq (h : p.IsNormal) : p.text = if p.root = .relative ∧ p.components = [] then ".".toText
    else List.replicate p.root.text.length ('/' : CodePoint) ++ Text.joinWith "/".toText p.components := by
  rw [← rootText_eq, text]
  cases hroot : p.root with
  | relative => simp only [PathRoot.text, List.nil_append, List.isEmpty_iff, joinWith_eq_nil_iff h, true_and]
  | absolute | network => exact (if_neg (by simp [PathRoot.text])).trans (if_neg (by simp)).symm

theorem leadingSlashes_text (h : p.IsNormal) : leadingSlashes p.text = p.root.text.length := by
  rw [text_eq h]
  split
  · next hdot =>
    rw [hdot.1]
    rfl
  · rw [leadingSlashes_replicate, leadingSlashes_joinWith h, Nat.add_zero]

theorem properComponents_text (h : p.IsNormal) : properComponents p.text = p.components := by
  rw [text_eq h]
  split
  · next hdot =>
    rw [hdot.2]
    rfl
  · rw [properComponents_replicate, properComponents_joinWith h]

theorem text_eq_dot_iff (h : p.IsNormal) : p.text = ".".toText ↔ p.root = .relative ∧ p.components = [] := by
  refine ⟨fun hdot => ?_, fun hnone => by rw [text_eq h, if_pos hnone]⟩
  have hslashes := leadingSlashes_text h
  have hcomponents := properComponents_text h
  rw [hdot] at hslashes hcomponents
  refine ⟨?_, hcomponents.symm⟩
  cases hroot : p.root with
  | relative => rfl
  | absolute | network =>
    rw [hroot] at hslashes
    cases hslashes

theorem rootOfText_eq (t : Text) : PathRoot.ofText t =
    if leadingSlashes t = 0 then .relative else if leadingSlashes t = 2 then .network else .absolute := by
  unfold PathRoot.ofText leadingSlashes
  split <;> simp_all

/-- **A path in normal form is read from its own text.** -/
theorem ofText_text (h : p.IsNormal) : ofText p.text = p := by
  have hroot : PathRoot.ofText p.text = p.root := by
    rw [rootOfText_eq, leadingSlashes_text h]
    cases p.root <;> rfl
  exact congrArg₂ Path.mk hroot (properComponents_text h)

/-- The slashes of the root that a text begins with. -/
theorem length_root_ofText (t : Text) : (ofText t).root.text.length =
    if leadingSlashes t = 0 then 0 else if leadingSlashes t = 2 then 2 else 1 := by
  rw [ofText, rootOfText_eq]
  split_ifs <;> rfl

theorem root_eq_relative_iff : (ofText t).root = .relative ↔ leadingSlashes t = 0 := by
  rw [ofText, rootOfText_eq]
  split_ifs with h h' <;> simp [h]

/-- Two slashes are in front iff no fewer are counted there. -/
theorem slashes_isPrefix_iff : "//".toText <+: t ↔ 2 ≤ leadingSlashes t := by
  rw [show "//".toText = List.replicate 2 ('/' : CodePoint) from rfl]
  constructor
  · rintro ⟨u, rfl⟩
    rw [leadingSlashes_replicate]
    omega
  · intro h
    have hall : t.takeWhile (· = ('/' : CodePoint)) = List.replicate (leadingSlashes t) ('/' : CodePoint) :=
      List.eq_replicate_iff.2 ⟨rfl, fun c hc => by simpa using List.mem_takeWhile_imp hc⟩
    obtain ⟨n, hn⟩ := Nat.exists_eq_add_of_le h
    rw [hn, ← List.replicate_append_replicate] at hall
    exact (List.prefix_append _ _).trans (hall ▸ List.takeWhile_prefix _)

/-- **The text of a path is the normal form of the text that the path is read from.** -/
theorem isNormalForm_text (t : Text) : IsNormalForm t (ofText t).text := by
  have h := isNormal_ofText t
  have hslashes := (leadingSlashes_text h).trans (length_root_ofText t)
  have hle : leadingSlashes (ofText t).text ≤ 2 := by grind
  refine ⟨properComponents_text h, ?_, ?_, ?_, hle, ?_⟩
  · rw [leadingSlashes_text h]
    exact (ite_eq_or_eq _ _ _).imp (text_eq h).trans (text_eq h).trans
  · rw [slashes_isPrefix_iff]
    grind
  · grind
  · rw [text_eq_dot_iff h, root_eq_relative_iff]
    exact Iff.rfl

end Normal

/-! ## The chosen path -/

/-- The text that the path of the configuration is read from: the given one, also when it is empty, else the one in the
environment unless it is empty, else that of the default path. -/
inductive Chosen : (given environment : Option Text) → Text → Prop
  | given (t : Text) (environment : Option Text) : Chosen (some t) environment t
  | environment {t : Text} (h : t ≠ []) : Chosen none (some t) t
  | default {environment : Option Text} (h : environment = none ∨ environment = some []) :
    Chosen none environment ".opensearch-agent-tools/tools.yaml".toText

theorem exists_chosen (given environment : Option Text) : ∃ t, Chosen given environment t := by
  match given, environment with
  | some t, environment => exact ⟨t, .given t environment⟩
  | none, some (c :: rest) => exact ⟨_, .environment (List.cons_ne_nil c rest)⟩
  | none, some [] => exact ⟨_, .default (.inr rfl)⟩
  | none, none => exact ⟨_, .default (.inl rfl)⟩

/-- The path is read from the chosen text, and nothing else has a say in it. -/
theorem resolve_eq {given environment : Option Text} {t : Text} (h : Chosen given environment t) :
    resolve given environment = ofText t := by
  cases h with
  | given t environment => rfl
  | environment h => exact if_neg (by simpa using h)
  | default h => obtain rfl | rfl := h <;> decide

end Path

namespace Cli

/-- A command with a configuration. -/
inductive TakesConfig : (Option Text → Task) → Prop
  | describe (type : Text) (json : Bool) : TakesConfig fun config => .describe type config json
  | run (type : Text) (input : Option Text) : TakesConfig fun config => .run type input config

/-- An empty option counts as none. -/
theorem perform_emptyConfig {task : Option Text → Task} (h : TakesConfig task) (s : Surroundings) (level : LogLevel) :
    perform s level (task (some [])) = perform s level (task none) := by
  cases h <;> rfl

/-- **The path of the configuration** is read from the chosen text alone, its text is the normal form of that text, and
it is read from its own text again. So what is loaded is the same whether a path is given or stands in the environment,
and a line with an empty option for the configuration has the answer of the line without it. -/
theorem resolve_of_chosen :
    (∀ given environment, ∃ t, Path.Chosen given environment t ∧
      Path.IsNormalForm t (Path.resolve given environment).text ∧
      (∀ given' environment', Path.Chosen given' environment' t →
        Path.resolve given' environment' = Path.resolve given environment) ∧
      ∀ environment', Path.resolve (some (Path.resolve given environment).text) environment' =
        Path.resolve given environment) ∧
    (∀ (find : Path → Found) (t : Text) environment p q, t ≠ [] → p = Path.resolve (some t) environment →
      q = Path.resolve none (some t) → Config.load p (find p) = Config.load q (find q)) ∧
    ∀ (s : Surroundings) level task arguments arguments', TakesConfig task →
      Invocation.ofArguments arguments = .ok ⟨level, task (some [])⟩ →
      Invocation.ofArguments arguments' = .ok ⟨level, task none⟩ → answer s arguments = answer s arguments' := by
  refine ⟨fun given environment => ?_, ?_, ?_⟩
  · obtain ⟨t, ht⟩ := Path.exists_chosen given environment
    rw [Path.resolve_eq ht]
    exact ⟨t, ht, Path.isNormalForm_text t, fun given' environment' h => Path.resolve_eq h,
      fun environment' => Path.ofText_text (Path.isNormal_ofText t)⟩
  · rintro find t environment p q ht rfl rfl
    rw [Path.resolve_eq (.given t environment), Path.resolve_eq (.environment ht)]
  · intro s level task arguments arguments' htask hempty hnone
    rw [answer, answer, written, written, hempty, hnone]
    simp only [perform_emptyConfig htask s level]

/-- Three slashes in front are one, and a dot between slashes and the slash at the end are dropped. -/
theorem resolve_of_threeSlashes : ∃ t p : Text, t = "///a/.//../b.yaml/".toText ∧ p = "/a/../b.yaml".toText ∧
    (Path.resolve none (some t)).text = p ∧ Path.IsNormalForm t p ∧
    Path.resolve (some p) (some "c.yaml".toText) = Path.resolve none (some t) ∧
    (∀ find : Path → Found, Config.load (Path.resolve (some t) none) (find (Path.resolve (some t) none)) =
      Config.load (Path.resolve none (some t)) (find (Path.resolve none (some t)))) ∧
    ∀ s, answer s ["describe".toText, ToolKind.createMonitorParameters.typeName, "--config".toText, []] =
      answer s ["describe".toText, ToolKind.createMonitorParameters.typeName] := by
  obtain ⟨t, ht⟩ : ∃ t, t = "///a/.//../b.yaml/".toText := ⟨_, rfl⟩
  obtain ⟨hpath, hload, hanswer⟩ := resolve_of_chosen
  obtain ⟨u, hchosen, hnormal, -, hagain⟩ := hpath none (some t)
  have hu : u = t := by
    cases hchosen with
    | environment _ => rfl
    | default h => exact absurd h (by rw [ht]; decide)
  have htext : (Path.resolve none (some t)).text = "/a/../b.yaml".toText := by
    rw [ht]
    decide
  have hne : t ≠ [] := by
    rw [ht]
    decide
  rw [hu, htext] at hnormal
  rw [htext] at hagain
  exact ⟨t, _, ht, rfl, htext, hnormal, hagain _, fun find => hload find t none _ _ hne rfl rfl,
    fun s => hanswer s .warning (fun config => .describe _ config false) _ _ (.describe _ _) rfl rfl⟩

end Cli

end MonitorIntake
