import MonitorIntake.Proofs.Yaml.Outline

/-!
# Values of outlines

The tokens of an outline make nodes without anchors, one for each of its keys and texts (`blockMapping_tokens`,
`Outline.HasNodes`). Such nodes have a value, since no key is a merge key and no alias is met (`examine_eq_ok`), and
their values are what is written there (`value_mapping`). So **the text of an outline with different keys is read as the
outline** (`read_outline`).
-/

namespace MonitorIntake.Yaml

namespace Outline

/-- The outlines in an outline with itself, the most that are in one another. -/
def height : Outline → Nat
  | nil => 0
  | text _ _ rest => max 1 rest.height
  | nested _ _ inner rest => max (inner.height + 1) rest.height

/-- What an outline says. -/
def values : Outline → List (Scalar × Value)
  | nil => []
  | text key t rest => (.text key.name, .scalar (.text t)) :: rest.values
  | nested key _ inner rest => (.text key.name, .mapping inner.values) :: rest.values

/-- The names of the keys at the first column. -/
def names : Outline → List Text
  | nil => []
  | text key _ rest => key.name :: rest.names
  | nested key _ _ rest => key.name :: rest.names

/-- No two keys of one block have the same name. -/
def HasDistinctKeys : Outline → Prop
  | nil => True
  | text key _ rest => key.name ∉ rest.names ∧ rest.HasDistinctKeys
  | nested key _ inner rest => key.name ∉ rest.names ∧ inner.HasDistinctKeys ∧ rest.HasDistinctKeys

/-- The entries are nodes of what an outline says, however they are numbered. -/
inductive HasNodes : Outline → List (Node × Node) → Prop
  | nil : HasNodes nil []
  | text {key : Key} {t : Text} {rest : Outline} {es : List (Node × Node)} (i j : Nat) (hrest : HasNodes rest es) :
    HasNodes (text key t rest) ((.scalar ⟨none, i⟩ .text key.name, .scalar ⟨none, j⟩ .text t) :: es)
  | nested {key : Key} {column : Nat} {inner rest : Outline} {es fs : List (Node × Node)} (i j : Nat)
    (hinner : HasNodes inner fs) (hrest : HasNodes rest es) : HasNodes (nested key column inner rest)
      ((.scalar ⟨none, i⟩ .text key.name, .mapping ⟨none, j⟩ .mapping fs) :: es)

end Outline

/-! ## Nodes -/

namespace Composer

/-- The composer before other tokens. -/
def before (ts : List Token) (c : Composer) : Composer := { c with stream := { c.stream with tokens := ts } }

section Nodes

variable {fuel depth column : Nat} {place : Place} {token : Token} {ts : List Token} {o : Outline}
  {done : List (Node × Node)}

/-- A token that begins a node without properties. -/
inductive BeginsContent : Token → Prop
  | scalar (t : Text) (plain : Bool) : BeginsContent (.scalar t plain)
  | mapping : BeginsContent .blockMappingStart

theorem node_eq_content (hdepth : depth < depthLimit) (htoken : BeginsContent token) (c : Composer) :
    node (fuel + 1) depth place (c.before (token :: ts)) =
      content fuel depth place ⟨none, none⟩ (c.before (token :: ts)) := by
  rw [node, if_neg (Nat.not_le.2 hdepth)]
  cases htoken <;> rfl

/-- The node of a scalar; its number does not matter. -/
theorem node_scalar (hdepth : depth < depthLimit) (fuel : Nat) (place : Place) (t : Text) (plain : Bool)
    (ts : List Token) (c : Composer) : ∃ i, node (fuel + 2) depth place (c.before (.scalar t plain :: ts)) =
      .ok (.scalar ⟨none, i⟩ (if plain then Tag.implicit t else .text) t, c.before ts) := by
  refine ⟨ts.length, ?_⟩
  rw [node_eq_content hdepth (.scalar t plain), content]
  rfl

theorem node_mapping (hdepth : depth < depthLimit) (hplace : place.block = true) (c : Composer) :
    node (fuel + 2) depth place (c.before (.blockMappingStart :: ts)) =
      blockMapping fuel depth ⟨none, none⟩ [] (c.before ts) := by
  rw [node_eq_content hdepth .mapping, content]
  show (if place.block = true then _ else _) = _
  rw [if_pos hplace]
  rfl

/-- A key or a value that is written begins with its token. -/
theorem nodeOrEmpty_eq_node (htoken : BeginsContent token) (c : Composer) :
    nodeOrEmpty (fuel + 1) depth place endsPart (c.before (token :: ts)) =
      node fuel depth place (c.before (token :: ts)) := by
  rw [nodeOrEmpty]
  cases htoken <;> rfl

theorem valueOrEmpty_eq_node (htoken : BeginsContent token) (c : Composer) :
    valueOrEmpty (fuel + 2) depth place endsPart (c.before (.value :: token :: ts)) =
      node fuel depth place (c.before (token :: ts)) := by
  rw [valueOrEmpty]
  exact nodeOrEmpty_eq_node htoken c

theorem blockMapping_end (c : Composer) : blockMapping (fuel + 1) depth ⟨none, none⟩ done (c.before (.blockEnd :: ts)) =
    .ok (.mapping ⟨none, ts.length⟩ .mapping done.reverse, c.before ts) := by
  rw [blockMapping]
  rfl

/-- The next entry of a mapping, when its value is known. -/
theorem blockMapping_key {key : Outline.Key} (hkey : key.IsProper) (hdepth : depth + 1 < depthLimit)
    (htoken : BeginsContent token) {n : Node} {c c' : Composer}
    (hvalue : node (fuel + 1) (depth + 1) .ofMapping (c.before (token :: ts)) = .ok (n, c')) :
    ∃ i, ∀ done, blockMapping (fuel + 4) depth ⟨none, none⟩ done (c.before (Outline.keyTokens key ++ token :: ts)) =
      blockMapping (fuel + 3) depth ⟨none, none⟩ ((.scalar ⟨none, i⟩ .text key.name, n) :: done) c' := by
  obtain ⟨i, hname⟩ := node_scalar hdepth fuel .ofMapping key.name key.isPlain (.value :: token :: ts) c
  have htag : (if key.isPlain then Tag.implicit key.name else .text) = .text := by
    cases key with
    | word w => exact hkey.2.2
    | quoted t => rfl
  rw [htag, ← nodeOrEmpty_eq_node (.scalar _ _)] at hname
  rw [← valueOrEmpty_eq_node htoken] at hvalue
  have hpeek : (c.before (Outline.keyTokens key ++ token :: ts)).peek = .ok .key := rfl
  have hdrop : (c.before (Outline.keyTokens key ++ token :: ts)).drop =
      c.before (.scalar key.name key.isPlain :: .value :: token :: ts) := rfl
  refine ⟨i, fun done => ?_⟩
  rw [blockMapping, hpeek]
  simp only [bind, Except.bind, hdrop, hname, hvalue]

/-- **The tokens of an outline make its nodes.** -/
theorem blockMapping_tokens (hproper : o.IsProper column) (depth : Nat) (hdepth : depth + o.height < depthLimit)
    (fuel : Nat) (hfuel : 6 * o.tokens.length < fuel) (done : List (Node × Node)) (ts : List Token) (c : Composer) :
    ∃ es i, o.HasNodes es ∧
      blockMapping fuel depth ⟨none, none⟩ done (c.before (o.tokens ++ .blockEnd :: ts)) =
        .ok (.mapping ⟨none, i⟩ .mapping (done.reverse ++ es), c.before ts) := by
  induction o generalizing column depth fuel done ts with
  | nil =>
    obtain ⟨fuel, rfl⟩ : ∃ k, fuel = k + 1 := ⟨fuel - 1, by omega⟩
    refine ⟨[], ts.length, .nil, ?_⟩
    rw [List.append_nil]
    exact blockMapping_end c
  | text key t rest ih =>
    obtain ⟨hkey, -, hrest⟩ := hproper
    simp only [Outline.height, Outline.tokens, Outline.keyTokens, List.length_append, List.length_cons,
      List.length_nil] at hdepth hfuel
    obtain ⟨fuel, rfl⟩ : ∃ k, fuel = k + 5 := ⟨fuel - 5, by omega⟩
    have hinside : depth + 1 < depthLimit := by omega
    obtain ⟨j, hvalue⟩ := node_scalar hinside fuel .ofMapping t false (rest.tokens ++ .blockEnd :: ts) c
    obtain ⟨i, hentry⟩ := blockMapping_key hkey hinside (.scalar _ _) hvalue
    obtain ⟨es, m, hes, hmapping⟩ := ih hrest depth (by omega) (fuel + 4) (by omega)
      ((.scalar ⟨none, i⟩ .text key.name, .scalar ⟨none, j⟩ .text t) :: done) ts
    refine ⟨_, m, .text i j hes, ?_⟩
    rw [Outline.tokens, List.append_assoc, List.cons_append, hentry]
    simpa using hmapping
  | nested key inside inner rest ihinner ihrest =>
    obtain ⟨hkey, -, -, hinner, hrest⟩ := hproper
    simp only [Outline.height, Outline.tokens, Outline.keyTokens, List.length_append, List.length_cons,
      List.length_nil] at hdepth hfuel
    obtain ⟨fuel, rfl⟩ : ∃ k, fuel = k + 5 := ⟨fuel - 5, by omega⟩
    have hinside : depth + 1 < depthLimit := by omega
    obtain ⟨fs, j, hfs, hvalue⟩ := ihinner hinner (depth + 1) (by omega) fuel (by omega) []
      (rest.tokens ++ .blockEnd :: ts)
    have hplace : Place.ofMapping.block = true := rfl
    rw [← node_mapping hinside hplace] at hvalue
    obtain ⟨i, hentry⟩ := blockMapping_key hkey hinside .mapping hvalue
    obtain ⟨es, m, hes, hmapping⟩ := ihrest hrest depth (by omega) (fuel + 4) (by omega)
      ((.scalar ⟨none, i⟩ .text key.name, .mapping ⟨none, j⟩ .mapping fs) :: done) ts
    refine ⟨_, m, .nested i j hfs hes, ?_⟩
    rw [Outline.tokens, List.append_assoc, List.cons_append, List.append_assoc, List.cons_append, hentry]
    simpa using hmapping

/-- The document of the text of an outline. -/
theorem compose_outline (hproper : o.IsProper 0) (hne : o ≠ .nil) (hheight : o.height < depthLimit) :
    ∃ es i, o.HasNodes es ∧
      Document.compose ⟨o.document, none⟩ = .ok ⟨some (.mapping ⟨none, i⟩ .mapping es), []⟩ := by
  obtain ⟨c, hc⟩ : ∃ c : Composer, c = ⟨⟨[], none⟩, Tag.standardHandles, [], []⟩ := ⟨_, rfl⟩
  obtain ⟨es, i, hes, hmapping⟩ := blockMapping_tokens hproper 0 (by omega) (6 * (o.tokens.length + 3) + 4) (by omega)
    [] [.streamEnd] c
  have hplace : Place.inBlock.block = true := rfl
  rw [← node_mapping (by decide) hplace] at hmapping
  have hlength : (Token.blockMappingStart :: (o.tokens ++ [.blockEnd, .streamEnd])).length = o.tokens.length + 3 := by
    simp
  have hpeek : (c.before (.blockMappingStart :: (o.tokens ++ [.blockEnd, .streamEnd]))).peek =
      .ok .blockMappingStart := rfl
  have hstart : ∀ ts, (⟨⟨ts, none⟩, Tag.standardHandles, [], []⟩ : Composer) = c.before ts := by
    intro ts
    rw [hc]
    rfl
  have hanchors : (c.before [.streamEnd]).anchors = [] := by
    rw [hc]
    rfl
  refine ⟨es, i, hes, ?_⟩
  rw [Document.compose, Token.scan_outline hproper hne]
  dsimp only
  rw [hlength, hstart, document, hpeek]
  simp only [bind, Except.bind, hmapping, hanchors]
  rfl

end Nodes

end Composer

/-! ## Examination -/

namespace Node

section Outlines

variable {i size depth : Nat} {o : Outline} {es : List (Node × Node)} {x : Examined}

theorem scalar?_mapping : (Node.mapping ⟨none, i⟩ .mapping es).scalar? [] = .ok none := rfl

/-- No key is a merge key, so there is nothing to be put in the place of one. -/
theorem flatten_eq_self (h : o.HasNodes es) : (Node.mapping ⟨none, i⟩ .mapping es).flatten size [] =
    .ok (.mapping ⟨none, i⟩ .mapping es, []) := by
  have hflat : (Node.mapping ⟨none, i⟩ .mapping es).isFlat [] = true := by
    show es.all _ = true
    induction h with
    | nil => rfl
    | text i j hrest ih => exact ih
    | nested i j hinner hrest ihinner ihrest => exact ihrest
  rw [flatten]
  cases (size + 2) * (size + 2) with
  | zero => rfl
  | succ fuel =>
    rw [flattenFrom]
    exact if_pos ((Bool.and_true _).trans hflat)

/-- The node is a mapping with the entries of an outline. -/
def IsOutlined (n : Node) : Prop := ∃ o es i, Outline.HasNodes o es ∧ n = .mapping ⟨none, i⟩ .mapping es

/-- Only outlines are still to be examined. -/
structure Examined.IsOutlined (x : Examined) : Prop where
  anchors : x.anchors = []
  later : ∀ n ∈ x.later, n.IsOutlined

/-- The entries of an outline are met, and the outlines in it are examined later. -/
theorem Examined.meetEntries_ok (hx : x.IsOutlined) (h : o.HasNodes es) :
    ∃ y, es.foldlM (fun x e => x.meetEntry e.1 e.2) x = .ok y ∧ y.IsOutlined := by
  induction h generalizing x with
  | nil => exact ⟨x, rfl, hx⟩
  | text i j hrest ih =>
    obtain ⟨anchors, begun, later⟩ := x
    obtain ⟨rfl, hlater⟩ := hx
    exact ih ⟨rfl, hlater⟩
  | nested i j hinner hrest ihinner ihrest =>
    obtain ⟨anchors, begun, later⟩ := x
    obtain ⟨rfl, hlater⟩ := hx
    exact ihrest ⟨rfl, List.forall_mem_cons.2 ⟨⟨_, _, _, hinner, rfl⟩, hlater⟩⟩

theorem Examined.meetContent_ok (size : Nat) {n : Node} (hx : x.IsOutlined) (hn : n.IsOutlined) :
    ∃ y, x.meetContent size n = .ok y ∧ y.IsOutlined := by
  obtain ⟨o, es, i, hes, rfl⟩ := hn
  obtain ⟨y, hmet, hy⟩ := meetEntries_ok hx hes
  refine ⟨y, ?_, hy⟩
  obtain ⟨anchors, begun, later⟩ := x
  obtain rfl : anchors = [] := hx.anchors
  rw [meetContent]
  dsimp only [meant, anchor?, Node.tag]
  rw [flatten_eq_self hes]
  exact hmet

/-- One level of outlines. -/
theorem Examined.meetContents_ok (size : Nat) {ns : List Node} (hx : x.IsOutlined) (hns : ∀ n ∈ ns, n.IsOutlined) :
    ∃ y, ns.foldlM (fun x n => x.meetContent size n) x = .ok y ∧ y.IsOutlined := by
  induction ns generalizing x with
  | nil => exact ⟨x, rfl, hx⟩
  | cons n ns ih =>
    obtain ⟨hn, hns⟩ := List.forall_mem_cons.1 hns
    obtain ⟨y, hmet, hy⟩ := meetContent_ok size hx hn
    rw [List.foldlM_cons, hmet]
    exact ih hy hns

/-- **Every node of an outline has a value.** -/
theorem examine_eq_ok (levels : Nat) (hx : x.IsOutlined) : examine size levels x = .ok [] := by
  induction levels generalizing x with
  | zero => rw [examine, hx.anchors]
  | succ levels ih =>
    have hnone : Examined.IsOutlined { x with later := [] } := ⟨hx.anchors, by simp⟩
    have hlater : ∀ n ∈ x.later.reverse, n.IsOutlined := by simpa using hx.later
    obtain ⟨y, hmet, hy⟩ := Examined.meetContents_ok size hnone hlater
    rw [examine]
    split
    · rw [hx.anchors]
    · rw [hmet]
      exact ih hy

/-! ## Values -/

/-- The entries of a mapping with the value of one more. -/
def putValue (size depth : Nat) (vs : List (Scalar × Value)) (e : Node × Node) : List (Scalar × Value) :=
  match e.1.scalar? [] with
  | .ok (some key) => Value.putEntry key (value size [] depth e.2) vs
  | _ => vs

/-- No value has one of the names. -/
def IsFree (names : List Text) (vs : List (Scalar × Value)) : Prop :=
  ∀ name ∈ names, ∀ w ∈ vs, w.1.same (.text name) = false

theorem isFree_nil (names : List Text) : IsFree names [] := fun _ _ _ hw => absurd hw List.not_mem_nil

theorem IsFree.concat {name : Text} {names : List Text} {vs : List (Scalar × Value)} (h : IsFree (name :: names) vs)
    (hname : name ∉ names) (v : Value) : IsFree names (vs ++ [(.text name, v)]) := by
  intro other hother w hw
  rcases List.mem_append.1 hw with hw | hw
  · exact h other (List.mem_cons_of_mem _ hother) w hw
  · obtain rfl := List.mem_singleton.1 hw
    have hne : name ≠ other := by
      rintro rfl
      exact hname hother
    simpa [Scalar.same] using hne

/-- The value of a new key is the last. -/
theorem IsFree.putEntry_eq {name : Text} {names : List Text} {vs : List (Scalar × Value)}
    (h : IsFree (name :: names) vs) (v : Value) : Value.putEntry (.text name) v vs = vs ++ [(.text name, v)] := by
  have hfirst := h name List.mem_cons_self
  clear h
  induction vs with
  | nil => rfl
  | cons w vs ih =>
    obtain ⟨hw, hvs⟩ := List.forall_mem_cons.1 hfirst
    rw [Value.putEntry, hw, if_neg Bool.false_ne_true, ih hvs, List.cons_append]

/-- The value of a mapping without merge keys. -/
theorem value_mapping (h : o.HasNodes es) (i : Nat) :
    (Node.mapping ⟨none, i⟩ .mapping es).value size [] (depth + 1) = .mapping (es.foldl (putValue size depth) []) := by
  rw [value]
  dsimp only [meant, anchor?, Node.tag]
  rw [scalar?_mapping, flatten_eq_self h]
  rfl

/-- The values of an outline are those of its nodes, in order, behind values of other keys. -/
theorem foldl_putValue (h : o.HasNodes es) (hheight : o.height ≤ depth) (hkeys : o.HasDistinctKeys)
    {vs : List (Scalar × Value)} (hvs : IsFree o.names vs) :
    es.foldl (putValue size depth) vs = vs ++ o.values := by
  induction h generalizing depth vs with
  | nil => exact (List.append_nil _).symm
  | @text key t rest es i j hrest ih =>
    obtain ⟨hkey, hkeys⟩ := hkeys
    simp only [Outline.height] at hheight
    obtain ⟨depth, rfl⟩ : ∃ k, depth = k + 1 := ⟨depth - 1, by omega⟩
    have hput : putValue size (depth + 1) vs (.scalar ⟨none, i⟩ .text key.name, .scalar ⟨none, j⟩ .text t) =
        vs ++ [(.text key.name, .scalar (.text t))] := hvs.putEntry_eq _
    rw [List.foldl_cons, hput, ih (by omega) hkeys (hvs.concat hkey _), Outline.values, List.append_assoc]
    rfl
  | @nested key column inner rest es fs i j hinner hrest ihinner ihrest =>
    obtain ⟨hkey, hinnerkeys, hkeys⟩ := hkeys
    simp only [Outline.height] at hheight
    obtain ⟨depth, rfl⟩ : ∃ k, depth = k + 1 := ⟨depth - 1, by omega⟩
    have hvalue : (Node.mapping ⟨none, j⟩ .mapping fs).value size [] (depth + 1) = .mapping inner.values := by
      rw [value_mapping hinner, ihinner (by omega) hinnerkeys (isFree_nil _), List.nil_append]
    have hput : putValue size (depth + 1) vs (.scalar ⟨none, i⟩ .text key.name, .mapping ⟨none, j⟩ .mapping fs) =
        vs ++ [(.text key.name, .mapping inner.values)] := by
      rw [← hvalue]
      exact hvs.putEntry_eq _
    rw [List.foldl_cons, hput, ihrest (by omega) hkeys (hvs.concat hkey _), Outline.values, List.append_assoc]
    rfl

end Outlines

end Node

/-- **The text of an outline is read as the outline.** -/
theorem read_outline {o : Outline} (hproper : o.IsProper 0) (hne : o ≠ .nil) (hkeys : o.HasDistinctKeys) (depth : Nat)
    (hdepth : o.height ≤ depth) (hheight : o.height < depthLimit) :
    read (depth + 1) ⟨o.document, none⟩ = .ok (.mapping o.values) := by
  obtain ⟨es, i, hes, hcompose⟩ := Composer.compose_outline hproper hne hheight
  have hexamined : Node.Examined.IsOutlined ⟨[], [], [.mapping ⟨none, i⟩ .mapping es]⟩ :=
    ⟨rfl, List.forall_mem_singleton.2 ⟨o, es, i, hes, rfl⟩⟩
  obtain ⟨size, hsize⟩ : ∃ n, Document.size ⟨some (.mapping ⟨none, i⟩ .mapping es), []⟩ = n := ⟨_, rfl⟩
  have hvalue : (Node.mapping ⟨none, i⟩ .mapping es).value size [] (depth + 1) = .mapping o.values := by
    rw [Node.value_mapping hes, Node.foldl_putValue hes hdepth hkeys (Node.isFree_nil _), List.nil_append]
  rw [read, hcompose]
  show Document.value (depth + 1) ⟨some (.mapping ⟨none, i⟩ .mapping es), []⟩ = _
  rw [Document.value, hsize]
  dsimp only
  rw [Node.Examined.meet, Node.scalar?_mapping]
  simp only [bind, Except.bind, Node.anchor?, pure, Except.pure, Node.examine_eq_ok _ hexamined, hvalue]

end MonitorIntake.Yaml
