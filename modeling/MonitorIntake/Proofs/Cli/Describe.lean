import MonitorIntake.Proofs.Cli.Run
import MonitorIntake.Proofs.Json.Indented
import MonitorIntake.Proofs.Tool.Configured

/-!
# The command `describe`

**Both forms show the same descriptor** (`answer_of_describe`): the name and the description of a tool, by the
configuration or else those of its kind. As a value the descriptor is written in ASCII, whatever the two texts are, and
read back with their surrogate pairs joined. As lines it is written as it is, if the texts have no escape characters and
the medium can take them. A type that is not registered is refused in both forms alike, before a configuration is looked
for. Half of a surrogate pair is what neither form keeps (`describe_changes_halves`).
-/

namespace MonitorIntake

/-! ## Descriptors as values -/

namespace Json

variable {members : Members}

/-- Where no two names are the same and none has a pair, only the values are joined. -/
theorem joined_object (hnodup : (Members.names members).Nodup) (hnames : ∀ p ∈ members, p.1.joinPairs = p.1) :
    (object members).joined = .object (members.map fun p => (p.1, p.2.joined)) := by
  have hmap : (members.map fun p => (p.1.joinPairs, p.2.joined)) = members.map fun p => (p.1, p.2.joined) :=
    List.map_congr_left fun p hp => by rw [hnames p hp]
  have hkept : (Members.names (members.map fun p => (p.1, p.2.joined))).Nodup := by
    rwa [Members.names, List.map_map]
  rw [joined, joinedMembers_eq_map, hmap, Members.ofPairs_eq_self hkept]

end Json

namespace ToolKind

open Json (Fits)

variable (k : ToolKind)

theorem fits_schema : Fits 1 k.schema := by
  have typed : ∀ t : Text, Fits 5 (.object [("type".toText, .string t)]) := fun t =>
    .object (by decide) (List.nodup_singleton _) (List.forall_mem_singleton.2 .string)
  have input : Fits 3 k.inputSchema := by
    cases k
    refine .object (by decide) (by decide) ?_
    simp only [List.forall_mem_cons]
    refine ⟨.array (by decide) ?_, .null, .string, .string, List.forall_mem_nil _⟩
    exact List.forall_mem_cons.2 ⟨typed _, List.forall_mem_singleton.2 (typed _)⟩
  cases k
  refine .object (by decide) (by decide) ?_
  simp only [List.forall_mem_cons]
  exact ⟨.bool, .string, .object (by decide) (List.nodup_singleton _) (List.forall_mem_singleton.2 input), .string,
    .string, List.forall_mem_nil _⟩

/-- The texts of a schema are those of strings, which have no surrogates. -/
theorem joined_schema : k.schema.joined = k.schema := by
  cases k
  simp only [schema, inputSchema, contractText, inputText, contractName, Json.joined, Json.joinedMembers,
    Json.joinedItems, Text.joinPairs_toText]
  rfl

end ToolKind
namespace Cli

/-! ## Descriptors -/

section Descriptors

variable (t : Tool Json)

theorem fits_descriptor : Json.Fits 0 (descriptor t) := by
  have version : Json.Fits 1 ((t.kind.version.map Json.string).getD .null) := by
    cases t.kind.version with
    | none => exact .null
    | some v => exact .string
  refine .object (by decide) ?_ ?_
  · exact (by decide : ["name".toText, "type".toText, "version".toText, "description".toText,
      "input_schema".toText].Nodup)
  · simp only [List.forall_mem_cons]
    exact ⟨.string, .string, version, .string, t.kind.fits_schema, List.forall_mem_nil _⟩

theorem isFinite_descriptor : (descriptor t).isFinite = true := by
  cases t with
  | mk k name description client =>
    cases k
    rfl

/-- Joining changes the name and the description only. -/
theorem joined_descriptor : (descriptor t).joined =
    descriptor { t with name := t.name.joinPairs, description := t.description.joinPairs } := by
  obtain ⟨k, name, description, client⟩ := t
  rw [descriptor, Json.joined_object]
  · simp only [List.map_cons, List.map_nil, ToolKind.joined_schema, descriptor]
    cases k
    rfl
  · exact (by decide : ["name".toText, "type".toText, "version".toText, "description".toText,
      "input_schema".toText].Nodup)
  · simp [Text.joinPairs_toText]

end Descriptors

/-! ## Lines that describe a tool -/

section Lines

variable {s : Surroundings} {arguments : List Text} {level : LogLevel} {k : ToolKind} {config : Option Text} {c : Config}

/-- The line that describes a tool, with its options. After two hyphens the type may be any text. -/
def describeLine (type : Text) (config : Option Text) (json : Bool) : List Text :=
  ["describe".toText] ++ (config.elim [] fun t => ["--config".toText, t]) ++ (if json then ["--json".toText] else []) ++
    ["--".toText, type]

theorem ofArguments_describeLine (type : Text) (config : Option Text) (json : Bool) :
    Invocation.ofArguments (describeLine type config json) = .ok ⟨.warning, .describe type config json⟩ := by
  cases config <;> cases json <;> rfl

/-- What is written for a line that describes a tool, when the configuration can be loaded. -/
theorem written_of_describe {json : Bool}
    (hline : Invocation.ofArguments arguments = .ok ⟨level, .describe k.typeName config json⟩)
    (hconfig : Config.load (configPath config s.configPath) (s.find (configPath config s.configPath)) = .ok c) :
    written s arguments = Answer.writing s.medium []
      (if json then [Json.indented Json.ascii 0 (descriptor (.configured k none (some c)))]
        else description (.configured k none (some c))) := by
  rw [written, hline]
  simp only [perform, buildTool_typeName s k hconfig, Except.map, Except.mapError]

/-- An indented value is written and read back as it is. -/
theorem readBack_indented (m : Medium) (v : Json) : (Answer.writing m [] [Json.indented Json.ascii 0 v]).readBack m =
    Answer.success (Json.indented Json.ascii 0 v ++ "\n".toText) [] := by
  have hline : ∀ c ∈ Json.indented Json.ascii 0 v, c.val = 0x0A ∨ 0x20 ≤ c.val ∧ c.val ≤ 0x7E :=
    fun c hc => (Json.isAsciiLines_indented v 0 c hc).imp_left (congrArg CodePoint.val)
  have hprints : m.Prints (Json.indented Json.ascii 0 v) := by
    refine ⟨fun c hc => by have := hline c hc; omega, ?_⟩
    rw [Medium.canWrite, Text.hasSurrogate_eq_false.2 fun c hc => ?_]
    · exact Bool.or_true _
    · have := hline c hc
      simp only [CodePoint.isSurrogate, Bool.and_eq_false_iff, decide_eq_false_iff_not]
      omega
  have hreturn : ∀ c ∈ Json.indented Json.ascii 0 v ++ "\n".toText, c.val ≠ 0x0D :=
    List.forall_mem_append.2 ⟨fun c hc => by have := hline c hc; omega, by decide⟩
  rw [writing_eq_success (List.forall_mem_singleton.2 hprints)]
  simp only [Text.asLines, List.flatMap_cons, List.flatMap_nil, List.append_nil, Answer.success, Answer.readBack,
    Medium.readBack_eq_self hreturn, Medium.readBack_nil]

/-- The lines are printed as they are, if the name and the description are. -/
theorem writing_description {m : Medium} {t : Tool Json} (hname : m.Prints t.name)
    (hdescription : m.Prints t.description) :
    Answer.writing m [] (description t) = Answer.success (Text.asLines (description t)) [] := by
  have htype : m.Prints t.kind.typeName := by
    refine .of_isPrintable ?_
    cases t.kind
    decide +kernel
  have hversion : m.Prints (t.kind.version.getD "-".toText) := by
    refine .of_isPrintable ?_
    cases t.kind
    decide
  refine writing_eq_success ?_
  simp only [description, List.forall_mem_cons, Medium.prints_append]
  exact ⟨⟨.of_isPrintable (by decide), hname⟩, ⟨.of_isPrintable (by decide), htype⟩,
    ⟨.of_isPrintable (by decide), hversion⟩, .of_isPrintable rfl, hdescription, List.forall_mem_nil _⟩

/-- As a value the descriptor is read back with the pairs of its texts joined. -/
theorem answer_of_json {t : Tool Json} (ht : t = Tool.configured k none (some c))
    (hline : Invocation.ofArguments arguments = .ok ⟨level, .describe k.typeName config true⟩)
    (hconfig : Config.load (configPath config s.configPath) (s.find (configPath config s.configPath)) = .ok c) :
    ∃ text, answer s arguments = Answer.success text [] ∧ text.IsAsciiLines ∧
      Json.read text = .ok (descriptor { t with name := t.name.joinPairs, description := t.description.joinPairs }) := by
  refine ⟨Json.indented Json.ascii 0 (descriptor t) ++ "\n".toText, ?_,
    (Json.isAsciiLines_indented _ 0).append (List.forall_mem_singleton.2 (.inl rfl)), ?_⟩
  · rw [answer, written_of_describe hline hconfig, if_pos rfl, ← ht]
    exact readBack_indented s.medium _
  · rw [Json.read_indented_ascii (fits_descriptor t) (isFinite_descriptor t), joined_descriptor]

end Lines

/-! ## What is shown -/

theorem ok_of_toOption {ε α : Type} {x : Except ε α} {a : α} (h : x.toOption = some a) : x = .ok a := by
  cases x with
  | ok b => exact congrArg _ (Option.some.inj h)
  | error e => cases h

/-- **Both forms show the same descriptor.** With a configuration that can be loaded, the name and the description are
those of its override, and else those of the kind. As a value they are read back with their pairs joined, so as they are
if they have none; as lines they are written as they are, if they have no escape characters and can be written at all.
A type that is not registered is refused in the same way in both forms, by whatever line, environment and
configuration. -/
theorem answer_of_describe (s : Surroundings) (config : Option Text) :
    (∀ (k : ToolKind) (c : Config), Config.load (configPath config s.configPath) (s.find (configPath config s.configPath)) = .ok c →
      ∃ name description,
        name = ((c.override? k.typeName).bind Override.name).getD k.typeName ∧
        description = ((c.override? k.typeName).bind Override.description).getD k.defaultDescription ∧
        (∀ level arguments, Invocation.ofArguments arguments = .ok ⟨level, .describe k.typeName config true⟩ →
          ∃ text, answer s arguments = Answer.success text [] ∧ text.IsAsciiLines ∧
            Json.read text = .ok (.object [
              ("name".toText, .string name.joinPairs),
              ("type".toText, .string k.typeName),
              ("version".toText, (k.version.map Json.string).getD .null),
              ("description".toText, .string description.joinPairs),
              ("input_schema".toText, k.schema)])) ∧
        (name.joinPairs = name ↔ ¬ name.HasPair) ∧ (description.joinPairs = description ↔ ¬ description.HasPair) ∧
        ∀ level arguments, Invocation.ofArguments arguments = .ok ⟨level, .describe k.typeName config false⟩ →
          (∀ c ∈ name ++ description, c.val ≠ 0x1B) → s.medium.canWrite (name ++ description) = true →
          written s arguments = Answer.success (Text.asLines ["Name: ".toText ++ name, "Type: ".toText ++ k.typeName,
            "Version: ".toText ++ k.version.getD "-".toText, [], description]) []) ∧
    (∀ type, ToolKind.ofName? type = none → ∀ level arguments json,
      Invocation.ofArguments arguments = .ok ⟨level, .describe type config json⟩ →
        answer s arguments =
          ⟨1, [], s.medium.readBack (Answer.errorLine s.medium (ToolKind.unknownMessage type)), none, none⟩) ∧
    ∀ type json, Invocation.ofArguments (describeLine type config json) =
      .ok ⟨.warning, .describe type config json⟩ := by
  refine ⟨fun k c hload => ?_, fun type htype level arguments json hline => ?_,
    fun type => ofArguments_describeLine type config⟩
  · obtain ⟨t, ht⟩ : ∃ t, t = Tool.configured k (none : Option Json) (some c) := ⟨_, rfl⟩
    have htool := ht.trans (Tool.configured_eq k none (some c))
    have hkind : t.kind = k := htool ▸ rfl
    refine ⟨t.name, t.description, htool ▸ rfl, htool ▸ rfl, fun level arguments hline => ?_,
      Text.joinPairs_eq_self_iff, Text.joinPairs_eq_self_iff, fun level arguments hline hescape hwrite => ?_⟩
    · rw [← hkind]
      exact answer_of_json ht hline hload
    · obtain ⟨hname, hdescription⟩ := Medium.prints_append.1 ⟨hescape, hwrite⟩
      rw [written_of_describe hline hload, if_neg Bool.false_ne_true, ← ht, ← hkind]
      exact writing_description hname hdescription
  · rw [answer, written, hline]
    simp only [perform, buildTool, htype, Answer.refusal, Answer.readBack, Medium.readBack_nil, List.nil_append]

/-- The surroundings of a line, where a file with a text is the configuration and the outputs are kept as bytes. -/
def withConfig (file : Text) : Surroundings :=
  ⟨⟨"monitors".toText, 80⟩, .bytes, none, .terminal, fun _ => .entry (.file (file.flatMap CodePoint.utf8))⟩

/-- A name with a line end, a quotation mark and a character that is no ASCII, together with an empty description. -/
theorem describe_quoted_name : ∃ (s : Surroundings) (k : ToolKind) (file name text : Text),
    file = "tools: \x7bGetCreateMonitorParametersTool: \x7bname: \"a\\n\\xE9\\\"\", description: ''\x7d\x7d".toText ∧
      name = "a\né\"".toText ∧ k = .createMonitorParameters ∧ s = withConfig file ∧
      answer s (describeLine k.typeName none true) = Answer.success text [] ∧ text.IsAsciiLines ∧
      Json.read text = .ok (.object [
        ("name".toText, .string name),
        ("type".toText, .string k.typeName),
        ("version".toText, .null),
        ("description".toText, .string []),
        ("input_schema".toText, k.schema)]) ∧
      written s (describeLine k.typeName none false) = Answer.success (Text.asLines ["Name: ".toText ++ name,
        "Type: ".toText ++ k.typeName, "Version: -".toText, [], []]) [] ∧
      answer s (describeLine "List".toText none true) =
        ⟨1, [], "Error: Unknown tool type: List\n".toText, none, none⟩ := by
  obtain ⟨file, hfile⟩ : ∃ file,
    file = "tools: \x7bGetCreateMonitorParametersTool: \x7bname: \"a\\n\\xE9\\\"\", description: ''\x7d\x7d".toText :=
    ⟨_, rfl⟩
  obtain ⟨k, hk⟩ : ∃ k, k = ToolKind.createMonitorParameters := ⟨_, rfl⟩
  obtain ⟨s, hs⟩ : ∃ s, s = withConfig file := ⟨_, rfl⟩
  have hload : Config.load (configPath none s.configPath) (s.find (configPath none s.configPath)) =
      .ok ⟨[(k.typeName, ⟨some "a\né\"".toText, some []⟩)]⟩ := by
    refine ok_of_toOption ?_
    rw [hs, hfile, hk]
    decide +kernel
  have hmedium : s.medium = .bytes := by rw [hs, withConfig]
  obtain ⟨hregistered, hunknown, hlines⟩ := answer_of_describe s none
  obtain ⟨name, description, hname, hdescription, hjson, -, -, hplain⟩ := hregistered k _ hload
  have hlookup : Config.override? ⟨[(k.typeName, ⟨some "a\né\"".toText, some []⟩)]⟩ k.typeName =
      some ⟨some "a\né\"".toText, some []⟩ := by
    rw [Config.override?, List.lookup_cons_self]
  rw [hlookup] at hname hdescription
  obtain rfl : name = "a\né\"".toText := hname
  obtain rfl : description = [] := hdescription
  obtain ⟨text, hanswer, hascii, hread⟩ := hjson _ _ (hlines _ _)
  have hwritten := hplain _ _ (hlines _ _) (by decide) (by rw [hmedium]; decide)
  have hrefused := hunknown "List".toText (by decide) _ _ true (hlines _ _)
  rw [Text.joinPairs_toText] at hread
  refine ⟨s, k, file, _, text, hfile, rfl, hk, hs, hanswer, hascii, ?_, ?_, ?_⟩
  · rw [hread, hk]
    rfl
  · rw [hwritten, hk]
    rfl
  · rw [hrefused, hmedium]
    rfl

/-- **Halves of surrogate pairs are not shown as they are**: one on its own breaks the lines off, and two that make a
pair are read back from the value as one code point. -/
theorem describe_changes_halves : ∃ (k : ToolKind) (high low : CodePoint) (single pair : Surroundings) (text : Text)
    (members : Members), k = .createMonitorParameters ∧ high.val = 0xD83D ∧ low.val = 0xDE00 ∧
      single = withConfig "tools: \x7bGetCreateMonitorParametersTool: \x7bdescription: \"d\\ude00\"\x7d\x7d".toText ∧
      Config.load (configPath none none) (single.find (configPath none none)) =
        .ok ⟨[(k.typeName, ⟨none, some ['d', low]⟩)]⟩ ∧
      (answer single (describeLine k.typeName none false)).exitCode = 1 ∧
      pair = withConfig
        "tools: \x7bGetCreateMonitorParametersTool: \x7bdescription: \"\\ud83d\\ude00\"\x7d\x7d".toText ∧
      Config.load (configPath none none) (pair.find (configPath none none)) =
        .ok ⟨[(k.typeName, ⟨none, some [high, low]⟩)]⟩ ∧
      answer pair (describeLine k.typeName none true) = Answer.success text [] ∧
      Json.read text = .ok (.object members) ∧
      Members.get? "description".toText members = some (.string [CodePoint.join high low]) := by
  obtain ⟨k, hk⟩ : ∃ k, k = ToolKind.createMonitorParameters := ⟨_, rfl⟩
  obtain ⟨high, hhigh⟩ : ∃ high : CodePoint, high = ⟨0xD83D, by decide⟩ := ⟨_, rfl⟩
  obtain ⟨low, hlow⟩ : ∃ low : CodePoint, low = ⟨0xDE00, by decide⟩ := ⟨_, rfl⟩
  obtain ⟨single, hsingle⟩ : ∃ s, s = withConfig
    "tools: \x7bGetCreateMonitorParametersTool: \x7bdescription: \"d\\ude00\"\x7d\x7d".toText := ⟨_, rfl⟩
  obtain ⟨pair, hpair⟩ : ∃ s, s = withConfig
    "tools: \x7bGetCreateMonitorParametersTool: \x7bdescription: \"\\ud83d\\ude00\"\x7d\x7d".toText := ⟨_, rfl⟩
  have hload : Config.load (configPath none none) (single.find (configPath none none)) =
      .ok ⟨[(k.typeName, ⟨none, some ['d', low]⟩)]⟩ := by
    refine ok_of_toOption ?_
    rw [hsingle, hk, hlow]
    decide +kernel
  have hload' : Config.load (configPath none none) (pair.find (configPath none none)) =
      .ok ⟨[(k.typeName, ⟨none, some [high, low]⟩)]⟩ := by
    refine ok_of_toOption ?_
    rw [hpair, hk, hhigh, hlow]
    decide +kernel
  have hconfig : single.configPath = none ∧ pair.configPath = none := by
    rw [hsingle, hpair]
    exact ⟨rfl, rfl⟩
  have hplain := written_of_describe (s := single) (ofArguments_describeLine k.typeName none false)
    (by rw [hconfig.1]; exact hload)
  obtain ⟨text, hanswer, -, hread⟩ := answer_of_json (s := pair) (Tool.configured_eq k none _).symm
    (ofArguments_describeLine k.typeName none true) (by rw [hconfig.2]; exact hload')
  refine ⟨k, high, low, single, pair, text, _, hk, by rw [hhigh], by rw [hlow], hsingle, hload, ?_, hpair, hload',
    hanswer, hread, ?_⟩
  · rw [answer, hplain, hsingle, hk, hlow]
    decide
  · rw [hk, hhigh, hlow]
    rfl

end Cli

end MonitorIntake
