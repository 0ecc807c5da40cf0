import MonitorIntake.Proofs.Config.Loading
import MonitorIntake.Proofs.Config.Repair
import MonitorIntake.Proofs.Tool.Configured
import MonitorIntake.Proofs.Yaml.OutlineValue

/-!
# Configurations in files

The layout in which overrides are written to a file (`Config.fileText`): under `tools:` a line for each type, and below
it, indented further, its name and its description. Types, names and descriptions stand between double marks, so a text
of printable ASCII characters may be anything that has another meaning without them. **The file is loaded as the
overrides, in their order, and a tool takes on its name and its description from there** (`load_fileText`).
-/

namespace MonitorIntake

/-! ## Files of ASCII lines -/

section Lines

variable {t : Text}

theorem Utf8.front_of_ascii {c : CodePoint} (hc : c.val < 0x80) (rest : List UInt8) :
    Utf8.front c.val.toUInt8 rest = .point c 1 := by
  have hbyte : c.val.toUInt8.toNat = c.val := by
    rw [Nat.toUInt8_eq, UInt8.toNat_ofNat']
    omega
  have hless : c.val.toUInt8 < 0x80 := by
    rw [UInt8.lt_iff_toNat_lt, hbyte]
    exact hc
  unfold front
  rw [if_pos hless, Front.ofNat, hbyte, CodePoint.ofNat?, dif_pos c.isLt]

theorem Utf8.decodeFrom_ascii (ht : ∀ c ∈ t, c.val < 0x80) (place : Nat) (done : Text) :
    Utf8.decodeFrom place 0 done t.toUtf8 = .ok (done.reverse ++ t, []) := by
  induction t generalizing place done with
  | nil => rw [List.append_nil]; rfl
  | cons c t ih =>
    obtain ⟨hc, ht⟩ := List.forall_mem_cons.1 ht
    have hbytes : Text.toUtf8 (c :: t) = c.val.toUInt8 :: Text.toUtf8 t := by
      rw [Text.toUtf8, List.flatMap_cons, CodePoint.utf8, if_pos hc]
      rfl
    rw [hbytes, decodeFrom, front_of_ascii hc]
    simp [ih ht]

/-- The bytes of ASCII characters are read as they are. -/
theorem Text.ofUtf8_of_ascii (ht : ∀ c ∈ t, c.val < 0x80) : Text.ofUtf8 t.toUtf8 = .ok t := by
  rw [ofUtf8, Utf8.decode, Utf8.decodeFrom_ascii ht]
  rfl

theorem Text.IsAsciiLines.foldNewlines_eq (ht : t.IsAsciiLines) : t.foldNewlines = t := by
  unfold foldNewlines
  induction t with
  | nil => rfl
  | cons c t ih =>
    obtain ⟨hc, ht⟩ := List.forall_mem_cons.1 ht
    have hreturn : c.val ≠ 0x0D := by
      rcases hc with rfl | hc
      · decide
      · omega
    rw [foldNewlinesFrom, if_neg hreturn, if_neg (by simp), ih ht]

/-- A file of ASCII lines is sound. -/
theorem Yaml.Source.ofBytes_lines (ht : t.IsAsciiLines) : Source.ofBytes t.toUtf8 = ⟨t, none⟩ := by
  have hascii : ∀ c ∈ t, c.val < 0x80 := by
    intro c hc
    rcases ht c hc with rfl | hc
    · decide
    · omega
  have hsound : t.takeWhile isAcceptable = t := by
    rw [List.takeWhile_eq_self_iff]
    intro c hc
    rcases ht c hc with rfl | hc
    · rfl
    · simp [isAcceptable, hc]
  rw [ofBytes, Text.ofUtf8_of_ascii hascii]
  simp only [ht.foldNewlines_eq, ofText, hsound, List.drop_length]

end Lines

/-! ## Layout -/

/-- An override as it is written: its tool type, the column of its fields, and what they are. -/
structure WrittenOverride where
  type : Text
  column : Nat
  name : Text
  description : Text

namespace WrittenOverride

/-- The lines of an override whose type stands at a column. -/
def lines (column : Nat) (o : WrittenOverride) : Text :=
  Text.spaces column ++ o.type.doubleQuoted ++ ":\n".toText ++
    Text.spaces o.column ++ "name: ".toText ++ o.name.doubleQuoted ++ "\n".toText ++
    Text.spaces o.column ++ "description: ".toText ++ o.description.doubleQuoted ++ "\n".toText

/-- The override can be written under a type at a column: printable ASCII texts, a type that is short enough for a key,
and fields that are indented further. -/
structure IsProper (column : Nat) (o : WrittenOverride) : Prop where
  indented : column < o.column
  short : o.type.length ≤ 500
  type : o.type.IsAsciiLine
  name : o.name.IsAsciiLine
  description : o.description.IsAsciiLine

/-- The override that is meant. -/
def meant (o : WrittenOverride) : Text × Override := (o.type, ⟨some o.name, some o.description⟩)

end WrittenOverride

namespace Config

/-- The text of a file with overrides of types at a column. -/
def fileText (column : Nat) (os : List WrittenOverride) : Text :=
  "tools:\n".toText ++ os.flatMap (WrittenOverride.lines column)

section Outline

open Yaml

variable {column : Nat} {os : List WrittenOverride} {o : WrittenOverride}

/-- The fields of an override. -/
def fieldsOutline (o : WrittenOverride) : Outline :=
  .text (.word "name".toText) o.name (.text (.word "description".toText) o.description .nil)

/-- The overrides, by type. -/
def typesOutline : List WrittenOverride → Outline
  | [] => .nil
  | o :: os => .nested (.quoted o.type) o.column (fieldsOutline o) (typesOutline os)

/-- The outline of a file. -/
def outline (column : Nat) (os : List WrittenOverride) : Outline :=
  .nested (.word "tools".toText) column (typesOutline os) .nil

theorem lines_typesOutline : (typesOutline os).lines column = os.flatMap (WrittenOverride.lines column) := by
  induction os with
  | nil => rfl
  | cons o os ih =>
    rw [List.flatMap_cons, ← ih]
    simp [typesOutline, fieldsOutline, Outline.lines, Outline.keyed, WrittenOverride.lines, Outline.Key.spelled,
      String.toText]

theorem document_outline : (outline column os).document = fileText column os := by
  rw [fileText, ← lines_typesOutline]
  simp [Outline.document, outline, Outline.lines, Outline.keyed, Outline.Key.spelled, Text.spaces, String.toText]

theorem isProper_word {w : Text} (hw : Token.IsWord w) (hshort : w.length ≤ Outline.Key.lengthLimit)
    (htag : Tag.implicit w = .text) : (Outline.Key.word w).IsProper := ⟨hshort, hw, htag⟩

theorem isProper_type (ho : o.IsProper column) : (Outline.Key.quoted o.type).IsProper := by
  have hlength := Text.length_doubleQuoted_le o.type
  have hshort := ho.short
  refine ⟨?_, ho.type⟩
  simp only [Outline.Key.spelled, Outline.Key.lengthLimit]
  omega

theorem isProper_typesOutline (hos : ∀ o ∈ os, o.IsProper column) : (typesOutline os).IsProper column := by
  induction os with
  | nil => trivial
  | cons o os ih =>
    obtain ⟨ho, hos⟩ := List.forall_mem_cons.1 hos
    have hname : (Outline.Key.word "name".toText).IsProper :=
      isProper_word (by unfold Token.IsWord; decide) (by decide) (by decide)
    have hdescription : (Outline.Key.word "description".toText).IsProper :=
      isProper_word (by unfold Token.IsWord; decide) (by decide) (by decide)
    exact ⟨isProper_type ho, ho.indented, by simp [fieldsOutline], ⟨hname, ho.name, hdescription, ho.description, trivial⟩, ih hos⟩

theorem isProper_outline (hcolumn : 0 < column) (hne : os ≠ []) (hos : ∀ o ∈ os, o.IsProper column) :
    (outline column os).IsProper 0 := by
  have htools : (Outline.Key.word "tools".toText).IsProper :=
    isProper_word (by unfold Token.IsWord; decide) (by decide) (by decide)
  obtain ⟨o, os', rfl⟩ := List.exists_cons_of_ne_nil hne
  exact ⟨htools, hcolumn, by simp [typesOutline], isProper_typesOutline hos, trivial⟩

theorem height_typesOutline (os : List WrittenOverride) : (typesOutline os).height ≤ 2 := by
  induction os with
  | nil => exact Nat.zero_le _
  | cons o os ih =>
    simp only [typesOutline, fieldsOutline, Outline.height]
    omega

theorem names_typesOutline : (typesOutline os).names = os.map WrittenOverride.type := by
  induction os with
  | nil => rfl
  | cons o os ih => rw [typesOutline, Outline.names, ih]; rfl

theorem hasDistinctKeys_typesOutline (h : (os.map WrittenOverride.type).Nodup) :
    (typesOutline os).HasDistinctKeys := by
  induction os with
  | nil => trivial
  | cons o os ih =>
    obtain ⟨ho, hos⟩ := List.nodup_cons.1 h
    have hname : "name".toText ∉ ["description".toText] := by decide
    refine ⟨?_, ⟨hname, List.not_mem_nil, trivial⟩, ih hos⟩
    rw [names_typesOutline]
    exact ho

/-- The fields of an override as data. -/
def fieldsDatum (o : WrittenOverride) : Datum :=
  .mapping [(.text "name".toText, .text o.name), (.text "description".toText, .text o.description)]

/-- The data of a file. -/
def fileDatum (os : List WrittenOverride) : Datum :=
  .mapping [(.text toolsName, .mapping ((os.map fun o => (o.type, fieldsDatum o)).map fun e => (.text e.1, e.2)))]

theorem ofYaml_outline : Datum.ofYaml (.mapping (outline column os).values) = fileDatum os := by
  have htypes : Datum.ofYamlEntries (typesOutline os).values =
      (os.map fun o => (o.type, fieldsDatum o)).map fun e => (.text e.1, e.2) := by
    induction os with
    | nil => rfl
    | cons o os ih => rw [typesOutline, Outline.values, Datum.ofYamlEntries, ih]; rfl
  rw [outline, Outline.values, Datum.ofYaml, Datum.ofYamlEntries, Datum.ofYaml, htypes]
  rfl

/-- Texts in the places of fields are accepted. -/
theorem issues_fileDatum (os : List WrittenOverride) : issues (fileDatum os) = [] := by
  have hrecord : ∀ o : WrittenOverride, recordIssues Override.shape (fieldsDatum o) = [] := fun _ => rfl
  have hfield : Datum.field? toolsName [(Key.text toolsName,
      Datum.mapping ((os.map fun o => (o.type, fieldsDatum o)).map fun e => (.text e.1, e.2)))] = some _ := rfl
  rw [fileDatum, issues, hfield]
  show List.flatMap entryIssues _ = []
  rw [List.flatMap_eq_nil_iff]
  intro e he
  simp only [List.map_map, List.mem_map, Function.comp_apply] at he
  obtain ⟨o, -, rfl⟩ := he
  rw [entryIssues, hrecord]
  rfl

theorem ofDatum_fileDatum (h : (os.map WrittenOverride.type).Nodup) :
    ofDatum (fileDatum os) = .ok ⟨os.map WrittenOverride.meant⟩ := by
  have hoverrides : overridesOf (fileDatum os) = os.map WrittenOverride.meant := by
    have hnodup : ((os.map fun o => (o.type, fieldsDatum o)).map Prod.fst).Nodup := by
      rw [List.map_map]
      exact h
    have hfold : overridesOf (fileDatum os) = ([] : List (Text × Override)) ++ _ := foldl_addEntry hnodup
    rw [hfold, List.nil_append, List.map_map]
    rfl
  rw [ofDatum, issues_fileDatum, hoverrides]
  rfl

end Outline

section Loading

variable {column : Nat} {os : List WrittenOverride}

theorem isAsciiLines_lines {o : WrittenOverride} (ho : o.IsProper column) : (o.lines column).IsAsciiLines := by
  have hend : "\n".toText.IsAsciiLines := by unfold Text.IsAsciiLines; decide
  have hkey : ":\n".toText.IsAsciiLines := by unfold Text.IsAsciiLines; decide
  have hname : "name: ".toText.IsAsciiLine := by unfold Text.IsAsciiLine; decide
  have hdescription : "description: ".toText.IsAsciiLine := by unfold Text.IsAsciiLine; decide
  have hspaces := fun n => (Text.isAsciiLine_spaces n).lines
  have htype := ho.type.doubleQuoted.lines
  have hnamed := ho.name.doubleQuoted.lines
  have hdescribed := ho.description.doubleQuoted.lines
  exact ((((((((((hspaces _).append htype).append hkey).append (hspaces _)).append hname.lines).append hnamed).append
    hend).append (hspaces _)).append hdescription.lines).append hdescribed).append hend

theorem isAsciiLines_fileText (hos : ∀ o ∈ os, o.IsProper column) : (fileText column os).IsAsciiLines := by
  have htools : "tools:\n".toText.IsAsciiLines := by unfold Text.IsAsciiLines; decide
  refine htools.append fun c hc => ?_
  obtain ⟨o, ho, hc⟩ := List.mem_flatMap.1 hc
  exact isAsciiLines_lines (hos o ho) c hc

/-- Of different types each has its own override. -/
theorem override?_meant {o : WrittenOverride} (htypes : (os.map WrittenOverride.type).Nodup) (ho : o ∈ os) :
    override? ⟨os.map WrittenOverride.meant⟩ o.type = some o.meant.2 := by
  unfold override?
  induction os with
  | nil => cases ho
  | cons o' os ih =>
    obtain ⟨hfresh, htypes⟩ := List.nodup_cons.1 htypes
    rcases List.mem_cons.1 ho with rfl | ho
    · exact List.lookup_cons_self
    · have hne : (o.type == o'.type) = false := by
        rw [beq_eq_false_iff_ne]
        intro heq
        exact hfresh (heq ▸ List.mem_map_of_mem ho)
      rw [List.map_cons, WrittenOverride.meant, List.lookup_cons, hne]
      exact ih htypes ho

theorem document_fileText (hcolumn : 0 < column) (hne : os ≠ []) (hos : ∀ o ∈ os, o.IsProper column)
    (htypes : (os.map WrittenOverride.type).Nodup) :
    document (fileText column os).toUtf8 = .ok (.mapping (outline column os).values) := by
  have hheight : (outline column os).height ≤ 3 := by
    have htypes := height_typesOutline os
    simp only [outline, Yaml.Outline.height]
    omega
  have hkeys : (outline column os).HasDistinctKeys :=
    ⟨List.not_mem_nil, hasDistinctKeys_typesOutline htypes, trivial⟩
  rw [document, Yaml.Source.ofBytes_lines (isAsciiLines_fileText hos), ← document_outline]
  exact Yaml.read_outline (isProper_outline hcolumn hne hos) (by simp [outline]) hkeys 4 (by omega)
    (lt_of_le_of_lt hheight (by decide))

/-- **A file in this layout is loaded as its overrides, and a tool takes on those of its type.** -/
theorem load_fileText (p : Path) (hcolumn : 0 < column) (hne : os ≠ []) (hos : ∀ o ∈ os, o.IsProper column)
    (htypes : (os.map WrittenOverride.type).Nodup) :
    ∃ c, load p (.entry (.file (fileText column os).toUtf8)) = .ok c ∧ c.overrides = os.map WrittenOverride.meant ∧
      ∀ (κ : Type) (k : ToolKind) (client : Option κ),
        (∀ o ∈ os, o.type = k.typeName → Tool.configured k client (some c) = ⟨k, o.name, o.description, client⟩) ∧
        (k.typeName ∉ os.map WrittenOverride.type → Tool.configured k client (some c) = .make k client) := by
  have hload : load p (.entry (.file (fileText column os).toUtf8)) = .ok ⟨os.map WrittenOverride.meant⟩ := by
    rw [load_eq_ok_iff]
    refine .mapping (document_fileText hcolumn hne hos htypes) (List.cons_ne_nil _ _) ?_
    rw [ofYaml_outline]
    exact ofDatum_fileDatum htypes
  refine ⟨_, hload, rfl, fun κ k client => ⟨fun o ho htype => ?_, fun hunlisted => ?_⟩⟩
  · rw [Tool.configured_eq, Option.bind_some, ← htype, override?_meant htypes ho]
    rfl
  · refine Tool.configured_of_unlisted (List.lookup_eq_none_iff.2 fun e he => ?_) client
    obtain ⟨o, ho, rfl⟩ := List.mem_map.1 he
    rw [bne_iff_ne]
    intro heq
    exact hunlisted (heq ▸ List.mem_map_of_mem ho)

/-- Nothing that has a meaning outside of the marks has one between them. -/
theorem load_marked_texts : ∃ (k : ToolKind) (os : List WrittenOverride) (t : Text) (c : Config),
    k = .createMonitorParameters ∧
      os = [⟨"<<".toText, 4, "null".toText, []⟩, ⟨k.typeName, 3, " \"a\\b".toText, "---: # 1 ".toText⟩] ∧
      t = ("tools:\n" ++ "  \"<<\":\n" ++ "    name: \"null\"\n" ++ "    description: \"\"\n" ++
        "  \"GetCreateMonitorParametersTool\":\n" ++ "   name: \" \\\"a\\\\b\"\n" ++
        "   description: \"---: # 1 \"\n").toText ∧
      load (Path.ofText "tools.yaml".toText) (.entry (.file t.toUtf8)) = .ok c ∧
      c.overrides = os.map WrittenOverride.meant ∧
      Tool.configured k (none : Option Unit) (some c) = ⟨k, " \"a\\b".toText, "---: # 1 ".toText, none⟩ := by
  obtain ⟨k, hk⟩ : ∃ k, k = ToolKind.createMonitorParameters := ⟨_, rfl⟩
  obtain ⟨os, hos⟩ : ∃ os : List WrittenOverride, os =
    [⟨"<<".toText, 4, "null".toText, []⟩, ⟨k.typeName, 3, " \"a\\b".toText, "---: # 1 ".toText⟩] := ⟨_, rfl⟩
  have hproper : ∀ o ∈ os, o.IsProper 2 := by
    rw [hos, hk]
    refine List.forall_mem_cons.2 ⟨⟨by decide, by decide, ?_, ?_, ?_⟩,
      List.forall_mem_singleton.2 ⟨by decide, by decide, ?_, ?_, ?_⟩⟩ <;> (unfold Text.IsAsciiLine; decide)
  obtain ⟨c, hload, hoverrides, htool⟩ := load_fileText (Path.ofText "tools.yaml".toText) (by decide)
    (by rw [hos]; exact List.cons_ne_nil _ _) hproper (by rw [hos, hk]; decide)
  refine ⟨k, os, fileText 2 os, c, hk, hos, by rw [hos, hk]; decide +kernel, hload, hoverrides, ?_⟩
  exact (htool Unit k none).1 ⟨k.typeName, 3, _, _⟩
    (by rw [hos]; exact List.mem_cons_of_mem _ List.mem_cons_self) rfl

end Loading

end Config

end MonitorIntake
