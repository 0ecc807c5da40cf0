import MonitorIntake.Config.Load
import MonitorIntake.Proofs.Yaml.Read

/-!
# Loading a configuration

What is found at a path decides what comes of it: a configuration (`Config.Holds`), an error of its content, whose
wording names the path (`Config.ContentFault`), or an error of another kind (`Config.Undocumented`). These are all the
cases, and no two of them meet (`Config.load_eq_ok_iff`, `Config.load_eq_error_iff`).
-/

namespace MonitorIntake

/-! ## Errors about bytes -/

namespace Yaml

/-- The source of a file breaks off by an error about bytes only if the bytes are no text. -/
theorem Source.ofUtf8_of_broken {bytes : List UInt8} {u : Utf8Error}
    (h : (Source.ofBytes bytes).broken = some (.undecodable u)) : ∃ e, Text.ofUtf8 bytes = .error e := by
  cases hutf8 : Text.ofUtf8 bytes with
  | ok t =>
    rw [ofBytes, hutf8] at h
    dsimp only [ofText] at h
    split at h <;> cases h
  | error e => exact ⟨e, rfl⟩

/-- **A file can be read without errors about bytes if its bytes are a text.** -/
theorem ofUtf8_of_read {depth : Nat} {bytes : List UInt8} {u : Utf8Error}
    (h : read depth (Source.ofBytes bytes) = .error (.undecodable u)) : ∃ e, Text.ofUtf8 bytes = .error e := by
  rcases error_of_read h with hbroken | hother
  · exact Source.ofUtf8_of_broken hbroken
  · exact absurd rfl (hother u)

end Yaml

/-! ## What comes of a file -/

namespace Config

/-- The value of the document in a file. -/
def document (bytes : List UInt8) : Except Yaml.Error Yaml.Value := Yaml.read documentDepth (.ofBytes bytes)

/-- What is found holds a configuration: nothing is there, the document counts for nothing, or it is a mapping with the
data of a configuration. -/
inductive Holds : Found → Config → Prop
  | missing : Holds .missing empty
  | void {bytes : List UInt8} {v : Yaml.Value} (hread : document bytes = .ok v) (hvoid : v.isVoid = true) :
    Holds (.entry (.file bytes)) empty
  | mapping {bytes : List UInt8} {entries : List (Yaml.Scalar × Yaml.Value)} {c : Config}
    (hread : document bytes = .ok (.mapping entries)) (hentries : entries ≠ [])
    (hdata : ofDatum (Datum.ofYaml (.mapping entries)) = .ok c) : Holds (.entry (.file bytes)) c

/-- What is found has a fault in its content: the file is no YAML document, or its document is no mapping, or not one
with the data of a configuration. -/
inductive ContentFault (p : Path) : Found → LoadError → Prop
  | malformed {bytes : List UInt8} {f : Yaml.Fault} (hread : document bytes = .error (.malformed f)) :
    ContentFault p (.entry (.file bytes)) (.malformed p f)
  | noMapping {bytes : List UInt8} {v : Yaml.Value} (hread : document bytes = .ok v) (hvoid : v.isVoid = false)
    (hmapping : ∀ entries, v ≠ .mapping entries) : ContentFault p (.entry (.file bytes)) (.noMapping p)
  | invalid {bytes : List UInt8} {entries : List (Yaml.Scalar × Yaml.Value)} {issues : List Issue}
    (hread : document bytes = .ok (.mapping entries)) (hentries : entries ≠ [])
    (hdata : ofDatum (Datum.ofYaml (.mapping entries)) = .error issues) :
    ContentFault p (.entry (.file bytes)) (.invalid p issues)

/-- What is found has another fault: it is no file that can be opened, its bytes are no text, a scalar in it has no
value, or its document is nested too deeply. -/
inductive Undocumented (p : Path) : Found → LoadError → Prop
  | directory : Undocumented p (.entry .directory) (.directory p)
  | nameTooLong : Undocumented p .tooLong (.nameTooLong p)
  | undecodable {bytes : List UInt8} {u e : Utf8Error} (hread : document bytes = .error (.undecodable u))
    (hbytes : Text.ofUtf8 bytes = .error e) : Undocumented p (.entry (.file bytes)) (.undecodable u)
  | scalar {bytes : List UInt8} {f : Yaml.ScalarFault} (hread : document bytes = .error (.scalar f)) :
    Undocumented p (.entry (.file bytes)) (.scalar f)
  | tooDeep {bytes : List UInt8} (hread : document bytes = .error .tooDeep) :
    Undocumented p (.entry (.file bytes)) .tooDeep

section Values

variable {p : Path} {v : Yaml.Value} {entries : List (Yaml.Scalar × Yaml.Value)}

theorem ofValue_of_void (hvoid : v.isVoid = true) : ofValue p v = .ok empty := by
  unfold ofValue
  rw [if_pos hvoid]

theorem ofValue_mapping (hentries : entries ≠ []) :
    ofValue p (.mapping entries) = (ofDatum (Datum.ofYaml (.mapping entries))).mapError (.invalid p) := by
  unfold ofValue
  exact if_neg fun hvoid => hentries (List.isEmpty_iff.1 hvoid)

theorem ofValue_of_not_mapping (hvoid : v.isVoid = false) (hmapping : ∀ entries, v ≠ .mapping entries) :
    ofValue p v = .error (.noMapping p) := by
  unfold ofValue
  rw [if_neg (by rw [hvoid]; exact Bool.false_ne_true)]
  cases v with
  | mapping entries => exact absurd rfl (hmapping entries)
  | scalar s => rfl
  | collection isVoid => rfl

end Values

theorem load_file (p : Path) (bytes : List UInt8) :
    load p (.entry (.file bytes)) = ((document bytes).mapError (LoadError.ofYaml p)).bind (ofValue p) := rfl

/-- The three ways of loading. -/
theorem load_cases (p : Path) (found : Found) :
    (∃ c, load p found = .ok c ∧ Holds found c) ∨
    (∃ e, load p found = .error e ∧ ContentFault p found e) ∨
    ∃ e, load p found = .error e ∧ Undocumented p found e := by
  match found with
  | .missing => exact .inl ⟨_, rfl, .missing⟩
  | .tooLong => exact .inr (.inr ⟨_, rfl, .nameTooLong⟩)
  | .entry .directory => exact .inr (.inr ⟨_, rfl, .directory⟩)
  | .entry (.file bytes) =>
    have hload := load_file p bytes
    cases hread : document bytes with
    | error e =>
      rw [hread] at hload
      cases e with
      | malformed f => exact .inr (.inl ⟨_, hload, .malformed hread⟩)
      | scalar f => exact .inr (.inr ⟨_, hload, .scalar hread⟩)
      | undecodable u =>
        obtain ⟨e, he⟩ := Yaml.ofUtf8_of_read hread
        exact .inr (.inr ⟨_, hload, .undecodable hread he⟩)
      | tooDeep => exact .inr (.inr ⟨_, hload, .tooDeep hread⟩)
    | ok v =>
      rw [hread] at hload
      replace hload : load p (.entry (.file bytes)) = ofValue p v := hload
      cases hvoid : v.isVoid with
      | true => exact .inl ⟨_, hload.trans (ofValue_of_void hvoid), .void hread hvoid⟩
      | false =>
        by_cases hmapping : ∃ entries, v = .mapping entries
        · obtain ⟨entries, rfl⟩ := hmapping
          have hentries : entries ≠ [] := by
            rintro rfl
            cases hvoid
          rw [ofValue_mapping hentries] at hload
          cases hdata : ofDatum (Datum.ofYaml (.mapping entries)) with
          | ok c =>
            rw [hdata] at hload
            exact .inl ⟨c, hload, .mapping hread hentries hdata⟩
          | error issues =>
            rw [hdata] at hload
            exact .inr (.inl ⟨_, hload, .invalid hread hentries hdata⟩)
        · have hother := fun entries h => hmapping ⟨entries, h⟩
          exact .inr (.inl ⟨_, hload.trans (ofValue_of_not_mapping hvoid hother), .noMapping hread hvoid hother⟩)

section Outcomes

variable {p : Path} {found : Found} {c : Config} {e : LoadError}

theorem load_of_holds (h : Holds found c) (p : Path) : load p found = .ok c := by
  cases h with
  | missing => rfl
  | void hread hvoid =>
    rw [load_file, hread]
    exact ofValue_of_void hvoid
  | mapping hread hentries hdata =>
    rw [load_file, hread]
    exact (ofValue_mapping hentries).trans (by rw [hdata]; rfl)

theorem load_of_contentFault (h : ContentFault p found e) : load p found = .error e := by
  cases h with
  | malformed hread =>
    rw [load_file, hread]
    rfl
  | noMapping hread hvoid hmapping =>
    rw [load_file, hread]
    exact ofValue_of_not_mapping hvoid hmapping
  | invalid hread hentries hdata =>
    rw [load_file, hread]
    exact (ofValue_mapping hentries).trans (by rw [hdata]; rfl)

theorem load_of_undocumented (h : Undocumented p found e) : load p found = .error e := by
  cases h with
  | directory | nameTooLong => rfl
  | undecodable hread _ | scalar hread | tooDeep hread =>
    rw [load_file, hread]
    rfl

/-- **A configuration is loaded iff what is found holds it.** -/
theorem load_eq_ok_iff : load p found = .ok c ↔ Holds found c := by
  refine ⟨fun h => ?_, fun h => load_of_holds h p⟩
  rcases load_cases p found with ⟨c', hload, hholds⟩ | ⟨e, hload, -⟩ | ⟨e, hload, -⟩
  · rw [h] at hload
    cases hload
    exact hholds
  · rw [h] at hload
    cases hload
  · rw [h] at hload
    cases hload

/-- **Loading fails iff what is found has a fault, of its content or of another kind.** -/
theorem load_eq_error_iff : load p found = .error e ↔ ContentFault p found e ∨ Undocumented p found e := by
  refine ⟨fun h => ?_, fun h => h.elim load_of_contentFault load_of_undocumented⟩
  rcases load_cases p found with ⟨c, hload, -⟩ | ⟨e', hload, hfault⟩ | ⟨e', hload, hfault⟩
  · rw [h] at hload
    cases hload
  · rw [h] at hload
    cases hload
    exact .inl hfault
  · rw [h] at hload
    cases hload
    exact .inr hfault

/-- The wording of a fault of the content names the path. -/
theorem ContentFault.names (h : ContentFault p found e) : e.isContent = true ∧ p.text <:+: e.message := by
  cases h with
  | malformed _ => exact ⟨rfl, _, _, (List.append_assoc ..).symm⟩
  | noMapping _ _ _ => exact ⟨rfl, _, _, (List.append_nil _).symm⟩
  | invalid _ _ _ => exact ⟨rfl, _, _, (List.append_assoc ..).symm⟩

/-- A fault of another kind that is reported as one of the content is the same at every path. -/
theorem Undocumented.unnamed (h : Undocumented p found e) (hcontent : e.isContent = true) (q : Path) :
    load q found = .error e := by
  cases h with
  | directory | nameTooLong => cases hcontent
  | undecodable hread hbytes => exact load_of_undocumented (.undecodable hread hbytes)
  | scalar hread => exact load_of_undocumented (.scalar hread)
  | tooDeep hread => exact load_of_undocumented (.tooDeep hread)

end Outcomes

end Config

end MonitorIntake
