import MonitorIntake.Proofs.Cli.Run
import MonitorIntake.Proofs.Config.Loading

/-!
# Configurations on the command line

**What comes of a configuration** (`outcome_of_config`): it is loaded, or there is a fault in its content, which a line
that builds a tool reports with the path, or there is a fault of another kind. Of the latter some are reported without
the path, and the others break the line off.
-/

namespace MonitorIntake.Cli

open Config

/-- The task builds a tool of a kind with a configuration. -/
inductive BuildsTool (k : ToolKind) (config : Option Text) : Task → Prop
  | run (input : Option Text) : BuildsTool k config (.run k.typeName input config)
  | describe (json : Bool) : BuildsTool k config (.describe k.typeName config json)

/-- What is answered to a line that builds a tool, when the configuration cannot be loaded. -/
theorem answer_of_loadError {s : Surroundings} {arguments : List Text} {i : Invocation} {k : ToolKind}
    {config : Option Text} {e : LoadError} (hline : Invocation.ofArguments arguments = .ok i)
    (htask : BuildsTool k config i.task)
    (hload : Config.load (configPath config s.configPath) (s.find (configPath config s.configPath)) = .error e) :
    answer s arguments = if e.isContent
      then ⟨1, [], s.medium.readBack (Answer.errorLine s.medium e.message), some e, none⟩
      else ⟨1, [], [], none, some (.config e)⟩ := by
  have hperform : perform s i.level i.task = Answer.ofLoadError s.medium e := by
    obtain ⟨level, task⟩ := i
    cases htask <;> simp only [perform, buildTool_typeName s k hload, Except.map, Except.mapError]
  rw [answer, written, hline]
  simp only [hperform, Answer.ofLoadError, Answer.refusal]
  split <;> simp only [Answer.readBack, Medium.readBack_nil, List.nil_append]

/-- **What comes of a configuration**, for every path that is given, every environment and whatever lies at the path. -/
theorem outcome_of_config (given environment : Option Text) (find : Path → Found) : ∃ p,
    p = Path.resolve given environment ∧
    (∀ c, Config.load p (find p) = .ok c ↔ Holds (find p) c) ∧
    (∀ e, Config.load p (find p) = .error e ↔ ContentFault p (find p) e ∨ Undocumented p (find p) e) ∧
    (∀ e, ContentFault p (find p) e → e.isContent = true ∧ p.text <:+: e.message) ∧
    (∀ e, Undocumented p (find p) e → e.isContent = true → ∀ q, Config.load q (find p) = .error e) ∧
    ∀ s arguments i k config, Invocation.ofArguments arguments = .ok i → BuildsTool k config i.task →
      configPath config s.configPath = p → s.find = find → ∀ e, Config.load p (find p) = .error e →
        answer s arguments = if e.isContent
          then ⟨1, [], s.medium.readBack (Answer.errorLine s.medium e.message), some e, none⟩
          else ⟨1, [], [], none, some (.config e)⟩ := by
  refine ⟨_, rfl, fun c => load_eq_ok_iff, fun e => load_eq_error_iff, fun e h => h.names,
    fun e h hcontent q => h.unnamed hcontent q, ?_⟩
  rintro s arguments i k config hline htask hpath rfl e hload
  rw [← hpath] at hload
  exact answer_of_loadError hline htask hload

/-- An empty list is loaded, bytes that are no text are reported without the path, and a directory breaks the line
off. -/
theorem undocumented_outcomes : ∃ (p : Path) (list broken : List UInt8),
    p = Path.resolve (some "tools.yaml".toText) none ∧ list = "[]".toText.flatMap CodePoint.utf8 ∧ broken = [0xFF] ∧
      (∃ v, document list = .ok v ∧ v ≠ .scalar .null ∧ (∀ entries, v ≠ .mapping entries) ∧
        Config.load p (.entry (.file list)) = .ok .empty) ∧
      (∃ e, Config.load p (.entry (.file broken)) = .error e ∧ e.isContent = true ∧ ¬ p.text <:+: e.message) ∧
      ∃ e, Config.load p (.entry .directory) = .error e ∧ e.isContent = false := by
  obtain ⟨list, hlist⟩ : ∃ list, list = "[]".toText.flatMap CodePoint.utf8 := ⟨_, rfl⟩
  have hvalue : document list = .ok (.collection true) := by
    rw [hlist]
    cbv
  have hbroken : document [0xFF] = .error (.undecodable ⟨.startByte, 0xFF, 0, 1⟩) := by cbv
  obtain ⟨e, he⟩ := Yaml.ofUtf8_of_read hbroken
  refine ⟨_, list, [0xFF], rfl, hlist, rfl, ⟨_, hvalue, ?_, ?_, load_of_holds (.void hvalue rfl) _⟩,
    ⟨_, load_of_undocumented (.undecodable hbroken he), rfl, ?_⟩, _, rfl, rfl⟩
  · exact Yaml.Value.noConfusion
  · exact fun entries => Yaml.Value.noConfusion
  · decide +kernel

end MonitorIntake.Cli
