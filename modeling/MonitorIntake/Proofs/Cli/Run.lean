import MonitorIntake.Cli.Answer
import MonitorIntake.Proofs.Intake.FixedPoint
import MonitorIntake.Proofs.Intake.Log
import MonitorIntake.Proofs.Json.LineEnds
import MonitorIntake.Proofs.Report.Source
import MonitorIntake.Proofs.Text.Console

/-!
# The command `run`

**A run from the command line has the outcome of the tool** (`answer_of_run`): the response as a line on the output, or
the wording of the failure as the last line on the error stream. The text of the input comes from an option or from the
standard input. There its line ends are folded, and a blank text is not passed on at all; neither makes a difference to
the outcome (`run_of_sameLines`, `outcome_of_blank`).
-/

namespace MonitorIntake

/-! ## Inputs with the same outcome -/

/-- **Inputs with the same lines have the same run**: the same outcome and the same log. -/
theorem run_of_sameLines {t t' : Text} (h : Text.SameLines t t') : run (inputOf t) = run (inputOf t') := by
  have hdecode : decode (inputOf t) = decode (inputOf t') := decodeText_of_sameLines h
  unfold run
  rw [hdecode]

/-- An integer has digits. -/
theorem Json.Overlong.not_blank {t : Text} {count : Nat} (h : Json.Overlong t count) : t.isBlank = false := by
  obtain ⟨k, u, n, rest, hreach, hn, -⟩ := h
  obtain ⟨c, hc, hdigit⟩ : ∃ c ∈ u, c.isDigit = true := by
    cases hn with
    | positive hw _ _ =>
      obtain ⟨c, rest, rfl, hc⟩ := hw.digits.startsDigit
      exact ⟨c, List.mem_cons_self, hc⟩
    | negative hw _ _ =>
      obtain ⟨c, rest, rfl, hc⟩ := hw.digits.startsDigit
      exact ⟨c, List.mem_cons_of_mem _ List.mem_cons_self, hc⟩
  exact Text.isBlank_eq_false (hreach.suffix.subset hc) (CodePoint.isSpace_of_isDigit hdigit)

/-- **A blank input has the outcome of none**: it denotes no object and has no digits that could stop the reader. -/
theorem activity_of_blank {t : Text} (h : t.isBlank = true) :
    (run (inputOf t)).activity = (run []).activity := by
  have hinput : Members.get? inputName (inputOf t) = some (.string t) := if_pos rfl
  have hstep := extract_step (inputOf t)
  have hrun := @run_of_extract (inputOf t)
  generalize extract (inputOf t) = x at hstep hrun
  cases hstep with
  | object hinput' hread =>
    rw [hinput] at hinput'
    cases hinput'
    rw [Request.not_blank_of_read hread] at h
    cases h
  | tooManyDigits hinput' hread =>
    rw [hinput] at hinput'
    cases hinput'
    rw [(Json.read_eq_tooManyDigits_iff.1 hread).not_blank] at h
    cases h
  | empty _ => exact hrun rfl

namespace Cli

section Parameters

variable {s : Surroundings} {k : ToolKind} {t : Text}

theorem outcome_of_text : k.outcome (if t.isBlank then [] else inputOf t) = k.outcome (inputOf t) := by
  cases hblank : t.isBlank with
  | true => rw [if_pos rfl, ToolKind.outcome, ToolKind.outcome, activity_of_blank hblank]
  | false => rfl

/-- **The input has the same outcome by either way**, as an option or on the standard input. -/
theorem outcome_runParameters {input : Option Text} (h : input = some t ∨ input = none ∧ s.input = .text t) :
    k.outcome (runParameters s input) = k.outcome (inputOf t) := by
  rcases h with rfl | ⟨rfl, hinput⟩
  · exact outcome_of_text
  · have hparameters : runParameters s none = if t.foldNewlines.isBlank then [] else inputOf t.foldNewlines := by
      simp only [runParameters, hinput, inputOf]
    rw [hparameters, outcome_of_text, ToolKind.outcome, ToolKind.outcome,
      run_of_sameLines (Text.sameLines_foldNewlines t)]

end Parameters

/-! ## Outcomes -/

/-- A response is a line of ASCII. -/
theorem isAsciiLine_response {k : ToolKind} {parameters : Members} {r : Text} (h : k.outcome parameters = .ok r) :
    r.IsAsciiLine := by
  obtain ⟨t, members, -, -, -, -, rfl⟩ := response_mem_iff.1 (outcome_eq_ok_iff.1 h)
  exact Json.isAsciiLine_write _

/-- The reason why there is no response is worded in a line of ASCII: it is a failure that the tool has reported. -/
theorem isAsciiLine_error {k : ToolKind} {parameters : Members} {e : RunError Failure}
    (h : k.outcome parameters = .error e) : e.message.IsAsciiLine := by
  obtain ⟨f, rfl, -⟩ := outcome_eq_error_iff.1 h
  exact isAsciiLine_failure f

/-! ## Answers -/

section Answers

variable {m : Medium} {errors t : Text}

/-- Texts that are printed as they are become lines of the output. -/
theorem writing_eq_success {ts : List Text} (h : ∀ t ∈ ts, m.Prints t) :
    Answer.writing m errors ts = Answer.success (Text.asLines ts) errors := by
  have hshown : ts.map Text.withoutControls = ts :=
    (List.map_congr_left fun t ht => Text.withoutControls_eq_self (h t ht).1).trans (List.map_id ts)
  have hwrite : ∀ t ∈ ts, m.canWrite t = true := fun t ht => (h t ht).2
  have hall : ts.all m.canWrite = true := List.all_eq_true.2 hwrite
  simp only [Answer.writing, hshown, hall, if_true, List.takeWhile_eq_self_iff.2 hwrite, Text.asLines]

/-- A line of ASCII is written and read back as it is. -/
theorem readBack_writing (h : t.IsAsciiLine) : (Answer.writing m errors [t]).readBack m =
    Answer.success (t ++ "\n".toText) (m.readBack errors) := by
  have hline : ∀ u ∈ [t], m.Prints u := List.forall_mem_singleton.2 (.of_isPrintable h.isPrintable)
  have hwriting : Answer.writing m errors [t] = Answer.success (t ++ "\n".toText) errors := by
    rw [writing_eq_success hline]
    simp [Text.asLines]
  rw [hwriting, Answer.readBack, Answer.success, Medium.readBack_line h.isPrintable]
  rfl

/-- A refusal in one line of ASCII ends the error stream. -/
theorem readBack_refusal (h : t.IsAsciiLine) : (Answer.refusal m errors t).readBack m =
    ⟨1, [], m.readBack errors ++ "Error: ".toText ++ t ++ "\n".toText, none, none⟩ := by
  have hline := (Text.IsAsciiLine.append (t := "Error: ".toText) (by decide) h).isPrintable
  have herror : Answer.errorLine m t = "Error: ".toText ++ t ++ "\n".toText := by
    rw [Answer.errorLine, Text.withoutControls_of_isPrintable hline, Medium.errorText_of_isPrintable hline]
  have hhead : (("Error: ".toText ++ t ++ "\n".toText).head?.map CodePoint.val) ≠ some 0x0A := by
    simp [String.toText, CodePoint.ofChar]
  rw [Answer.refusal, Answer.readBack, herror, Medium.readBack_nil, Medium.readBack_append hhead,
    Medium.readBack_line hline]
  simp only [List.append_assoc]

end Answers

/-- The text is empty or ends with a line end. -/
def IsLines (t : Text) : Prop := t = [] ∨ t.getLast? = some '\n'

theorem isLines_logText (m : Medium) (level : LogLevel) (k : ToolKind) (log : List LogRecord) :
    IsLines (logText m level k log) := by
  unfold logText
  rcases List.eq_nil_or_concat (log.filter (LogRecord.shown level)) with hnil | ⟨records, r, hrecords⟩
  · exact .inl (by rw [hnil]; rfl)
  · refine .inr ?_
    rw [hrecords, List.concat_eq_append, List.flatMap_append, List.flatMap_singleton, ← List.append_assoc]
    exact List.getLast?_concat

theorem isLines_readBack {m : Medium} {t : Text} (h : IsLines t) : IsLines (m.readBack t) := by
  rcases h with rfl | h
  · exact .inl (Medium.readBack_nil m)
  · exact .inr ((Medium.getLast?_readBack t).trans h)

section Lines

variable {s : Surroundings} {arguments : List Text} {level : LogLevel} {k : ToolKind} {input config : Option Text}
  {c : Config}

/-- The line that runs a tool, with its options. -/
def runLine (k : ToolKind) (input config : Option Text) : List Text :=
  ["run".toText, k.typeName] ++ (input.elim [] fun t => ["--input".toText, t]) ++
    config.elim [] fun t => ["--config".toText, t]

/-- The value of an option may be any text, also one with a hyphen in front. -/
theorem ofArguments_runLine (k : ToolKind) (input config : Option Text) :
    Invocation.ofArguments (runLine k input config) = .ok ⟨.warning, .run k.typeName input config⟩ := by
  cases k
  cases input <;> cases config <;> rfl

/-- A tool is built by what is loaded at the path of the configuration. -/
theorem buildTool_typeName (s : Surroundings) (k : ToolKind) {loaded : Except LoadError Config}
    (hload : Config.load (configPath config s.configPath) (s.find (configPath config s.configPath)) = loaded) :
    buildTool s k.typeName config =
      (loaded.map fun c => Tool.configured k none (some c)).mapError (Answer.ofLoadError s.medium) := by
  have hkind : ToolKind.ofName? k.typeName = some k := by
    cases k
    rfl
  unfold buildTool
  simp only [hkind, hload]
  cases loaded with
  | ok c => exact rfl
  | error e => exact rfl

/-- What is answered to a line that runs a tool, when the configuration can be loaded. -/
theorem answer_of_line (hline : Invocation.ofArguments arguments = .ok ⟨level, .run k.typeName input config⟩)
    (hconfig : Config.load (configPath config s.configPath) (s.find (configPath config s.configPath)) = .ok c) :
    answer s arguments = (runTool s level (.configured k none (some c)) input).readBack s.medium := by
  rw [answer, written, hline]
  simp only [perform, buildTool_typeName s k hconfig, Except.map, Except.mapError]

/-- A configuration does not change the kind of a tool. -/
theorem kind_configured : (Tool.configured k (none : Option Json) (some c)).kind = k := by
  simp only [Tool.configured, Tool.apply]

/-- **A run from the command line has the outcome of the tool on the same text**, given as an option or on the standard
input. A response is the output, with a line end, and a failure the last line of the error stream, after the log. An
option leaves the standard input without influence, also when it is empty. -/
theorem answer_of_run {t : Text}
    (hline : Invocation.ofArguments arguments = .ok ⟨level, .run k.typeName input config⟩)
    (hconfig : Config.load (configPath config s.configPath) (s.find (configPath config s.configPath)) = .ok c)
    (hinput : input = some t ∨ input = none ∧ s.input = .text t) :
    (∀ r, k.outcome (inputOf t) = .ok r → ∃ log, IsLines log ∧
      answer s arguments = ⟨0, r ++ "\n".toText, log, none, none⟩) ∧
    (∀ e, k.outcome (inputOf t) = .error e → ∃ log, IsLines log ∧
      answer s arguments = ⟨1, [], log ++ "Error: ".toText ++ e.message ++ "\n".toText, none, none⟩) ∧
    (input = some t → ∀ other, answer { s with input := other } arguments = answer s arguments) := by
  have hanswer := answer_of_line hline hconfig
  rw [runTool, kind_configured, outcome_runParameters hinput] at hanswer
  have hlog := isLines_readBack (m := s.medium)
    (isLines_logText s.medium level k (MonitorIntake.run (runParameters s input)).log)
  refine ⟨fun r hr => ⟨_, hlog, ?_⟩, fun e he => ⟨_, hlog, ?_⟩, ?_⟩
  · rw [hanswer, hr]
    exact readBack_writing (isAsciiLine_response hr)
  · rw [hanswer, he]
    exact readBack_refusal (isAsciiLine_error he)
  · rintro rfl other
    rw [answer_of_line (s := { s with input := other }) hline hconfig, answer_of_line hline hconfig]
    rfl

/-- The response to a text with all three line ends, by either way, where there is no configuration. -/
theorem answer_of_run_lineEnds : ∃ (s : Surroundings) (k : ToolKind) (t r : Text),
    t = "\x7b\r\n\"index\": [\"a\", 1]\r\x7d\n".toText ∧ r = "\x7b\"index\": [\"a\", 1]\x7d".toText ∧
      s = ⟨⟨"monitors".toText, 80⟩, .bytes, none, .text t, fun _ => .missing⟩ ∧ k = .createMonitorParameters ∧
      (∃ log, IsLines log ∧ answer s (runLine k none none) = ⟨0, r ++ "\n".toText, log, none, none⟩) ∧
      (∃ log, IsLines log ∧ answer s (runLine k (some t) none) = ⟨0, r ++ "\n".toText, log, none, none⟩) ∧
      answer { s with input := .terminal } (runLine k (some t) none) = answer s (runLine k (some t) none) := by
  obtain ⟨t, ht⟩ : ∃ t, t = "\x7b\r\n\"index\": [\"a\", 1]\r\x7d\n".toText := ⟨_, rfl⟩
  obtain ⟨k, hk⟩ : ∃ k, k = ToolKind.createMonitorParameters := ⟨_, rfl⟩
  obtain ⟨s, hs⟩ : ∃ s : Surroundings, s = ⟨⟨"monitors".toText, 80⟩, .bytes, none, .text t, fun _ => .missing⟩ :=
    ⟨_, rfl⟩
  have houtcome : k.outcome (inputOf t) = .ok "\x7b\"index\": [\"a\", 1]\x7d".toText := by
    rw [hk, ht]
    cbv
  have hconfig : Config.load (configPath none s.configPath) (s.find (configPath none s.configPath)) = .ok .empty := by
    rw [hs]
    rfl
  have hinput : s.input = .text t := by rw [hs]
  have piped := answer_of_run (ofArguments_runLine k none none) hconfig (.inr ⟨rfl, hinput⟩)
  have given := answer_of_run (ofArguments_runLine k (some t) none) hconfig (.inl rfl)
  exact ⟨s, k, t, _, ht, rfl, hs, hk, piped.1 _ houtcome, given.1 _ houtcome, given.2.2 rfl _⟩

end Lines

end Cli

end MonitorIntake
