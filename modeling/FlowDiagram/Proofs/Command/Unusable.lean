import FlowDiagram.Command.Inspect
import FlowDiagram.Proofs.Command.Render
import FlowDiagram.Proofs.Fact.Unusable

/-!
# Commands that meet unusable fact files

The commands that read facts stop at the first fact file that has none. If the file is accounted
for, the command says so in an error line and ends with the exit code 1. A file that escapes the
report ends the command with a failure, and nothing is said.

## Main definitions

* `CommandOutcome.Reports`: a command reports a file.
* `CommandOutcome.Breaks`: a failure ends a command.
* `StopsAt`: a file is the first one without facts.

`accounts_for_unusable` is the main result.
-/

namespace FlowDiagram

/-! ## Answers to errors -/

namespace CommandOutcome

/-- A command reports a file: all that it says is the path of the file and the reason. -/
structure Reports (outcome : CommandOutcome) (path : Path) (reason : FactFileReason) : Prop where
  exitCode : outcome.exitCode = 1
  stdout : outcome.stdout = []
  stderr : outcome.stderr =
    shownOnError (printedLine ("Error: " ++ (path.text ++ ": " ++ reason.message)))
  failure : outcome.failure = none

/-- A failure ends a command, which says nothing. -/
structure Breaks (outcome : CommandOutcome) (error : LoadError) : Prop where
  exitCode : outcome.exitCode = 1
  stdout : outcome.stdout = []
  stderr : outcome.stderr = []
  failure : outcome.failure = some (.loading error)

/-- What a command makes of a file that has no facts: one that is accounted for is reported, any
other ends the command. -/
structure AnswersFor (outcome : CommandOutcome) (room : Nat) (disk : Disk) (path : Path) :
    Prop where
  reports : ¬ FactFile.Escapes room disk path →
    ∃ reason, FactFile.load room disk path = .error (.unusable path reason) ∧
      outcome.Reports path reason
  breaks : FactFile.Escapes room disk path →
    ∃ error, FactFile.load room disk path = .error error ∧ outcome.Breaks error

variable {disk : Disk} {lines : List LogLine}

theorem reports_notLoaded {path : Path} {reason : FactFileReason} :
    (notLoaded disk lines (.unusable path reason)).Reports path reason :=
  ⟨rfl, rfl, rfl, rfl⟩

theorem breaks_notLoaded {error : LoadError} (h : ∀ path reason, error ≠ .unusable path reason) :
    (notLoaded disk lines error).Breaks error := by
  cases error with
  | unusable path reason => exact absurd rfl (h path reason)
  | undecodable | excessive | unreachable => exact ⟨rfl, rfl, rfl, rfl⟩

/-- Ending a command with the error of a file answers for the file. -/
theorem answersFor_notLoaded {room : Nat} {path : Path} {error : LoadError}
    (h : FactFile.load room disk path = .error error) :
    (notLoaded disk lines error).AnswersFor room disk path := by
  have haccounted := FactFile.accounted_load_iff room disk path
  constructor
  · intro hescapes
    obtain ⟨file, hfile⟩ | ⟨reason, hreason⟩ := haccounted.mpr hescapes
    · cases h.symm.trans hfile
    · obtain rfl := Except.error.inj (h.symm.trans hreason)
      exact ⟨reason, h, reports_notLoaded⟩
  · intro hescapes
    refine ⟨error, h, breaks_notLoaded ?_⟩
    rintro other reason rfl
    obtain rfl := FactFile.eq_of_load_unusable h
    exact haccounted.mp (Or.inr ⟨reason, h⟩) hescapes

end CommandOutcome

/-! ## Commands -/

/-- A file is the first one without facts of those that are found at a path. -/
def StopsAt (room : Nat) (disk : Disk) (root bad : Path) : Prop :=
  ∃ before after, discover disk root (room - searchShare) = .ok (before ++ bad :: after) ∧
    (∀ path ∈ before, ∃ file, FactFile.load room disk path = .ok file) ∧
    ∀ file, FactFile.load room disk bad ≠ .ok file

variable {surroundings : Surroundings} {bad : Path}

/-- The loading ends with the error of this file. -/
theorem StopsAt.answer_eq {room : Nat} {disk : Disk} {root : Path}
    (h : StopsAt room disk root bad) :
    ∃ error, FactFile.load room disk bad = .error error ∧
      (loadIndex room disk root).answer = .error error := by
  obtain ⟨before, after, hfound, hbefore, hbad⟩ := h
  cases hload : FactFile.load room disk bad with
  | ok file => exact absurd hload (hbad file)
  | error error =>
    exact ⟨error, rfl, answer_loadIndex_of_unusable hfound (loadFiles_of_unusable hbefore hload)⟩

theorem answersFor_renderCommand {request : RenderRequest} {settings : FlowSettings}
    (hsettings : FlowSettings.ofEnvironment surroundings.environment = .ok settings)
    (h : StopsAt renderRoom surroundings.disk request.path bad) :
    (renderCommand surroundings request).AnswersFor renderRoom surroundings.disk bad := by
  obtain ⟨error, hload, hanswer⟩ := h.answer_eq
  obtain ⟨lines, hstopped⟩ := RenderRequest.renderCommand_of_unloadable hsettings hanswer
  rw [hstopped]
  exact CommandOutcome.answersFor_notLoaded hload

theorem answersFor_inspectCommand {request : InspectRequest}
    (h : StopsAt inspectRoom surroundings.disk request.path bad) :
    (inspectCommand surroundings request).AnswersFor inspectRoom surroundings.disk bad := by
  obtain ⟨error, hload, hanswer⟩ := h.answer_eq
  simp only [inspectCommand, hanswer]
  exact CommandOutcome.answersFor_notLoaded hload

/-- A fact file either has facts or is reported with its path, unless its path cannot be passed on,
its bytes are not UTF-8 or its document exceeds a limit of the reader: then neither is the case. The
commands that read facts answer accordingly for the first file that has none: with an error line and
the exit code 1 if it is reported, and otherwise with a failure that nothing is said about. -/
theorem accounts_for_unusable (surroundings : Surroundings) (bad : Path) :
    (∀ room, FactFile.Accounted bad (FactFile.load room surroundings.disk bad) ↔
      ¬ FactFile.Escapes room surroundings.disk bad) ∧
    (∀ (request : RenderRequest) (settings : FlowSettings),
      FlowSettings.ofEnvironment surroundings.environment = .ok settings →
      StopsAt renderRoom surroundings.disk request.path bad →
      (renderCommand surroundings request).AnswersFor renderRoom surroundings.disk bad) ∧
    ∀ request : InspectRequest, StopsAt inspectRoom surroundings.disk request.path bad →
      (inspectCommand surroundings request).AnswersFor inspectRoom surroundings.disk bad :=
  ⟨fun room => FactFile.accounted_load_iff room surroundings.disk bad,
    fun _ _ hsettings h => answersFor_renderCommand hsettings h,
    fun _ h => answersFor_inspectCommand h⟩

/-! ## Files of a few bytes -/

/-- A fact file in the working folder. -/
def fileHere : Path := ⟨.relative, ["x.facts.json"]⟩

/-- A working folder with a fact file of these bytes. -/
def surroundingsOf (bytes : List UInt8) : Surroundings where
  environment := []
  disk := { home := [], nodes := [(["x.facts.json"], .file bytes)] }
  renderer := fun _ _ _ => .unavailable

/-- The command line that asks what is known about the working folder. -/
def inspectHere : InspectRequest where
  path := ⟨.relative, []⟩
  supertype := none
  verbose := false

/-- The file is the only one below the working folder. -/
theorem stopsAt_fileHere {room : Nat} {bytes : List UInt8}
    (h : ∀ file, FactFile.load room (surroundingsOf bytes).disk fileHere ≠ .ok file) :
    StopsAt room (surroundingsOf bytes).disk ⟨.relative, []⟩ fileHere := by
  have hfound : discover (surroundingsOf bytes).disk ⟨.relative, []⟩ (room - searchShare) =
      .ok [fileHere] := by cbv
  exact ⟨[], [], hfound, fun path hpath => absurd hpath List.not_mem_nil, h⟩

/-- A list states no facts, and both commands say so. -/
theorem accounts_for_list :
    let surroundings := surroundingsOf [0x5B, 0x5D]
    FlowSettings.ofEnvironment surroundings.environment = .ok {} ∧
      StopsAt renderRoom surroundings.disk dotRequest.path fileHere ∧
      StopsAt inspectRoom surroundings.disk inspectHere.path fileHere ∧
      (renderCommand surroundings dotRequest).Reports fileHere .notObject ∧
      (inspectCommand surroundings inspectHere).Reports fileHere .notObject := by
  intro surroundings
  have hload (room : Nat) : FactFile.load (room + 1) surroundings.disk fileHere =
      .error (.unusable fileHere .notObject) := by rfl
  have hstops (room : Nat) : StopsAt (room + 1) surroundings.disk ⟨.relative, []⟩ fileHere :=
    stopsAt_fileHere fun file hfile => by cases (hload room).symm.trans hfile
  obtain ⟨haccounted, hrender, hinspect⟩ := accounts_for_unusable surroundings fileHere
  have hreported (room : Nat) {outcome : CommandOutcome}
      (h : outcome.AnswersFor (room + 1) surroundings.disk fileHere) :
      outcome.Reports fileHere .notObject := by
    obtain ⟨reason, hreason, hreports⟩ :=
      h.reports ((haccounted (room + 1)).mp (Or.inr ⟨_, hload room⟩))
    cases (hload room).symm.trans hreason
    exact hreports
  exact ⟨rfl, hstops 981, hstops 982, hreported 981 (hrender dotRequest {} rfl (hstops 981)),
    hreported 982 (hinspect inspectHere (hstops 982))⟩

/-- What is wrong with a file whose only byte starts no character. -/
def loneByte : LoadError :=
  .undecodable ⟨0xFF, 0, 1, .invalidStart⟩

/-- A file with this byte is not accounted for, and it ends both commands. -/
theorem not_accounted_loneByte :
    let surroundings := surroundingsOf [0xFF]
    ¬ FactFile.Accounted fileHere (FactFile.load renderRoom surroundings.disk fileHere) ∧
      (renderCommand surroundings dotRequest).Breaks loneByte ∧
      (inspectCommand surroundings inspectHere).Breaks loneByte := by
  intro surroundings
  have hload (room : Nat) : FactFile.load room surroundings.disk fileHere =
      .error loneByte := by rfl
  have hnot (room : Nat) :
      ¬ FactFile.Accounted fileHere (FactFile.load room surroundings.disk fileHere) := by
    rintro (⟨_, h⟩ | ⟨_, h⟩) <;> cases (hload room).symm.trans h
  have hstops (room : Nat) : StopsAt room surroundings.disk ⟨.relative, []⟩ fileHere :=
    stopsAt_fileHere fun file hfile => hnot room (Or.inl ⟨file, hfile⟩)
  have hbreaks {room : Nat} {outcome : CommandOutcome}
      (h : outcome.AnswersFor room surroundings.disk fileHere) : outcome.Breaks loneByte := by
    have hescapes := Classical.not_not.mp
      (mt (FactFile.accounted_load_iff room surroundings.disk fileHere).mpr (hnot room))
    obtain ⟨other, hother, hbroken⟩ := h.breaks hescapes
    cases (hload room).symm.trans hother
    exact hbroken
  exact ⟨hnot _, hbreaks (@answersFor_renderCommand _ _ _ {} rfl (hstops _)),
    hbreaks (answersFor_inspectCommand (hstops _))⟩

end FlowDiagram
