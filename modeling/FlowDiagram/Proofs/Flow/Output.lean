import FlowDiagram.Command.Render
import FlowDiagram.Proofs.Files.Names
import Mathlib.Data.List.Forall2

/-!
# Written diagrams

If the diagrams of several flows are written without an error, there is a file for each of them in
the output folder: its image, or its DOT file if that was wanted or the image could not be made. The
files of different flows have different names, so writing one of them leaves the others alone.

## Main definitions

* `FilesApart`: the files of two flows are different files.
* `rendered?`, `warning?`, `primaryPath`: what comes of rendering a flow.
* `FlowResult.written`: the result of a flow that was written.
* `Delivered`: the files of a flow that was written are as they are to be.
* `HasOutput`: the output of a flow is there.

`writeFlow_of_ok` is about one flow and `writeFlows_of_ok` about several; `writeOutputs_of_ok` and
`exists_outputs` say what they come to whatever the renderer does.
-/

namespace FlowDiagram

/-! ## Names -/

/-- A format that names of files may end in: three letters of ASCII, say. -/
structure IsEnding (format : Text) : Prop where
  length : format.length = 3
  slash : CodePoint.char '/' ∉ format
  whole : ∀ c ∈ format, c.isSurrogate = false

theorem isEnding_of_mem {format : Text} (h : format ∈ outputFormats) : IsEnding format := by
  simp only [outputFormats, List.mem_cons, List.not_mem_nil, or_false] at h
  rcases h with rfl | rfl | rfl | rfl | rfl <;> exact ⟨by decide, by decide, by decide⟩

theorem isEnding_dotFormat : IsEnding dotFormat :=
  isEnding_of_mem (by decide)

namespace FlowResult

/-- The name of one of the files of a flow. -/
def fileName (result : FlowResult) (format : Text) : Text :=
  result.fileStem ++ "." ++ format

variable {result other : FlowResult} {format ending : Text}

theorem isFileName_fileName (hslash : CodePoint.char '/' ∉ result.flow)
    (hformat : IsEnding format) : IsFileName (result.fileName format) := by
  have hlength : 4 < (result.fileName format).length := by
    have hthree := hformat.length
    have hstem : (Text.ofString "_flow").length = 5 := by decide
    simp only [fileName, fileStem, List.length_append]
    omega
  have hbetween : CodePoint.char '/' ∉ Text.ofString "_flow" ∧
      CodePoint.char '/' ∉ Text.ofString "." := by decide
  have hlong : ∀ short : Text, short.length ≤ 2 → result.fileName format ≠ short := by
    rintro short hshort rfl
    omega
  refine ⟨hlong _ (by decide), hlong _ (by decide), hlong _ (by decide), ?_⟩
  simp only [fileName, fileStem, List.mem_append, not_or]
  exact ⟨⟨⟨hslash, hbetween.1⟩, hbetween.2⟩, hformat.slash⟩

/-- The bytes of the name of a file are those of the flow, of the ending, and some between them. -/
theorem bytes_fileName (result : FlowResult) (format : Text) :
    Text.Raw.bytes (result.fileName format) =
      Text.Raw.bytes result.flow ++ (Text.Raw.bytes "_flow." ++ Text.Raw.bytes format) := by
  have hbetween : Text.ofString "_flow." = Text.ofString "_flow" ++ Text.ofString "." := by decide
  simp only [hbetween, Text.Raw.bytes, fileName, fileStem, List.flatMap_append, List.append_assoc]

/-- The DOT file of a flow has another name than its image. -/
theorem bytes_fileName_ne (hformat : IsEnding format) (h : format ≠ dotFormat) :
    Text.Raw.bytes (result.fileName dotFormat) ≠ Text.Raw.bytes (result.fileName format) := by
  intro heq
  rw [bytes_fileName, bytes_fileName, List.append_cancel_left_eq, List.append_cancel_left_eq] at heq
  exact h (Text.Raw.eq_of_bytes_eq hformat.whole isEnding_dotFormat.whole heq.symm)

/-- Names of files tell the flow and the format. -/
theorem fileName_injective (hformat : IsEnding format) (hending : IsEnding ending)
    (h : result.fileName format = other.fileName ending) :
    result.flow = other.flow ∧ format = ending := by
  obtain ⟨hstem, hsame⟩ := List.append_inj' h (hformat.length.trans hending.length.symm)
  simp only [fileStem, List.append_cancel_right_eq] at hstem
  exact ⟨hstem, hsame⟩

/-- A flow whose name can be part of the name of a file, and has no surrogates. -/
structure IsNamed (result : FlowResult) : Prop where
  slash : CodePoint.char '/' ∉ result.flow
  whole : ∀ c ∈ result.flow, c.isSurrogate = false

theorem IsNamed.whole_fileName (h : result.IsNamed) (hformat : IsEnding format) :
    ∀ c ∈ result.fileName format, c.isSurrogate = false := by
  have hwhole : (∀ c ∈ Text.ofString "_flow", c.isSurrogate = false) ∧
      ∀ c ∈ Text.ofString ".", c.isSurrogate = false := by decide
  simp only [fileName, fileStem, List.forall_mem_append]
  exact ⟨⟨⟨h.whole, hwhole.1⟩, hwhole.2⟩, hformat.whole⟩

end FlowResult

theorem outputPath_eq (folder : Path) (result : FlowResult) (format : Text) :
    outputPath folder result format = folder.child (result.fileName format) :=
  rfl

/-- Files whose names stand for different bytes are different files. -/
theorem apart_outputPath {result other : FlowResult} {format ending : Text}
    (hslash : CodePoint.char '/' ∉ result.flow) (hformat : IsEnding format)
    (hslash' : CodePoint.char '/' ∉ other.flow) (hending : IsEnding ending)
    (h : Text.Raw.bytes (result.fileName format) ≠ Text.Raw.bytes (other.fileName ending))
    (folder : Path) : (outputPath folder result format).Apart (outputPath folder other ending) :=
  (FlowResult.isFileName_fileName hslash hformat).apart_child
    (FlowResult.isFileName_fileName hslash' hending) folder h

/-! ## Files -/

section Files

variable (settings : FlowSettings) (folder : Path)

/-- The files that may be written for a flow. -/
def filesOf (result : FlowResult) : List Path :=
  [outputPath folder result dotFormat, outputPath folder result settings.outputFormat]

/-- The files of two flows are different files. -/
def FilesApart (result other : FlowResult) : Prop :=
  ∀ path ∈ filesOf settings folder result, ∀ changed ∈ filesOf settings folder other,
    path.Apart changed

variable {settings folder}

theorem forall_mem_filesOf {result : FlowResult} {P : Path → Prop} :
    (∀ path ∈ filesOf settings folder result, P path) ↔
      P (outputPath folder result dotFormat) ∧
        P (outputPath folder result settings.outputFormat) := by
  simp [filesOf]

theorem exists_of_mem_filesOf {path : Path} {result : FlowResult}
    (hending : IsEnding settings.outputFormat) (h : path ∈ filesOf settings folder result) :
    ∃ format, IsEnding format ∧ path = outputPath folder result format := by
  simp only [filesOf, List.mem_cons, List.not_mem_nil, or_false] at h
  rcases h with rfl | rfl
  · exact ⟨_, isEnding_dotFormat, rfl⟩
  · exact ⟨_, hending, rfl⟩

/-- Flows with different names have different files, if there are no surrogates in the names. -/
theorem filesApart_of_isNamed (hending : IsEnding settings.outputFormat) {result other : FlowResult}
    (hnamed : result.IsNamed) (hother : other.IsNamed) (h : result.flow ≠ other.flow) :
    FilesApart settings folder result other := by
  intro path hpath changed hchanged
  obtain ⟨format, hformat, rfl⟩ := exists_of_mem_filesOf hending hpath
  obtain ⟨ending, hending', rfl⟩ := exists_of_mem_filesOf hending hchanged
  refine apart_outputPath hnamed.slash hformat hother.slash hending' (fun hbytes => ?_) folder
  have hname := Text.Raw.eq_of_bytes_eq (hnamed.whole_fileName hformat)
    (hother.whole_fileName hending') hbytes
  exact h (FlowResult.fileName_injective hformat hending' hname).1

end Files

/-! ## Renderings -/

section Renderings

variable (settings : FlowSettings) (renderer : Renderer) (folder : Path) (result : FlowResult)

/-- The image that was made of a flow: none if only DOT files are wanted, or if it could not be
made. -/
def rendered? : Option Text :=
  if settings.outputFormat = dotFormat then none
  else
    match renderer settings.outputFormat (outputPath folder result dotFormat)
      (result.dot.getD []) with
    | .image content => some content
    | _ => none

/-- The warning about an image that could not be made. -/
def warning? : Option Text :=
  if settings.outputFormat = dotFormat then none
  else
    match renderer settings.outputFormat (outputPath folder result dotFormat)
      (result.dot.getD []) with
    | .unavailable => some unavailableWarning
    | .failed stderr => some (failedWarning settings.outputFormat stderr)
    | .image _ => none

/-- The output of a flow: its image if there is one, or else its DOT file. -/
def primaryPath : Path :=
  if (rendered? settings renderer folder result).isSome then
    outputPath folder result settings.outputFormat
  else outputPath folder result dotFormat

/-- The result of a flow that was written tells the output, and one warning more if there is one. -/
def FlowResult.written : FlowResult :=
  { result with
    output := some (primaryPath settings renderer folder result)
    warnings := result.warnings ++ (warning? settings renderer folder result).toList }

/-- A result after the writing: a flow that could not be drawn stays as it is. -/
def FlowResult.afterWriting : FlowResult :=
  if result.isSuccess then result.written settings renderer folder else result

/-- The files of a flow that was written. There is the image if it was made, and the DOT file if it
was not made or both are to be kept; otherwise there is no DOT file any more. -/
structure Delivered (disk : Disk) : Prop where
  image : ∀ content, rendered? settings renderer folder result = some content →
    disk.Holds (outputPath folder result settings.outputFormat) content
  dot : rendered? settings renderer folder result = none ∨ settings.keepDot = true →
    disk.Holds (outputPath folder result dotFormat) (result.dot.getD [])
  gone : rendered? settings renderer folder result ≠ none → settings.keepDot = false →
    disk.Lacks (outputPath folder result dotFormat)

variable {settings renderer folder result}

/-- There is no warning about an image that was made. -/
theorem written_of_rendered {content : Text}
    (h : rendered? settings renderer folder result = some content) :
    result.written settings renderer folder =
      { result with output := some (outputPath folder result settings.outputFormat) } := by
  have hwarning : warning? settings renderer folder result = none := by
    unfold rendered? at h
    unfold warning?
    split at h
    · cases h
    · rename_i hformat
      rw [if_neg hformat]
      split at h
      · rename_i hrendering
        rw [hrendering]
      · cases h
  simp [FlowResult.written, primaryPath, h, hwarning]

namespace Delivered

variable {disk other : Disk}

/-- The files of a flow stay if the changed paths lead to other files. -/
theorem of_changesAt {paths : List Path} (h : Delivered settings renderer folder result disk)
    (hchanges : Disk.ChangesAt paths disk other)
    (hapart : ∀ path ∈ filesOf settings folder result, ∀ changed ∈ paths, path.Apart changed) :
    Delivered settings renderer folder result other := by
  obtain ⟨hdot, himage⟩ := forall_mem_filesOf.mp hapart
  exact ⟨fun content hcontent => hchanges.holds (h.image content hcontent) himage,
    fun hkept => hchanges.holds (h.dot hkept) hdot,
    fun hrendered hkeep => hchanges.lacks (h.gone hrendered hkeep) hdot⟩

/-- The output of a flow is there. -/
theorem exists_primary (h : Delivered settings renderer folder result disk) :
    ∃ bytes, disk.find (primaryPath settings renderer folder result) = .ok (.file bytes) := by
  rw [primaryPath]
  cases hrendered : rendered? settings renderer folder result with
  | none =>
    obtain ⟨bytes, -, hfind⟩ := h.dot (Or.inl hrendered)
    exact ⟨bytes, hfind⟩
  | some content =>
    obtain ⟨bytes, -, hfind⟩ := h.image content hrendered
    exact ⟨bytes, hfind⟩

end Delivered

theorem primaryPath_mem_filesOf :
    primaryPath settings renderer folder result ∈ filesOf settings folder result := by
  rw [primaryPath]
  split <;> simp [filesOf]

end Renderings

/-! ## One flow -/

namespace Written

@[simp] theorem disk_finish (written : Written) : written.finish.disk = written.disk := by
  unfold finish
  split <;> rfl

@[simp] theorem result_finish (written : Written) : written.finish.result = written.result := by
  unfold finish
  split <;> rfl

@[simp] theorem error_finish (written : Written) : written.finish.error = written.error := by
  unfold finish
  split <;> rfl

end Written

/-- A flow was written without an error: it is delivered, and nothing has changed but its files. -/
structure FlowWritten (settings : FlowSettings) (renderer : Renderer) (folder : Path) (disk : Disk)
    (result : FlowResult) (written : Written) : Prop where
  result_eq : written.result = result.written settings renderer folder
  delivered : Delivered settings renderer folder result written.disk
  changes : Disk.ChangesAt (filesOf settings folder result) disk written.disk

section Flow

variable {settings : FlowSettings} {renderer : Renderer} {folder : Path} {disk before : Disk}
  {result : FlowResult}

/-- What was written stays written when the writing of a flow is finished. -/
theorem FlowWritten.finish {written : Written}
    (h : FlowWritten settings renderer folder disk result written) :
    FlowWritten settings renderer folder disk result written.finish where
  result_eq := by rw [Written.result_finish, h.result_eq]
  delivered := by rw [Written.disk_finish]; exact h.delivered
  changes := by rw [Written.disk_finish]; exact h.changes

/-- A flow of which the DOT file is all that was written. -/
theorem flowWritten_dot (hdot : Disk.ChangesAt [outputPath folder result dotFormat] before disk)
    (hholds : disk.Holds (outputPath folder result dotFormat) (result.dot.getD []))
    (hnone : rendered? settings renderer folder result = none) {warnings : List Text}
    (hwarnings : warnings = result.warnings ++ (warning? settings renderer folder result).toList)
    (events : List Event) :
    FlowWritten settings renderer folder before result
      { disk
        result := { result with output := some (outputPath folder result dotFormat), warnings }
        events } where
  result_eq := by simp [FlowResult.written, primaryPath, hnone, hwarnings]
  delivered := ⟨fun content hcontent => by simp [hnone] at hcontent, fun _ => hholds,
    fun hrendered => absurd hnone hrendered⟩
  changes := hdot.mono (by simp [filesOf])

/-- A flow of which the image was written, too. The removal of the DOT file leaves the image, which
has another name. -/
theorem flowWritten_addImage (hslash : CodePoint.char '/' ∉ result.flow)
    (hending : IsEnding settings.outputFormat)
    (hdot : Disk.ChangesAt [outputPath folder result dotFormat] before disk)
    (hholds : disk.Holds (outputPath folder result dotFormat) (result.dot.getD []))
    (hformat : settings.outputFormat ≠ dotFormat) {content : Text}
    (hrendering : renderer settings.outputFormat (outputPath folder result dotFormat)
      (result.dot.getD []) = .image content)
    (h : (Written.addImage settings disk
      { result with output := some (outputPath folder result dotFormat) }
      (outputPath folder result dotFormat) (outputPath folder result settings.outputFormat)
      content).error = none) :
    FlowWritten settings renderer folder before result (Written.addImage settings disk
      { result with output := some (outputPath folder result dotFormat) }
      (outputPath folder result dotFormat) (outputPath folder result settings.outputFormat)
      content) := by
  have hrendered : rendered? settings renderer folder result = some content := by
    rw [rendered?, if_neg hformat, hrendering]
  have hresult := written_of_rendered hrendered
  have hapart : (outputPath folder result dotFormat).Apart
      (outputPath folder result settings.outputFormat) :=
    apart_outputPath hslash isEnding_dotFormat hslash hending
      (FlowResult.bytes_fileName_ne hending hformat) folder
  unfold Written.addImage at h ⊢
  split at h
  · cases h
  · rename_i imaged himage
    obtain ⟨hchanges, himageHolds⟩ := Disk.writeText_eq_ok himage
    have hboth := hdot.trans hchanges
    dsimp only at h ⊢
    split at h
    · rename_i hkeep
      rw [if_pos hkeep]
      refine ⟨hresult.symm, ⟨fun other hother => ?_, fun _ => ?_, fun _ hgone => ?_⟩, hboth⟩
      · obtain rfl := Option.some.inj (hrendered.symm.trans hother)
        exact himageHolds
      · exact hchanges.holds hholds (List.forall_mem_singleton.mpr hapart)
      · cases hkeep.symm.trans hgone
    · rename_i hkeep
      rw [if_neg hkeep]
      split at h
      · cases h
      · rename_i cleared hremove
        obtain ⟨hremoved, hlacks⟩ := Disk.remove_eq_ok hremove
        refine ⟨hresult.symm, ⟨fun other hother => ?_, ?_, fun _ _ => hlacks⟩,
          (hboth.trans hremoved).mono (by simp [filesOf])⟩
        · obtain rfl := Option.some.inj (hrendered.symm.trans hother)
          exact hremoved.holds himageHolds (List.forall_mem_singleton.mpr hapart.symm)
        · rintro (hnone | hkept)
          · cases hrendered.symm.trans hnone
          · exact absurd hkept hkeep

end Flow

/-- Writing a flow without an error. -/
theorem writeFlow_of_ok {settings : FlowSettings} {renderer : Renderer} {folder : Path}
    {disk : Disk} {result : FlowResult} (hslash : CodePoint.char '/' ∉ result.flow)
    (hending : IsEnding settings.outputFormat)
    (h : (writeFlow settings renderer folder disk result).error = none) :
    FlowWritten settings renderer folder disk result
      (writeFlow settings renderer folder disk result) := by
  unfold writeFlow at h ⊢
  dsimp only at h ⊢
  split at h
  · cases h
  · rename_i dotted hwrite
    obtain ⟨hdot, hholds⟩ := Disk.writeText_eq_ok hwrite
    split at h
    · rename_i hformat
      rw [if_pos hformat]
      exact (flowWritten_dot hdot hholds (by rw [rendered?, if_pos hformat])
        (by simp [warning?, hformat]) _).finish
    · rename_i hformat
      rw [if_neg hformat]
      refine FlowWritten.finish ?_
      rw [Written.error_finish] at h
      unfold Written.render at h ⊢
      dsimp only at h ⊢
      cases hrendering : renderer settings.outputFormat (outputPath folder result dotFormat)
        (result.dot.getD []) with
      | unavailable =>
        rw [hrendering] at h
        dsimp only at h ⊢
        split at h
        · exact flowWritten_dot hdot hholds (by rw [rendered?, if_neg hformat, hrendering])
            (by rw [warning?, if_neg hformat, hrendering]; rfl) _
        · cases h
      | failed stderr =>
        exact flowWritten_dot hdot hholds (by rw [rendered?, if_neg hformat, hrendering])
          (by rw [warning?, if_neg hformat, hrendering]; rfl) _
      | image content =>
        rw [hrendering] at h
        exact flowWritten_addImage hslash hending hdot hholds hformat hrendering h

/-! ## Several flows -/

section Flows

variable {settings : FlowSettings} (renderer : Renderer) {folder : Path}

/-- Writing leaves the name of a flow and how far it has come. -/
theorem flow_status_writeFlow (settings : FlowSettings) (folder : Path) (disk : Disk)
    (result : FlowResult) :
    (writeFlow settings renderer folder disk result).result.flow = result.flow ∧
      (writeFlow settings renderer folder disk result).result.status = result.status := by
  unfold writeFlow
  dsimp only
  split
  · exact ⟨rfl, rfl⟩
  · split
    · simp only [Written.result_finish, and_self]
    · rw [Written.result_finish, Written.render]
      dsimp only
      split
      · split <;> exact ⟨rfl, rfl⟩
      · exact ⟨rfl, rfl⟩
      · unfold Written.addImage
        split
        · exact ⟨rfl, rfl⟩
        · dsimp only
          split
          · exact ⟨rfl, rfl⟩
          · split <;> exact ⟨rfl, rfl⟩

/-- Whatever comes of the writing, there are results of the same flows, and they have come as far
as before. -/
theorem map_writeFlows (settings : FlowSettings) (folder : Path) (disk : Disk)
    (results : List FlowResult) :
    (writeFlows settings renderer folder disk results).results.map
        (fun result => (result.flow, result.status)) =
      results.map fun result => (result.flow, result.status) := by
  induction results generalizing disk with
  | nil => rfl
  | cons result results ih =>
    obtain ⟨hflow, hstatus⟩ := flow_status_writeFlow renderer settings folder disk result
    rw [writeFlows]
    dsimp only
    split
    · split
      · simp only [List.map_cons, hflow, hstatus]
      · simp only [List.map_cons, hflow, hstatus, ih]
    · simp only [List.map_cons, ih]

/-- Flows were written without an error: those that had been drawn are all delivered, and their
outputs are the paths that were written. Nothing else has changed. -/
structure FlowsWritten (settings : FlowSettings) (renderer : Renderer) (folder : Path) (disk : Disk)
    (results : List FlowResult) (outputs : Outputs) : Prop where
  results_eq : outputs.results = results.map (FlowResult.afterWriting settings renderer folder)
  paths_eq : outputs.paths =
    (results.filter (·.isSuccess)).map (primaryPath settings renderer folder)
  delivered : ∀ result ∈ results, result.isSuccess = true →
    Delivered settings renderer folder result outputs.disk
  changes : Disk.ChangesAt ((results.filter (·.isSuccess)).flatMap (filesOf settings folder)) disk
    outputs.disk

variable {renderer} in
/-- Writing flows with different files without an error. -/
theorem writeFlows_of_ok (hending : IsEnding settings.outputFormat) {disk : Disk}
    {results : List FlowResult}
    (hslash : ∀ result ∈ results, result.isSuccess = true → CodePoint.char '/' ∉ result.flow)
    (hapart : (results.filter (·.isSuccess)).Pairwise (FilesApart settings folder))
    (h : (writeFlows settings renderer folder disk results).error = none) :
    FlowsWritten settings renderer folder disk results
      (writeFlows settings renderer folder disk results) := by
  -- The files of the first flow are written first, those of the others leave them.
  induction results generalizing disk with
  | nil => exact ⟨rfl, rfl, fun _ hresult => absurd hresult List.not_mem_nil, .refl disk⟩
  | cons result results ih =>
    obtain ⟨hfirst, hslash⟩ := List.forall_mem_cons.mp hslash
    rw [writeFlows] at h ⊢
    by_cases hsuccess : result.isSuccess = true
    · rw [List.filter_cons_of_pos hsuccess, List.pairwise_cons] at hapart
      obtain ⟨hothers, hapart⟩ := hapart
      rw [if_pos hsuccess] at h ⊢
      dsimp only at h ⊢
      split at h
      · cases h
      · rename_i herror
        obtain ⟨hresult, hdelivered, hchanges⟩ := writeFlow_of_ok (hfirst hsuccess) hending herror
        obtain ⟨hresults, hpaths, hrest, hlater⟩ := ih hslash hapart h
        have hkept := hdelivered.of_changesAt hlater fun path hpath changed hchanged => by
          obtain ⟨other, hother, hchanged⟩ := List.mem_flatMap.mp hchanged
          exact hothers other hother path hpath changed hchanged
        constructor
        · rw [hresults, hresult, List.map_cons, FlowResult.afterWriting, if_pos hsuccess]
        · rw [hpaths, hresult, List.filter_cons_of_pos hsuccess, List.map_cons]
          rfl
        · exact List.forall_mem_cons.mpr ⟨fun _ => hkept, hrest⟩
        · rw [List.filter_cons_of_pos hsuccess, List.flatMap_cons]
          exact hchanges.trans hlater
    · rw [List.filter_cons_of_neg hsuccess] at hapart
      rw [if_neg hsuccess] at h ⊢
      dsimp only at h ⊢
      obtain ⟨hresults, hpaths, hrest, hlater⟩ := ih hslash hapart h
      constructor
      · rw [hresults, List.map_cons, FlowResult.afterWriting, if_neg hsuccess]
      · rw [hpaths, List.filter_cons_of_neg hsuccess]
      · exact List.forall_mem_cons.mpr ⟨fun h => absurd h hsuccess, hrest⟩
      · rw [List.filter_cons_of_neg hsuccess]
        exact hlater

/-! ## Outputs -/

/-- The output of a flow is one of its files, and there is such a file. -/
def HasOutput (settings : FlowSettings) (folder : Path) (disk : Disk)
    (result written : FlowResult) : Prop :=
  ∃ path ∈ filesOf settings folder result, written.output = some path ∧
    ∃ bytes, disk.find path = .ok (.file bytes)

theorem map_writeOutputs (settings : FlowSettings) (room : Nat) (disk : Disk)
    (summary : RunSummary) :
    (writeOutputs settings renderer room disk summary).results.map
        (fun result => (result.flow, result.status)) =
      summary.results.map fun result => (result.flow, result.status) := by
  rw [writeOutputs]
  split
  · rfl
  · exact map_writeFlows renderer settings _ _ _

/-- The output folder is made before anything is written to it. -/
theorem writeOutputs_of_ok (hending : IsEnding settings.outputFormat) {room : Nat} {disk : Disk}
    {summary : RunSummary}
    (hall : ∀ result ∈ summary.results, result.isSuccess = true ∧ result.IsNamed)
    (hdistinct : (summary.results.map (·.flow)).Nodup)
    (h : (writeOutputs settings renderer room disk summary).error = none) :
    List.Forall₂ (HasOutput settings (outputFolder settings disk)
        (writeOutputs settings renderer room disk summary).disk)
      summary.results (writeOutputs settings renderer room disk summary).results := by
  rw [writeOutputs] at h ⊢
  split at h
  · cases h
  · have hdrawn : summary.results.filter (·.isSuccess) = summary.results :=
      List.filter_eq_self.mpr fun result hresult => (hall result hresult).1
    have hapart : summary.results.Pairwise
        (FilesApart settings (outputFolder settings disk)) := by
      refine (List.pairwise_map.mp hdistinct).imp_of_mem fun {a b} ha hb hne => ?_
      exact filesApart_of_isNamed hending (hall a ha).2 (hall b hb).2 hne
    have hwritten := writeFlows_of_ok hending
      (fun result hresult _ => (hall result hresult).2.slash) (hdrawn.symm ▸ hapart) h
    rw [hwritten.results_eq, List.forall₂_map_right_iff, List.forall₂_same]
    intro result hresult
    have hsuccess := (hall result hresult).1
    have hdelivered := hwritten.delivered result hresult hsuccess
    refine ⟨_, primaryPath_mem_filesOf, ?_, hdelivered.exists_primary⟩
    rw [FlowResult.afterWriting, if_pos hsuccess]
    rfl

/-- The outputs of flows with different names are different files in the folder. -/
theorem exists_outputs (hending : IsEnding settings.outputFormat) {disk : Disk}
    {results written : List FlowResult}
    (h : List.Forall₂ (HasOutput settings folder disk) results written)
    (hnamed : ∀ result ∈ results, result.IsNamed) (hdistinct : (results.map (·.flow)).Nodup) :
    ∃ paths : List Path, paths.Nodup ∧ written.map (·.output) = paths.map some ∧
      (∀ path ∈ paths, ∃ result ∈ results, path ∈ filesOf settings folder result) ∧
      ∀ path ∈ paths, path.parent = folder ∧ ∃ bytes, disk.find path = .ok (.file bytes) := by
  induction h with
  | nil => exact ⟨[], List.nodup_nil, rfl, by simp, by simp⟩
  | @cons result other results written houtput _ ih =>
    obtain ⟨hfirst, hnamed⟩ := List.forall_mem_cons.mp hnamed
    rw [List.map_cons, List.nodup_cons] at hdistinct
    obtain ⟨paths, hnodup, houtputs, hfiles, hfound⟩ := ih hnamed hdistinct.2
    obtain ⟨path, hpath, hother, hfind⟩ := houtput
    obtain ⟨format, hformat, heq⟩ := exists_of_mem_filesOf hending hpath
    have hnew : path ∉ paths := by
      intro hmem
      obtain ⟨later, hlater, hpath'⟩ := hfiles path hmem
      obtain ⟨ending, hending', heq'⟩ := exists_of_mem_filesOf hending hpath'
      have hlaterName := FlowResult.isFileName_fileName (hnamed later hlater).slash hending'
      have hname := hlaterName.child_injective
        (FlowResult.isFileName_fileName hfirst.slash hformat) (heq'.symm.trans heq)
      have hflow := (FlowResult.fileName_injective hending' hformat hname).1
      exact hdistinct.1 (List.mem_map.mpr ⟨later, hlater, hflow⟩)
    refine ⟨path :: paths, List.nodup_cons.mpr ⟨hnew, hnodup⟩, ?_, ?_, ?_⟩
    · rw [List.map_cons, List.map_cons, hother, houtputs]
    · exact List.forall_mem_cons.mpr ⟨⟨result, List.mem_cons_self, hpath⟩, fun path hmem =>
        (hfiles path hmem).imp fun _ h => h.imp_left (List.mem_cons_of_mem result)⟩
    · refine List.forall_mem_cons.mpr ⟨⟨?_, hfind⟩, hfound⟩
      rw [heq, outputPath_eq, (FlowResult.isFileName_fileName hfirst.slash hformat).parent_child]

end Flows

end FlowDiagram
