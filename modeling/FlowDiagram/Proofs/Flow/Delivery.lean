import FlowDiagram.Proofs.Files.Folders
import FlowDiagram.Proofs.Flow.Output

/-!
# Delivered diagrams

If the diagrams of a run are written in one of the formats of the command line and no file operation
fails, each flow that was drawn is delivered, whatever the renderer does and whatever was in the
output folder before. All other flows and files stay as they are. This takes for granted that the
names of the flows stand for different bytes: different names alone are not enough, since surrogates
can spell a character byte by byte.

`writeOutputs_delivers` is the main result.
-/

namespace FlowDiagram

/-! ## Formats of the command line -/

section Formats

variable {format ending : Text} (h : format ∈ outputFormats)

include h

theorem length_bytes_of_mem : (Text.Raw.bytes format).length = 3 := by
  simp only [outputFormats, List.mem_cons, List.not_mem_nil, or_false] at h
  rcases h with rfl | rfl | rfl | rfl | rfl <;> decide

theorem isKnown_of_mem : ImageFormat.isKnown format = true := by
  simp only [outputFormats, List.mem_cons, List.not_mem_nil, or_false] at h
  rcases h with rfl | rfl | rfl | rfl | rfl <;> decide +kernel

/-- All endings have as many bytes, so the bytes of the name of a file tell those of the flow. -/
theorem bytes_flow_eq {result other : FlowResult} (hending : ending ∈ outputFormats)
    (hbytes : Text.Raw.bytes (result.fileName format) = Text.Raw.bytes (other.fileName ending)) :
    Text.Raw.bytes result.flow = Text.Raw.bytes other.flow := by
  rw [FlowResult.bytes_fileName, FlowResult.bytes_fileName] at hbytes
  refine (List.append_inj' hbytes ?_).1
  rw [List.length_append, List.length_append, length_bytes_of_mem h, length_bytes_of_mem hending]

end Formats

section Flow

variable {settings : FlowSettings} {renderer : Renderer} {folder : Path} {disk : Disk}
  {result : FlowResult} (hformat : settings.outputFormat ∈ outputFormats)

include hformat

theorem exists_format_of_mem_filesOf {path : Path} (h : path ∈ filesOf settings folder result) :
    ∃ format ∈ outputFormats, path = outputPath folder result format := by
  simp only [filesOf, List.mem_cons, List.not_mem_nil, or_false] at h
  rcases h with rfl | rfl
  · exact ⟨_, by decide, rfl⟩
  · exact ⟨_, hformat, rfl⟩

/-- Flows whose names stand for different bytes have different files. -/
theorem filesApart_of_bytes {other : FlowResult} (hslash : CodePoint.char '/' ∉ result.flow)
    (hslash' : CodePoint.char '/' ∉ other.flow)
    (h : Text.Raw.bytes result.flow ≠ Text.Raw.bytes other.flow) :
    FilesApart settings folder result other := by
  intro path hpath changed hchanged
  obtain ⟨format, hmem, rfl⟩ := exists_format_of_mem_filesOf hformat hpath
  obtain ⟨ending, hmem', rfl⟩ := exists_format_of_mem_filesOf hformat hchanged
  exact apart_outputPath hslash (isEnding_of_mem hmem) hslash' (isEnding_of_mem hmem')
    (fun hbytes => h (bytes_flow_eq hmem hmem' hbytes)) folder

/-! ## Errors -/

variable (hslash : CodePoint.char '/' ∉ result.flow)

include hslash

/-- Nothing but the renderer keeps a DOT file from being rendered. -/
theorem objection?_eq_none (h : settings.outputFormat ≠ dotFormat) :
    Written.objection? disk settings.outputFormat (outputPath folder result dotFormat)
      (outputPath folder result settings.outputFormat) = none := by
  have hending := isEnding_of_mem hformat
  have himage := FlowResult.isFileName_fileName hslash hending
  have hdot := FlowResult.isFileName_fileName hslash isEnding_dotFormat
  have hname : (outputPath folder result settings.outputFormat).name ≠
      (outputPath folder result dotFormat).name := by
    rw [outputPath_eq, outputPath_eq, himage.name_child, hdot.name_child]
    exact fun heq => h (FlowResult.fileName_injective hending isEnding_dotFormat heq).2
  have hparent : (outputPath folder result settings.outputFormat).parent =
      (outputPath folder result dotFormat).parent := by
    rw [outputPath_eq, outputPath_eq, himage.parent_child, hdot.parent_child]
  simp [Written.objection?, hname, hparent, isKnown_of_mem hformat]

/-- Only a file operation that fails ends the writing of a flow. -/
theorem error_writeFlow :
    (writeFlow settings renderer folder disk result).error = none ∨
      ∃ path error, (writeFlow settings renderer folder disk result).error =
        some (.file path error) := by
  unfold writeFlow
  dsimp only
  split
  · exact Or.inr ⟨_, _, rfl⟩
  · split
    · exact Or.inl rfl
    · rename_i hdot
      rw [Written.error_finish, Written.render]
      dsimp only
      split
      · split
        · exact Or.inl rfl
        · rename_i error hobjection
          cases (objection?_eq_none hformat hslash hdot).symm.trans hobjection
      · exact Or.inl rfl
      · unfold Written.addImage
        dsimp only
        split
        · exact Or.inr ⟨_, _, rfl⟩
        · split
          · exact Or.inl rfl
          · split
            · exact Or.inr ⟨_, _, rfl⟩
            · exact Or.inl rfl

end Flow

/-- Only a file operation that fails ends the writing of several flows. -/
theorem error_writeFlows {settings : FlowSettings} {renderer : Renderer} {folder : Path}
    {disk : Disk} {results : List FlowResult} (hformat : settings.outputFormat ∈ outputFormats)
    (hslash : ∀ result ∈ results, result.isSuccess = true → CodePoint.char '/' ∉ result.flow) :
    (writeFlows settings renderer folder disk results).error = none ∨
      ∃ path error, (writeFlows settings renderer folder disk results).error =
        some (.file path error) := by
  induction results generalizing disk with
  | nil => exact Or.inl rfl
  | cons result results ih =>
    obtain ⟨hfirst, hslash⟩ := List.forall_mem_cons.mp hslash
    rw [writeFlows]
    split
    · rename_i hsuccess
      dsimp only
      split
      · rename_i error herror
        have hcases :=
          @error_writeFlow settings renderer folder disk result hformat (hfirst hsuccess)
        rw [herror] at hcases
        exact hcases
      · exact ih hslash
    · exact ih hslash

/-! ## DOT files -/

section Dot

variable {settings : FlowSettings} {renderer : Renderer} {folder : Path} {disk : Disk}
  {result : FlowResult}

theorem rendered?_eq_none_iff :
    rendered? settings renderer folder result = none ↔
      settings.outputFormat = dotFormat ∨
        ∀ content, renderer settings.outputFormat (outputPath folder result dotFormat)
          (result.dot.getD []) ≠ .image content := by
  rw [rendered?]
  by_cases hformat : settings.outputFormat = dotFormat
  · simp [hformat]
  · rw [if_neg hformat]
    split
    · rename_i content hrendering
      simp [hformat, hrendering]
    · rename_i hnone
      exact iff_of_true rfl (Or.inr fun content hrendering => hnone content hrendering)

/-- A flow that was delivered has a DOT file if it has no image or both are to be kept. -/
theorem Delivered.exists_dot_iff (h : Delivered settings renderer folder result disk) :
    (∃ node, disk.find (outputPath folder result dotFormat) = .ok node) ↔
      rendered? settings renderer folder result = none ∨ settings.keepDot = true := by
  constructor
  · rintro ⟨node, hfind⟩
    by_contra hneither
    obtain ⟨hrendered, hkeep⟩ := not_or.mp hneither
    cases (h.gone hrendered (Bool.not_eq_true _ ▸ hkeep)).find_eq.symm.trans hfind
  · intro hkept
    obtain ⟨bytes, -, hfind⟩ := h.dot hkept
    exact ⟨_, hfind⟩

end Dot

/-! ## Runs -/

/-- If the output folder can be made, the flows are written on a disk that has some more folders. -/
theorem writeOutputs_eq_writeFlows {settings : FlowSettings} {renderer : Renderer} {room : Nat}
    {disk : Disk} {summary : RunSummary} (hfiles : ∀ path error,
      (writeOutputs settings renderer room disk summary).error ≠ some (.file path error)) :
    ∃ made, Disk.AddsFolders disk made ∧ writeOutputs settings renderer room disk summary =
      writeFlows settings renderer (outputFolder settings disk) made summary.results := by
  have hmade := @Disk.addsFolders_makeFolders disk room (outputFolder settings disk)
  rw [writeOutputs] at hfiles ⊢
  cases hfolders : disk.makeFolders room (outputFolder settings disk) with
  | mk made answer =>
    rw [hfolders] at hmade
    cases answer with
    | error fault =>
      rw [hfolders] at hfiles
      exact absurd rfl (hfiles fault.1 fault.2)
    | ok _ => exact ⟨made, hmade, rfl⟩

/-- Let the diagrams of a run be written in one of the formats of the command line, and let the
names of the flows that were drawn have no slashes and stand for different bytes. If no file
operation fails, these flows are delivered: each has one path, which is its output and leads to its
image, or else to its DOT file. There is a DOT file if this is the format, if it is to be kept, or
if the rendering has failed; in the last case there is one warning more. The results of all other
flows and all other files stay as they were. -/
theorem writeOutputs_delivers (settings : FlowSettings) (renderer : Renderer) (room : Nat)
    (disk : Disk) (summary : RunSummary) (hformat : settings.outputFormat ∈ outputFormats)
    (hslash : ∀ result ∈ summary.succeeded, CodePoint.char '/' ∉ result.flow)
    (hdistinct : (summary.succeeded.map fun result => Text.Raw.bytes result.flow).Nodup)
    (hfiles : ∀ path error,
      (writeOutputs settings renderer room disk summary).error ≠ some (.file path error)) :
    let outputs := writeOutputs settings renderer room disk summary
    let folder := outputFolder settings disk
    outputs.error = none ∧
      outputs.results = summary.results.map (FlowResult.afterWriting settings renderer folder) ∧
      outputs.paths = summary.succeeded.map (primaryPath settings renderer folder) ∧
      (∀ result ∈ summary.succeeded, Delivered settings renderer folder result outputs.disk ∧
        (∃ bytes, outputs.disk.find (primaryPath settings renderer folder result) =
          .ok (.file bytes)) ∧
        ((∃ node, outputs.disk.find (outputPath folder result dotFormat) = .ok node) ↔
          settings.outputFormat = dotFormat ∨ settings.keepDot = true ∨
            ∀ content, renderer settings.outputFormat (outputPath folder result dotFormat)
              (result.dot.getD []) ≠ .image content)) ∧
      ∀ place, (∀ result ∈ summary.succeeded, ∀ path ∈ filesOf settings folder result,
          outputs.disk.locate path ≠ .ok place) →
        ∀ bytes, outputs.disk.node? place = some (.file bytes) ↔
          disk.node? place = some (.file bytes) := by
  intro outputs folder
  have hdrawn : ∀ result ∈ summary.results, result.isSuccess = true →
      CodePoint.char '/' ∉ result.flow := fun result hresult hsuccess =>
    hslash result (List.mem_filter.mpr ⟨hresult, hsuccess⟩)
  have hapart : summary.succeeded.Pairwise (FilesApart settings folder) :=
    (List.pairwise_map.mp hdistinct).imp_of_mem fun ha hb hne =>
      filesApart_of_bytes hformat (hslash _ ha) (hslash _ hb) hne
  obtain ⟨made, hmade, houtputs⟩ := writeOutputs_eq_writeFlows hfiles
  have herror : outputs.error = none := by
    unfold outputs
    rw [houtputs] at hfiles ⊢
    obtain hnone | ⟨path, error, hsome⟩ :=
      @error_writeFlows settings renderer folder made summary.results hformat hdrawn
    · exact hnone
    · exact absurd hsome (hfiles path error)
  have hwritten : FlowsWritten settings renderer folder made summary.results outputs := by
    unfold outputs at herror ⊢
    rw [houtputs] at herror ⊢
    exact writeFlows_of_ok (isEnding_of_mem hformat) hdrawn hapart herror
  refine ⟨herror, hwritten.results_eq, hwritten.paths_eq, fun result hresult => ?_,
    fun place hplace bytes => ?_⟩
  · obtain ⟨hmem, hsuccess⟩ := List.mem_filter.mp hresult
    have hdelivered := hwritten.delivered result hmem hsuccess
    refine ⟨hdelivered, hdelivered.exists_primary, ?_⟩
    rw [hdelivered.exists_dot_iff, rendered?_eq_none_iff, or_assoc, @or_comm (∀ _, _)]
  · rw [hwritten.changes.node?_eq place ?_, hmade.file_iff]
    intro path hpath
    obtain ⟨result, hresult, hpath⟩ := List.mem_flatMap.mp hpath
    exact mt hwritten.changes.locate_eq_ok_iff.mpr (hplace result hresult path hpath)

/-! ## One image and one warning -/

/-- The summary of a run with these flows and their DOT texts. -/
def summaryOf (flows : List (Name × Text)) : RunSummary where
  results := flows.map fun (flow, dot) =>
    { flow, entry := flow, status := .completed, dot := some dot }

/-- A renderer that can render only one text. -/
def rendererOf (dot image : Text) : Renderer := fun _ _ text =>
  if text = dot then .image image else .unavailable

/-- A working folder with the DOT file of an earlier run. -/
def usedDisk : Disk where
  home := []
  nodes := [(["A_flow.dot"], .file [])]

/-- The old DOT file of the flow that was rendered is gone, the other flow has got one. -/
theorem writeOutputs_delivers_two :
    let summary := summaryOf [("A", "a"), ("B", "b")]
    let outputs := writeOutputs {} (rendererOf "a" "image") folderRoom usedDisk summary
    (∀ result ∈ summary.succeeded, CodePoint.char '/' ∉ result.flow) ∧
      (summary.succeeded.map fun result => Text.Raw.bytes result.flow).Nodup ∧
      (∀ path error, outputs.error ≠ some (.file path error)) ∧
      outputs.paths = [⟨.root, ["A_flow.svg"]⟩, ⟨.root, ["B_flow.dot"]⟩] ∧
      outputs.disk.find ⟨.root, ["A_flow.dot"]⟩ = .error .notFound ∧
      outputs.disk.Holds ⟨.root, ["B_flow.dot"]⟩ "b" := by
  intro summary outputs
  have hformat : ({} : FlowSettings).outputFormat ∈ outputFormats := by decide
  have hslash : ∀ result ∈ summary.succeeded, CodePoint.char '/' ∉ result.flow := by decide
  have hdistinct : (summary.succeeded.map fun result => Text.Raw.bytes result.flow).Nodup := by
    decide
  have hnone : outputs.error = none := by decide +kernel
  have hfiles : ∀ path error, outputs.error ≠ some (.file path error) := by simp [hnone]
  obtain ⟨-, -, hpaths, hdelivered, -⟩ :=
    writeOutputs_delivers {} (rendererOf "a" "image") folderRoom usedDisk summary hformat hslash
      hdistinct hfiles
  refine ⟨hslash, hdistinct, hfiles, hpaths.trans (by decide +kernel), ?_, ?_⟩
  · have hgone := (hdelivered _ (List.mem_cons_self)).1.gone (by decide) rfl
    exact hgone.find_eq
  · exact (hdelivered _ (List.mem_cons_of_mem _ List.mem_cons_self)).1.dot (Or.inl (by decide))

/-! ## One name in two spellings -/

/-- An accented letter, spelled by the surrogates that stand for its two bytes. -/
def respelled : Text := [.ofNat 0xDCC3, .ofNat 0xDCA9]

/-- The names are different and have no slashes and no NUL, but the DOT file of the first flow has
been overwritten with that of the second one. -/
theorem not_delivers_respelled :
    let summary := summaryOf [("é", "a"), (respelled, "b")]
    let outputs := writeOutputs { outputFormat := dotFormat } (rendererOf [] []) folderRoom
      ⟨[], []⟩ summary
    (summary.succeeded.map (·.flow)).Nodup ∧
      (∀ result ∈ summary.succeeded, result.dot.isSome = true ∧
        CodePoint.char '/' ∉ result.flow ∧ CodePoint.char '\x00' ∉ result.flow) ∧
      outputs.error = none ∧ outputs.paths.length = 2 ∧
      ¬ outputs.disk.Holds (outputPath ⟨.root, []⟩ { flow := "é", entry := "é" } dotFormat) "a" ∧
      outputs.disk.Holds (outputPath ⟨.root, []⟩ { flow := "é", entry := "é" } dotFormat) "b" := by
  intro summary outputs
  have hfind : outputs.disk.find
      (outputPath ⟨.root, []⟩ { flow := "é", entry := "é" } dotFormat) = .ok (.file [0x62]) := by
    decide +kernel
  have hbytes : Text.Utf8.encode "b" = .ok [0x62] :=
    Text.Utf8.encode_eq_ok_iff.mpr ⟨by decide, by decide⟩
  refine ⟨by decide, by decide, by decide +kernel, by decide +kernel, ?_, [0x62], hbytes, hfind⟩
  rintro ⟨bytes, hencoded, hfound⟩
  have hdifferent : Text.Raw.bytes "a" ≠ [0x62] := by decide
  obtain ⟨-, rfl⟩ := Text.Utf8.encode_eq_ok_iff.mp hencoded
  exact hdifferent (DiskNode.file.inj (Except.ok.inj (hfound.symm.trans hfind)))

end FlowDiagram
