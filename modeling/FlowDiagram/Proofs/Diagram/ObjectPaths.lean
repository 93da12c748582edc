import FlowDiagram.Text.Letter
import FlowDiagram.Proofs.Text.Removal
import FlowDiagram.Proofs.Text.Tidy

/-!
# Object paths in texts

The configured beginnings of object paths are words of letters with a dot behind them. Where they
stand in a text as they do in an object path, behind no letter and before what is no blank, they can
be deleted one after the other: no deletion joins what stands around it to a new beginning, and none
leaves a blank that parts nothing.

## Main definitions

* `IsPathStart`: a word of letters and a dot.
* `InPlace`: paths stand behind no letter and before a character that is no blank.
* `InPlaceFrom`: the same, read from left to right.

`isTidy_foldl_removeAll` is the main result.
-/

namespace FlowDiagram.Text

/-- A beginning of object paths: a word of letters and a dot. -/
def IsPathStart (path : Text) : Prop :=
  ∃ word : Text, word ≠ [] ∧ (∀ c ∈ word, isLetter c = true) ∧ path = word ++ ([.char '.'] : Text)

/-- Paths stand where they begin something: behind no letter, and before a character that is no
blank. -/
def InPlace (paths : List Text) (text : Text) : Prop :=
  ∀ path ∈ paths, ∀ before behind, text = before ++ path ++ behind →
    before.getLast?.any isLetter = false ∧ startsSolid behind = true

/-- Paths stand in place, read from left to right; `afterLetter` says whether the character before
the text is a letter. -/
def InPlaceFrom (paths : List Text) : Bool → Text → Prop
  | _, [] => True
  | afterLetter, c :: rest =>
    (∀ path ∈ paths, path <+: c :: rest →
        afterLetter = false ∧ startsSolid ((c :: rest).drop path.length) = true) ∧
      InPlaceFrom paths (isLetter c) rest

instance decidableInPlaceFrom (paths : List Text) :
    ∀ afterLetter text, Decidable (InPlaceFrom paths afterLetter text)
  | _, [] => inferInstanceAs (Decidable True)
  | _, c :: rest =>
    have := decidableInPlaceFrom paths (isLetter c) rest
    inferInstanceAs (Decidable (_ ∧ _))

/-! ## Beginnings of paths -/

theorem isLetter_dot : isLetter (.char '.') = false := by decide +kernel

theorem IsPathStart.ne_nil {path : Text} (h : IsPathStart path) : path ≠ [] := by
  obtain ⟨word, -, -, rfl⟩ := h
  simp

/-! ## Places -/

section Places

variable {paths : List Text} {afterLetter : Bool} {path text before behind : Text}

theorem InPlaceFrom.of_append_cons {c : CodePoint}
    (h : InPlaceFrom paths afterLetter (before ++ c :: text)) :
    InPlaceFrom paths (isLetter c) text := by
  induction before generalizing afterLetter with
  | nil => exact h.2
  | cons _ before ih => exact ih h.2

/-- What is around a path that stands in place. -/
theorem InPlaceFrom.of_append_path (hmem : path ∈ paths) (hpath : IsPathStart path)
    (h : InPlaceFrom paths afterLetter (path ++ text)) :
    afterLetter = false ∧ startsSolid text = true ∧ InPlaceFrom paths false text := by
  obtain ⟨word, hne, -, rfl⟩ := hpath
  obtain ⟨c, word, rfl⟩ := List.exists_cons_of_ne_nil hne
  obtain ⟨hbehind, hstart⟩ := h.1 _ hmem (List.prefix_append _ text)
  refine ⟨hbehind, by simpa using hstart, ?_⟩
  rw [List.append_assoc, List.singleton_append] at h
  rw [← isLetter_dot]
  exact h.of_append_cons

/-- Reading on behind a part that is read finds what stands in place. -/
theorem inPlaceFrom_iff (hpaths : ∀ path ∈ paths, path ≠ []) (read text : Text) :
    InPlaceFrom paths (read.getLast?.any isLetter) text ↔
      ∀ path ∈ paths, ∀ before behind, text = before ++ path ++ behind →
        (read ++ before).getLast?.any isLetter = false ∧ startsSolid behind = true := by
  induction text generalizing read with
  | nil =>
    refine iff_of_true trivial fun path hpath before behind heq => ?_
    exact absurd heq.symm (by simp [hpaths path hpath])
  | cons c rest ih =>
    have hread : isLetter c = (read ++ [c]).getLast?.any isLetter := by simp
    rw [InPlaceFrom, hread, ih (read ++ [c])]
    constructor
    · rintro ⟨hhere, hrest⟩ path hpath before behind heq
      cases before with
      | nil =>
        rw [heq, List.nil_append] at hhere
        simpa using hhere path hpath (List.prefix_append path behind)
      | cons d before =>
        obtain ⟨rfl, htail⟩ := List.cons_eq_cons.mp heq
        simpa using hrest path hpath before behind htail
    · intro hall
      refine ⟨fun path hpath hopens => ?_, fun path hpath before behind heq => ?_⟩
      · obtain ⟨behind, heq⟩ := hopens
        rw [← heq, List.drop_left]
        simpa using hall path hpath [] behind heq.symm
      · simpa using hall path hpath (c :: before) behind (by simp [heq])

/-- Reading from left to right finds what stands in place. -/
theorem inPlace_iff (hpaths : ∀ path ∈ paths, path ≠ []) :
    InPlace paths text ↔ InPlaceFrom paths false text :=
  (inPlaceFrom_iff hpaths [] text).symm

end Places

/-! ## Deleting a path that is in place -/

section Deleting

variable {paths : List Text} {token path text left : Text} {afterLetter : Bool}
  (hpaths : ∀ path ∈ paths, IsPathStart path) (htoken : token ∈ paths)

include hpaths htoken

/-- Behind a deleted path stands what starts something. -/
theorem Removed.startsSolid_left (h : Removed token text left)
    (hplace : InPlaceFrom paths afterLetter text) (hstart : startsSolid text = true) :
    startsSolid left = true := by
  induction h generalizing afterLetter with
  | nil => exact hstart
  | delete _ ih =>
    obtain ⟨-, hnext, hrest⟩ := hplace.of_append_path htoken (hpaths token htoken)
    exact ih hrest hnext
  | keep _ _ _ => exact hstart

/-- Behind a letter nothing is deleted. -/
theorem Removed.of_afterLetter {c : CodePoint} (h : Removed token text (c :: left))
    (hplace : InPlaceFrom paths true text) :
    ∃ rest, text = c :: rest ∧ Removed token rest left := by
  cases h with
  | delete _ =>
    exact absurd (hplace.of_append_path htoken (hpaths token htoken)).1 (by decide)
  | keep _ h => exact ⟨_, rfl, h⟩

/-- The rest of a path behind one of its letters was there before the deletion. -/
theorem Removed.prefix_of_word {word : Text} (hword : ∀ c ∈ word, isLetter c = true)
    (h : Removed token text left) (hplace : InPlaceFrom paths true text)
    (hopens : word ++ ([.char '.'] : Text) <+: left) :
    word ++ ([.char '.'] : Text) <+: text ∧
      (startsSolid (text.drop (word.length + 1)) = true →
        startsSolid (left.drop (word.length + 1)) = true) := by
  induction word generalizing text left with
  | nil =>
    obtain ⟨behind, rfl⟩ := hopens
    obtain ⟨rest, rfl, hrest⟩ := h.of_afterLetter hpaths htoken hplace
    exact ⟨List.cons_prefix_cons.mpr ⟨rfl, List.nil_prefix⟩,
      hrest.startsSolid_left hpaths htoken hplace.2⟩
  | cons c word ih =>
    obtain ⟨behind, rfl⟩ := hopens
    obtain ⟨rest, rfl, hrest⟩ := h.of_afterLetter hpaths htoken hplace
    have hplace := hplace.2
    rw [hword c List.mem_cons_self] at hplace
    obtain ⟨hbefore, hnext⟩ := ih (fun d hd => hword d (List.mem_cons_of_mem c hd)) hrest hplace
      (List.prefix_append _ _)
    exact ⟨List.cons_prefix_cons.mpr ⟨rfl, hbefore⟩, hnext⟩

/-- A path that starts with a character that stays was there before the deletion. -/
theorem Removed.prefix_of_path {c : CodePoint} (hpath : path ∈ paths) (h : Removed token text left)
    (hplace : InPlaceFrom paths afterLetter (c :: text)) (hopens : path <+: c :: left) :
    path <+: c :: text ∧
      (startsSolid ((c :: text).drop path.length) = true →
        startsSolid ((c :: left).drop path.length) = true) := by
  obtain ⟨word, hne, hletters, rfl⟩ := hpaths path hpath
  obtain ⟨d, word, rfl⟩ := List.exists_cons_of_ne_nil hne
  obtain ⟨rfl, htail⟩ := List.cons_prefix_cons.mp hopens
  have hplace := hplace.2
  rw [hletters d List.mem_cons_self] at hplace
  obtain ⟨hbefore, hnext⟩ := h.prefix_of_word hpaths htoken
    (fun c hc => hletters c (List.mem_cons_of_mem d hc)) hplace htail
  refine ⟨List.cons_prefix_cons.mpr ⟨rfl, hbefore⟩, ?_⟩
  simpa using hnext

/-- Deleting a path leaves the others in place. -/
theorem Removed.inPlaceFrom (h : Removed token text left)
    (hplace : InPlaceFrom paths afterLetter text) : InPlaceFrom paths afterLetter left := by
  induction h generalizing afterLetter with
  | nil => trivial
  | delete _ ih =>
    obtain ⟨rfl, -, hrest⟩ := hplace.of_append_path htoken (hpaths token htoken)
    exact ih hrest
  | keep _ h ih =>
    refine ⟨fun path hpath hopens => ?_, ih hplace.2⟩
    obtain ⟨hbefore, hnext⟩ := h.prefix_of_path hpaths htoken hpath hplace hopens
    obtain ⟨hbehind, hstart⟩ := hplace.1 path hpath hbefore
    exact ⟨hbehind, hnext hstart⟩

/-- Deleting a path makes no new one, and leaves none of its own occurrences. -/
theorem Removed.was_within (hpath : path ∈ paths) (h : Removed token text left)
    (hplace : InPlaceFrom paths afterLetter text) (hwithin : path <:+: left) :
    path <:+: text ∧ path ≠ token := by
  induction h generalizing afterLetter with
  | nil => exact absurd (List.infix_nil.mp hwithin) (hpaths path hpath).ne_nil
  | delete _ ih =>
    have hrest := (hplace.of_append_path htoken (hpaths token htoken)).2.2
    obtain ⟨hbefore, hne⟩ := ih hrest hwithin
    exact ⟨hbefore.trans (List.suffix_append _ _).isInfix, hne⟩
  | keep hnot h ih =>
    rcases List.infix_cons_iff.mp hwithin with hopens | hwithin
    · have hbefore := (h.prefix_of_path hpaths htoken hpath hplace hopens).1
      exact ⟨hbefore.isInfix, fun heq => hnot (heq ▸ hbefore)⟩
    · obtain ⟨hbefore, hne⟩ := ih hplace.2 hwithin
      exact ⟨List.infix_cons hbefore, hne⟩

/-- Deleting a path leaves every blank before a character that is none. -/
theorem Removed.spaced (h : Removed token text left) (hplace : InPlaceFrom paths afterLetter text)
    (hspaced : Spaced text) : Spaced left := by
  induction h generalizing afterLetter with
  | nil => trivial
  | delete _ ih =>
    exact ih (hplace.of_append_path htoken (hpaths token htoken)).2.2 hspaced.of_append
  | keep _ h ih =>
    exact ⟨fun hblank => h.startsSolid_left hpaths htoken hplace.2 (hspaced.1 hblank),
      ih hplace.2 hspaced.2⟩

theorem Removed.isTidy (h : Removed token text left) (hplace : InPlaceFrom paths afterLetter text)
    (htidy : IsTidy text) : IsTidy left := by
  obtain ⟨hstarts, hspaced⟩ := isTidy_iff.mp htidy
  refine isTidy_iff.mpr ⟨?_, h.spaced hpaths htoken hplace hspaced⟩
  rcases hstarts with rfl | hstart
  · exact .inl (List.sublist_nil.mp h.sublist)
  · exact .inr (h.startsSolid_left hpaths htoken hplace hstart)

end Deleting

/-- Deleting paths in place one after the other leaves a tidy text tidy and without them. -/
theorem isTidy_foldl_removeAll {paths : List Text} (hpaths : ∀ path ∈ paths, IsPathStart path)
    {text : Text} (hplace : InPlace paths text) (htidy : IsTidy text) :
    IsTidy (paths.foldl (fun text path => removeAll path text) text) ∧
      ∀ path ∈ paths, ¬path <:+: paths.foldl (fun text path => removeAll path text) text := by
  suffices hsome : ∀ (tokens : List Text) (text : Text), tokens ⊆ paths →
      InPlaceFrom paths false text → IsTidy text →
      IsTidy (tokens.foldl (fun text path => removeAll path text) text) ∧
        ∀ path ∈ paths, path <:+: tokens.foldl (fun text path => removeAll path text) text →
          path <:+: text ∧ path ∉ tokens by
    have hne : ∀ path ∈ paths, path ≠ [] := fun path hpath => (hpaths path hpath).ne_nil
    obtain ⟨htidy, hfree⟩ :=
      hsome paths text (List.Subset.refl _) ((inPlace_iff hne).mp hplace) htidy
    exact ⟨htidy, fun path hpath hwithin => (hfree path hpath hwithin).2 hpath⟩
  intro tokens
  induction tokens with
  | nil => exact fun text _ _ htidy => ⟨htidy, fun path _ hwithin => ⟨hwithin, List.not_mem_nil⟩⟩
  | cons token tokens ih =>
    intro text hsubset hplace htidy
    obtain ⟨htoken, hsubset⟩ := List.cons_subset.mp hsubset
    have hremoved := removed_removeAll (hpaths token htoken).ne_nil text
    obtain ⟨hleft, hfree⟩ := ih (removeAll token text) hsubset
      (hremoved.inPlaceFrom hpaths htoken hplace) (hremoved.isTidy hpaths htoken hplace htidy)
    refine ⟨hleft, fun path hpath hwithin => ?_⟩
    obtain ⟨hwithin, hnot⟩ := hfree path hpath hwithin
    obtain ⟨hbefore, hne⟩ := hremoved.was_within hpaths htoken hpath hplace hwithin
    exact ⟨hbefore, List.not_mem_cons_of_ne_of_not_mem hne hnot⟩

end FlowDiagram.Text
