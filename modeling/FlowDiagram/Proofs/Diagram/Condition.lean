import FlowDiagram.Diagram.Condition
import FlowDiagram.Proofs.Diagram.ObjectPaths

/-!
# Condition texts in normal form

A condition that is shown should be short, tidy and free of the configured beginnings of object
paths, so that showing it again changes nothing. Each step of formatting establishes one of these,
and each is done once: a beginning that is deleted between blanks leaves both of them, one that is
deleted within a word may join its sides to a new one, and a text that is cut behind the word of a
beginning gets its dot from the ellipsis. So a condition comes out in normal form if its paths stand
in place and it is not cut there.

## Main definitions

* `DrawingOptions.IsNormal`: a text is short, tidy and free of the configured paths.
* `oneLine`: a condition without superfluous blanks.
* `DrawingOptions.withoutPaths`: a text without the configured paths.
* `Text.Shrinks`: an edit that shortens each text that it changes.

`formatCondition_isNormal_iff` is the main result.
-/

namespace FlowDiagram

open Text (OnlySpaces IsTidy IsPathStart InPlace)

/-- The normal form of a condition: it is not too long, tidy, and without any of the configured
paths. -/
structure DrawingOptions.IsNormal (options : DrawingOptions) (text : Text) : Prop where
  fits : text.length ≤ options.conditionMaxLength
  tidy : IsTidy text
  free : ∀ path ∈ options.conditionPrefixes, ¬path <:+: text

/-- A condition on one line, without superfluous blanks. -/
def oneLine (condition : Text) : Text :=
  Text.trim (Text.collapse condition)

/-- A text from which the configured paths are deleted one after the other. -/
def DrawingOptions.withoutPaths (options : DrawingOptions) (text : Text) : Text :=
  options.conditionPrefixes.foldl (fun text path => Text.removeAll path text) text

theorem formatCondition_eq (options : DrawingOptions) (condition : Text) :
    formatCondition options condition =
      shortenTo options.conditionMaxLength (options.withoutPaths (oneLine condition)) := rfl

/-! ## Edits that shorten -/

namespace Text

/-- An edit shortens each text that it changes. -/
def Shrinks (edit : Text → Text) : Prop :=
  ∀ text, edit text = text ∨ (edit text).length < text.length

theorem shrinks_of_sublist {edit : Text → Text} (h : ∀ text, (edit text).Sublist text) :
    Shrinks edit := by
  intro text
  rcases Nat.eq_or_lt_of_le (h text).length_le with heq | hlt
  · exact .inl ((h text).eq_of_length heq)
  · exact .inr hlt

theorem Shrinks.length_le {edit : Text → Text} (h : Shrinks edit) (text : Text) :
    (edit text).length ≤ text.length := by
  rcases h text with heq | hlt
  · rw [heq]
  · exact hlt.le

/-- Two edits keep a text together only if each keeps it: what the first one took, the second one
does not give back. -/
theorem Shrinks.edits_eq_self_iff {first second : Text → Text} (hsecond : Shrinks second)
    {text : Text} (hfirst : (first text).length ≤ text.length) :
    second (first text) = text ↔ first text = text ∧ second text = text := by
  constructor
  · intro h
    rcases hsecond (first text) with heq | hlt
    · have hkept : first text = text := heq.symm.trans h
      rw [hkept] at h
      exact ⟨hkept, h⟩
    · rw [h] at hlt
      exact absurd hfirst (Nat.not_le.mpr hlt)
  · rintro ⟨hkept, h⟩
    rw [hkept, h]

theorem Shrinks.comp {first second : Text → Text} (hsecond : Shrinks second)
    (hfirst : Shrinks first) : Shrinks fun text => second (first text) := by
  intro text
  rcases hfirst text with heq | hlt
  · simp only [heq]
    exact hsecond text
  · exact .inr ((hsecond.length_le _).trans_lt hlt)

theorem foldl_removeAll_sublist (tokens : List Text) (text : Text) :
    (tokens.foldl (fun text token => removeAll token text) text).Sublist text := by
  induction tokens generalizing text with
  | nil => exact .refl text
  | cons token tokens ih => exact (ih _).trans (removeAll_sublist token text)

theorem foldl_removeAll_eq_self_iff {tokens : List Text} (hne : ∀ token ∈ tokens, token ≠ [])
    {text : Text} :
    tokens.foldl (fun text token => removeAll token text) text = text ↔
      ∀ token ∈ tokens, ¬token <:+: text := by
  induction tokens with
  | nil => simp
  | cons token tokens ih =>
    obtain ⟨htoken, hne⟩ := List.forall_mem_cons.mp hne
    have hrest := shrinks_of_sublist (foldl_removeAll_sublist tokens)
    rw [List.foldl_cons, hrest.edits_eq_self_iff (removeAll_sublist token text).length_le,
      removeAll_eq_self_iff htoken, ih hne, List.forall_mem_cons]

end Text

/-! ## Shortening -/

section Shortening

variable {limit : Int} {text : Text}

theorem shortenTo_of_le (h : text.length ≤ limit) : shortenTo limit text = text :=
  if_neg (Int.not_lt.mpr h)

theorem shortenTo_of_lt (hlimit : 3 ≤ limit) (h : limit < text.length) :
    shortenTo limit text = text.take (limit - 3).toNat ++ ellipsis := by
  rw [shortenTo, if_pos h, Text.cut_of_nonneg (by omega)]

theorem length_shortenTo_of_lt (hlimit : 3 ≤ limit) (h : limit < text.length) :
    ((shortenTo limit text).length : Int) = limit := by
  have hellipsis : ellipsis.length = 3 := rfl
  rw [shortenTo_of_lt hlimit h, List.length_append, List.length_take, hellipsis]
  omega

theorem length_shortenTo_le (hlimit : 3 ≤ limit) (text : Text) :
    ((shortenTo limit text).length : Int) ≤ limit := by
  by_cases h : limit < text.length
  · exact Int.le_of_eq (length_shortenTo_of_lt hlimit h)
  · rw [shortenTo_of_le (by omega)]
    omega

theorem shrinks_shortenTo (hlimit : 3 ≤ limit) : Text.Shrinks (shortenTo limit) := by
  intro text
  by_cases h : limit < text.length
  · have := length_shortenTo_of_lt hlimit h
    exact .inr (by omega)
  · exact .inl (shortenTo_of_le (by omega))

theorem shortenTo_eq_self_iff (hlimit : 3 ≤ limit) :
    shortenTo limit text = text ↔ text.length ≤ limit := by
  refine ⟨fun h => ?_, shortenTo_of_le⟩
  have := length_shortenTo_le hlimit text
  rwa [h] at this

end Shortening

/-! ## Shortened texts -/

section Ellipsis

theorem eq_dot_of_mem_ellipsis {c : CodePoint} (h : c ∈ ellipsis) : c = .char '.' :=
  have hall : ∀ c ∈ ellipsis, c = .char '.' := by decide
  hall c h

theorem isBlank_of_mem_ellipsis {c : CodePoint} (h : c ∈ ellipsis) : Text.isBlank c = false := by
  rw [eq_dot_of_mem_ellipsis h]
  decide

/-- A cut does not make a text untidy: the ellipsis stands behind a blank at its end. -/
theorem isTidy_take_append_ellipsis {text : Text} (h : IsTidy text) (n : Nat) :
    IsTidy (text.take n ++ ellipsis) where
  starts := by
    cases n with
    | zero => rfl
    | succ n =>
      cases text with
      | nil => rfl
      | cons c rest => exact h.starts
  ends := by
    rw [List.getLast?_append]
    rfl
  single := by
    have hkept := List.IsChain.infix h.single (List.take_prefix n text).isInfix
    refine List.isChain_append.mpr ⟨hkept, by decide, fun _ _ c hc _ => ?_⟩
    exact isBlank_of_mem_ellipsis (List.mem_of_mem_head? hc)

/-- A path stands before the end of a shortened text if it is part of what is kept, or if its word
ends what is kept: the ellipsis gives the dot. -/
theorem path_infix_append_ellipsis_iff {path : Text} (hpath : IsPathStart path) (kept : Text) :
    path <:+: kept ++ ellipsis ↔ path <:+: kept ∨ path.dropLast <:+ kept := by
  obtain ⟨word, hne, hletters, rfl⟩ := hpath
  rw [List.dropLast_concat]
  -- a letter of the word is no dot, so that no part of the word lies in the ellipsis
  have hdots : ∀ part : Text, part ⊆ word → part ⊆ ellipsis → part = [] := by
    intro part hword hellipsis
    refine List.eq_nil_iff_forall_not_mem.mpr fun c hc => ?_
    have hletter := hletters c (hword hc)
    rw [eq_dot_of_mem_ellipsis (hellipsis hc), Text.isLetter_dot] at hletter
    exact absurd hletter (by decide)
  constructor
  · intro hwithin
    rcases List.infix_append_iff.mp hwithin with
      hkept | hellipsis | ⟨front, back, heq, hfront, hback⟩
    · exact .inl hkept
    · have hword := (List.prefix_append word _).isInfix.trans hellipsis
      exact absurd (hdots word (List.Subset.refl _) hword.subset) hne
    · rcases List.eq_nil_or_concat back with rfl | ⟨part, c, rfl⟩
      · rw [List.append_nil] at heq
        exact .inl (heq ▸ hfront.isInfix)
      · right
        rw [List.concat_eq_append, ← List.append_assoc] at heq
        obtain ⟨hword, -⟩ := List.append_inj' heq rfl
        have hpart : part = [] := by
          refine hdots part (hword ▸ List.subset_append_right front part) ?_
          exact fun d hd => hback.subset (by simp [hd])
        rw [hword, hpart, List.append_nil]
        exact hfront
  · rintro (hkept | ⟨before, rfl⟩)
    · exact hkept.trans (List.prefix_append _ _).isInfix
    · refine ⟨before, [.char '.', .char '.'], ?_⟩
      rw [← List.append_assoc before, List.append_assoc (before ++ word)]
      rfl

end Ellipsis

/-! ## Formatting twice -/

section Twice

variable (options : DrawingOptions) (hlimit : 3 ≤ options.conditionMaxLength)

include hlimit

theorem onlySpaces_formatCondition (condition : Text) :
    OnlySpaces (formatCondition options condition) := by
  have hbare : OnlySpaces (options.withoutPaths (oneLine condition)) :=
    (Text.onlySpaces_collapse condition).sublist
      ((Text.foldl_removeAll_sublist _ _).trans (Text.trim_isInfix _).sublist)
  rw [formatCondition_eq]
  by_cases hlong : options.conditionMaxLength < (options.withoutPaths (oneLine condition)).length
  · rw [shortenTo_of_lt hlimit hlong]
    intro c hc hblank
    rcases List.mem_append.mp hc with hkept | hellipsis
    · exact hbare c (List.mem_of_mem_take hkept) hblank
    · rw [isBlank_of_mem_ellipsis hellipsis] at hblank
      exact absurd hblank (by decide)
  · rw [shortenTo_of_le (Int.not_lt.mp hlong)]
    exact hbare

/-- Formatting keeps exactly the texts in normal form whose blanks are spaces. -/
theorem formatCondition_eq_self_iff (hne : ∀ path ∈ options.conditionPrefixes, path ≠ [])
    {text : Text} :
    formatCondition options text = text ↔ OnlySpaces text ∧ options.IsNormal text := by
  have hshorten := shrinks_shortenTo hlimit
  have hremove : Text.Shrinks options.withoutPaths :=
    Text.shrinks_of_sublist (Text.foldl_removeAll_sublist _)
  have htrim : Text.Shrinks Text.trim :=
    Text.shrinks_of_sublist fun text => (Text.trim_isInfix text).sublist
  rw [formatCondition_eq, oneLine,
    ((hshorten.comp hremove).comp htrim).edits_eq_self_iff (Text.length_collapse_le text),
    (hshorten.comp hremove).edits_eq_self_iff (htrim.length_le text),
    hshorten.edits_eq_self_iff (hremove.length_le text), shortenTo_eq_self_iff hlimit,
    Text.collapse_eq_self_iff, Text.trim_eq_self_iff, DrawingOptions.withoutPaths,
    Text.foldl_removeAll_eq_self_iff hne]
  constructor
  · rintro ⟨⟨hspaces, hsingle⟩, ⟨hstarts, hends⟩, hfree, hfits⟩
    exact ⟨hspaces, hfits, ⟨hstarts, hends, hsingle⟩, hfree⟩
  · rintro ⟨hspaces, hfits, htidy, hfree⟩
    exact ⟨⟨hspaces, htidy.single⟩, ⟨htidy.starts, htidy.ends⟩, hfree, hfits⟩

end Twice

/-! ## Conditions that come out in normal form -/

section Normal

variable (options : DrawingOptions) (hlimit : 3 ≤ options.conditionMaxLength)
  (hpaths : ∀ path ∈ options.conditionPrefixes, IsPathStart path)

include hlimit hpaths

/-- What it takes for a text to be in normal form once it is shortened. -/
theorem isNormal_shortenTo_iff (bare : Text) :
    let kept := bare.take (options.conditionMaxLength - 3).toNat
    options.IsNormal (shortenTo options.conditionMaxLength bare) ↔
      if bare.length ≤ options.conditionMaxLength then
        IsTidy bare ∧ ∀ path ∈ options.conditionPrefixes, ¬path <:+: bare
      else
        IsTidy (kept ++ ellipsis) ∧
          ∀ path ∈ options.conditionPrefixes, ¬path <:+: kept ∧ ¬path.dropLast <:+ kept := by
  intro kept
  have hfits := length_shortenTo_le hlimit bare
  have hiff : options.IsNormal (shortenTo options.conditionMaxLength bare) ↔
      IsTidy (shortenTo options.conditionMaxLength bare) ∧
        ∀ path ∈ options.conditionPrefixes,
          ¬path <:+: shortenTo options.conditionMaxLength bare :=
    ⟨fun h => ⟨h.tidy, h.free⟩, fun h => ⟨hfits, h.1, h.2⟩⟩
  rw [hiff]
  split
  · rename_i hshort
    rw [shortenTo_of_le hshort]
  · rename_i hlong
    rw [shortenTo_of_lt hlimit (Int.not_le.mp hlong)]
    refine and_congr_right' (forall₂_congr fun path hpath => ?_)
    rw [path_infix_append_ellipsis_iff (hpaths path hpath), not_or]

/-- A tidy text without paths is in normal form once it is shortened, unless the word of a path ends
what is kept of it. -/
theorem isNormal_shortenTo_iff_of_isTidy {bare : Text} (htidy : IsTidy bare)
    (hfree : ∀ path ∈ options.conditionPrefixes, ¬path <:+: bare) :
    options.IsNormal (shortenTo options.conditionMaxLength bare) ↔
      (options.conditionMaxLength < bare.length → ∀ path ∈ options.conditionPrefixes,
        ¬path.dropLast <:+ bare.take (options.conditionMaxLength - 3).toNat) := by
  refine (isNormal_shortenTo_iff options hlimit hpaths bare).trans ?_
  split
  · rename_i hshort
    exact iff_of_true ⟨htidy, hfree⟩ fun hlong => absurd hshort (Int.not_le.mpr hlong)
  · rename_i hlong
    constructor
    · exact fun h _ path hpath => (h.2 path hpath).2
    · intro h
      refine ⟨isTidy_take_append_ellipsis htidy _, fun path hpath => ⟨fun hkept => ?_, ?_⟩⟩
      · exact hfree path hpath (hkept.trans (List.take_prefix _ _).isInfix)
      · exact h (Int.not_le.mp hlong) path hpath

end Normal

/-- A condition that is shown is never too long, and showing it again changes nothing exactly if it
is in normal form. A condition that fits is in normal form exactly if deleting its paths leaves it
tidy and without paths. One that is cut has to be so up to the cut, and its kept part must not end
with the word of a path, either. If the paths of a condition stand in place, the last is all it
takes. -/
theorem formatCondition_isNormal_iff (options : DrawingOptions) (condition : Text)
    (hlimit : 3 ≤ options.conditionMaxLength)
    (hpaths : ∀ path ∈ options.conditionPrefixes, IsPathStart path) :
    let shown := formatCondition options condition
    let bare := options.withoutPaths (oneLine condition)
    let kept := bare.take (options.conditionMaxLength - 3).toNat
    shown.length ≤ options.conditionMaxLength ∧
      (formatCondition options shown = shown ↔ options.IsNormal shown) ∧
      (options.IsNormal shown ↔
        if bare.length ≤ options.conditionMaxLength then
          IsTidy bare ∧ ∀ path ∈ options.conditionPrefixes, ¬path <:+: bare
        else
          IsTidy (kept ++ ellipsis) ∧
            ∀ path ∈ options.conditionPrefixes, ¬path <:+: kept ∧ ¬path.dropLast <:+ kept) ∧
      (InPlace options.conditionPrefixes (oneLine condition) →
        (options.IsNormal shown ↔
          (options.conditionMaxLength < bare.length →
            ∀ path ∈ options.conditionPrefixes, ¬path.dropLast <:+ kept))) := by
  intro shown bare kept
  have hne : ∀ path ∈ options.conditionPrefixes, path ≠ [] :=
    fun path hpath => (hpaths path hpath).ne_nil
  refine ⟨length_shortenTo_le hlimit bare, ?_, isNormal_shortenTo_iff options hlimit hpaths bare,
    fun hplace => ?_⟩
  · rw [formatCondition_eq_self_iff options hlimit hne]
    exact and_iff_right (onlySpaces_formatCondition options hlimit condition)
  · obtain ⟨htidy, hfree⟩ : IsTidy bare ∧ ∀ path ∈ options.conditionPrefixes, ¬path <:+: bare :=
      Text.isTidy_foldl_removeAll hpaths hplace (Text.isTidy_trim_collapse condition)
    exact isNormal_shortenTo_iff_of_isTidy options hlimit hpaths htidy hfree

/-- The paths that are deleted unless others are configured. -/
theorem isPathStart_standard :
    ∀ path ∈ DrawingOptions.standard.conditionPrefixes, IsPathStart path := by
  intro path hpath
  rcases List.mem_pair.mp hpath with rfl | rfl
  · exact ⟨"behandling", by decide, by decide +kernel, rfl⟩
  · exact ⟨"krav", by decide, by decide +kernel, rfl⟩

/-- Two paths that begin the names of two objects, on two lines. -/
theorem formatCondition_isNormal_iff_twoObjects :
    let shown := formatCondition .standard "behandling.erKlar() &&\n    krav.harVedlegg()"
    shown = "erKlar() && harVedlegg()" ∧ DrawingOptions.standard.IsNormal shown ∧
      formatCondition .standard shown = shown := by
  intro shown
  have hne : ∀ path ∈ DrawingOptions.standard.conditionPrefixes, path ≠ [] := by decide
  obtain ⟨-, hagain, -, hplace⟩ := formatCondition_isNormal_iff .standard
    "behandling.erKlar() &&\n    krav.harVedlegg()" (by decide) isPathStart_standard
  have hnormal : DrawingOptions.standard.IsNormal shown :=
    (hplace ((Text.inPlace_iff hne).mpr (by decide +kernel))).mpr
      fun hlong => absurd hlong (by decide)
  exact ⟨by decide, hnormal, hagain.mpr hnormal⟩

/-- Conditions do not have to come out in normal form: a path between blanks leaves two of them side
by side, so that showing the condition again changes it; a path within a path leaves a path; and so
does a cut behind the word of one. -/
theorem not_isNormal_formatCondition :
    let cut : DrawingOptions := { conditionMaxLength := 9 }
    (¬DrawingOptions.standard.IsNormal (formatCondition .standard "a krav. b") ∧
        formatCondition .standard (formatCondition .standard "a krav. b") ≠
          formatCondition .standard "a krav. b") ∧
      ¬DrawingOptions.standard.IsNormal (formatCondition .standard "krakrav.v.x") ∧
      ¬cut.IsNormal (formatCondition cut "a krav + b") := by
  intro cut
  refine ⟨⟨fun hnormal => ?_, by decide⟩, fun hnormal => ?_, fun hnormal => ?_⟩
  · exact absurd hnormal.tidy.single (by decide)
  · exact hnormal.free "krav." (by decide) (Text.occurs_iff_isInfix.mp (by decide))
  · exact hnormal.free "krav." (by decide) (Text.occurs_iff_isInfix.mp (by decide))

end FlowDiagram
