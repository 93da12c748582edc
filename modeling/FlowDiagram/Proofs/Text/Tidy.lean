import FlowDiagram.Text.Edit
import Mathlib.Data.List.Chain
import Mathlib.Data.List.DropRight

/-!
# Tidy texts

A text is tidy if blanks only part its words: none stands at an end, and no two stand side by side.
Collapsing and trimming make every text tidy, and keep a tidy text whose blanks are spaces.

## Main definitions

* `IsTidy`: no blank stands at an end, and no two stand side by side.
* `OnlySpaces`: every blank is a space.
* `Spaced`: every blank stands before a character that is none.

`isTidy_trim_collapse` is the main result.
-/

namespace FlowDiagram.Text

/-- Blanks that only part words. -/
structure IsTidy (text : Text) : Prop where
  starts : text.head?.any isBlank = false
  ends : text.getLast?.any isBlank = false
  single : text.IsChain fun a b => isBlank a = true → isBlank b = false

/-- Every blank is a space. -/
def OnlySpaces (text : Text) : Prop :=
  ∀ c ∈ text, isBlank c = true → c = .char ' '

theorem OnlySpaces.sublist {text part : Text} (h : OnlySpaces text) (hpart : part.Sublist text) :
    OnlySpaces part :=
  fun c hc => h c (hpart.subset hc)

/-! ## Blanks that part words -/

/-- Whether a text starts with a character that is no blank. -/
def startsSolid (text : Text) : Bool :=
  text.head?.any fun c => !isBlank c

@[simp] theorem startsSolid_nil : startsSolid [] = false := rfl

@[simp] theorem startsSolid_cons (c : CodePoint) (text : Text) :
    startsSolid (c :: text) = !isBlank c := rfl

/-- Every blank stands before a character that is none. -/
def Spaced : Text → Prop
  | [] => True
  | c :: rest => (isBlank c = true → startsSolid rest = true) ∧ Spaced rest

theorem Spaced.of_append {before text : Text} (h : Spaced (before ++ text)) : Spaced text := by
  induction before with
  | nil => exact h
  | cons c before ih => exact ih h.2

theorem spaced_iff {text : Text} :
    Spaced text ↔ text.getLast?.any isBlank = false ∧
      text.IsChain fun a b => isBlank a = true → isBlank b = false := by
  induction text with
  | nil => simp [Spaced]
  | cons c rest ih =>
    rw [Spaced, ih, List.isChain_cons]
    cases rest with
    | nil => simp
    | cons d rest =>
      rw [List.getLast?_cons_cons]
      simp only [startsSolid_cons, Bool.not_eq_true', List.head?_cons, Option.mem_some_iff,
        forall_eq']
      exact and_left_comm

/-- A tidy text is empty or starts with a character that is no blank, and its blanks are spaced. -/
theorem isTidy_iff {text : Text} :
    IsTidy text ↔ (text = [] ∨ startsSolid text = true) ∧ Spaced text := by
  have hstarts : text.head?.any isBlank = false ↔ text = [] ∨ startsSolid text = true := by
    cases text <;> simp
  rw [spaced_iff, ← hstarts]
  exact ⟨fun h => ⟨h.starts, h.ends, h.single⟩, fun h => ⟨h.1, h.2.1, h.2.2⟩⟩

/-! ## Collapsing -/

theorem length_collapseFrom_le (inRun : Bool) (text : Text) :
    (collapseFrom inRun text).length ≤ text.length := by
  fun_induction collapseFrom inRun text <;> grind

theorem length_collapse_le (text : Text) : (collapse text).length ≤ text.length :=
  length_collapseFrom_le false text

theorem onlySpaces_collapseFrom (inRun : Bool) (text : Text) :
    OnlySpaces (collapseFrom inRun text) := by
  fun_induction collapseFrom inRun text <;> grind [OnlySpaces]

theorem onlySpaces_collapse (text : Text) : OnlySpaces (collapse text) :=
  onlySpaces_collapseFrom false text

/-- What is collapsed has no two blanks side by side, and none behind the one before it. -/
theorem single_collapseFrom (inRun : Bool) (text : Text) :
    (collapseFrom inRun text).IsChain (fun a b => isBlank a = true → isBlank b = false) ∧
      (inRun = true → (collapseFrom inRun text).head?.any isBlank = false) := by
  induction text generalizing inRun with
  | nil => simp [collapseFrom]
  | cons c rest ih =>
    rw [collapseFrom]
    split_ifs with hblank hrun
    · exact ⟨(ih true).1, fun _ => (ih true).2 rfl⟩
    · refine ⟨List.isChain_cons.mpr ⟨fun d hd _ => ?_, (ih true).1⟩, fun h => absurd h hrun⟩
      have hhead := (ih true).2 rfl
      rw [Option.mem_def.mp hd] at hhead
      exact hhead
    · exact ⟨List.isChain_cons.mpr ⟨fun d _ h => absurd h hblank, (ih false).1⟩,
        fun _ => by simpa using hblank⟩

theorem collapseFrom_of_single {inRun : Bool} {text : Text} (hspaces : OnlySpaces text)
    (hsingle : text.IsChain fun a b => isBlank a = true → isBlank b = false)
    (hstart : inRun = true → text.head?.any isBlank = false) :
    collapseFrom inRun text = text := by
  induction text generalizing inRun with
  | nil => rfl
  | cons c rest ih =>
    have hrest : OnlySpaces rest := hspaces.sublist (List.sublist_cons_self c rest)
    obtain ⟨hnext, hsingle⟩ := List.isChain_cons.mp hsingle
    rw [collapseFrom]
    split_ifs with hblank hrun
    · exact absurd (hstart hrun) (by simp [hblank])
    · have hhead : rest.head?.any isBlank = false := by
        cases rest with
        | nil => rfl
        | cons d rest => exact hnext d rfl hblank
      rw [ih hrest hsingle fun _ => hhead, ← hspaces c List.mem_cons_self hblank]
    · rw [ih hrest hsingle (by simp)]

/-- Collapsing keeps exactly the texts without two blanks side by side whose blanks are spaces. -/
theorem collapse_eq_self_iff {text : Text} :
    collapse text = text ↔ OnlySpaces text ∧
      text.IsChain fun a b => isBlank a = true → isBlank b = false := by
  constructor
  · intro h
    rw [← h]
    exact ⟨onlySpaces_collapse text, (single_collapseFrom false text).1⟩
  · rintro ⟨hspaces, hsingle⟩
    exact collapseFrom_of_single hspaces hsingle (by simp)

/-! ## Trimming -/

theorem trim_eq_rdropWhile (text : Text) :
    trim text = (text.dropWhile isBlank).rdropWhile isBlank := rfl

theorem trim_isInfix (text : Text) : trim text <:+: text :=
  (List.rdropWhile_prefix isBlank _).isInfix.trans (List.dropWhile_suffix isBlank).isInfix

theorem head?_any_trim (text : Text) : (trim text).head?.any isBlank = false := by
  obtain ⟨behind, hbehind⟩ := List.rdropWhile_prefix isBlank (text.dropWhile isBlank)
  rw [trim_eq_rdropWhile]
  cases hkept : (text.dropWhile isBlank).rdropWhile isBlank with
  | nil => rfl
  | cons c kept =>
    have hhead := List.head?_dropWhile_not isBlank text
    rw [← hbehind, hkept] at hhead
    exact hhead

theorem getLast?_any_trim (text : Text) : (trim text).getLast?.any isBlank = false := by
  rw [trim_eq_rdropWhile]
  by_cases hkept : (text.dropWhile isBlank).rdropWhile isBlank = []
  · rw [hkept]
    rfl
  · have hlast := List.rdropWhile_last_not isBlank _ hkept
    rw [List.getLast?_eq_some_getLast hkept]
    simpa using hlast

/-- Trimming keeps exactly the texts without blanks at their ends. -/
theorem trim_eq_self_iff {text : Text} :
    trim text = text ↔ text.head?.any isBlank = false ∧ text.getLast?.any isBlank = false := by
  constructor
  · intro h
    rw [← h]
    exact ⟨head?_any_trim text, getLast?_any_trim text⟩
  · rintro ⟨hstarts, hends⟩
    have hdrop : text.dropWhile isBlank = text := by
      cases text with
      | nil => rfl
      | cons c rest => exact List.dropWhile_cons_of_neg (by simpa using hstarts)
    rw [trim_eq_rdropWhile, hdrop, List.rdropWhile_eq_self_iff]
    intro hne
    rw [List.getLast?_eq_some_getLast hne] at hends
    simpa using hends

/-- A text that is collapsed and trimmed is tidy. -/
theorem isTidy_trim_collapse (text : Text) : IsTidy (trim (collapse text)) where
  starts := head?_any_trim _
  ends := getLast?_any_trim _
  single := List.IsChain.infix (single_collapseFrom false text).1 (trim_isInfix _)

end FlowDiagram.Text
