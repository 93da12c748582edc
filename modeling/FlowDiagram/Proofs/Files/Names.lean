import FlowDiagram.Proofs.Files.Changes
import FlowDiagram.Proofs.Text.Lossless

/-!
# Names of files

A name without slashes that is not one of the names with a meaning of their own is one part of a
path: it leads from a folder to a place in this folder. Names that stand for different bytes lead to
different places.

## Main definitions

* `IsFileName`: a name of a file.

`IsFileName.apart_child` is the main result.
-/

namespace FlowDiagram

/-- A name of a file: it has no slash, and does not stand for a folder. -/
structure IsFileName (name : Text) : Prop where
  ne_nil : name ≠ []
  ne_dot : name ≠ "."
  ne_dots : name ≠ ".."
  slash : CodePoint.char '/' ∉ name

theorem segmentsFrom_of_slash {part name : Text} (h : CodePoint.char '/' ∉ name) :
    segmentsFrom part name = [part.reverse ++ name] := by
  induction name generalizing part with
  | nil => simp [segmentsFrom]
  | cons c name ih =>
    obtain ⟨hc, hname⟩ := not_or.mp (mt List.mem_cons.mpr h)
    rw [segmentsFrom, if_neg (Ne.symm hc), ih hname]
    simp

/-- Different names lead from a path to different paths. -/
theorem Path.descend_injective (folder : Path) : Function.Injective folder.descend := fun _ _ h =>
  List.append_cancel_left (congrArg Path.parts h)

namespace IsFileName

variable {name : Text} (h : IsFileName name)

include h

theorem anchorOf_eq : Path.anchorOf name = .relative := by
  unfold Path.anchorOf
  split
  · exact absurd List.mem_cons_self h.slash
  · exact absurd List.mem_cons_self h.slash
  · exact absurd List.mem_cons_self h.slash
  · rfl

/-- A name is the only part of its path. -/
theorem ofText_eq : Path.ofText name = ⟨.relative, [name]⟩ := by
  rw [Path.ofText, h.anchorOf_eq, segments, segmentsFrom_of_slash h.slash]
  simp [h.ne_nil, h.ne_dot]

theorem child_eq (folder : Path) : folder.child name = folder.descend [name] := by
  rw [Path.child, h.ofText_eq]
  rfl

theorem parent_child (folder : Path) : (folder.child name).parent = folder := by
  rw [h.child_eq, Path.parent, Path.descend, List.dropLast_concat]

theorem name_child (folder : Path) : (folder.child name).name = name := by
  rw [h.child_eq, Path.name, Path.descend, List.getLast?_concat, Option.getD_some]

theorem child_injective {other : Text} (h' : IsFileName other) {folder : Path}
    (heq : folder.child name = folder.child other) : name = other := by
  rw [h.child_eq, h'.child_eq] at heq
  exact List.singleton_inj.mp (folder.descend_injective heq)

end IsFileName

namespace Disk

variable {disk : Disk} {folder : Path} {place : Place} {name : Text}

/-- A name leads to a place in the folder. -/
theorem locate_child_eq_ok (hname : IsFileName name)
    (h : disk.locate (folder.child name) = .ok place) :
    ∃ base, disk.locateFrom (disk.baseOf folder.anchor) folder.parts = .ok base ∧
      place = base ++ [Text.Raw.settled name] := by
  rw [hname.child_eq] at h
  obtain ⟨-, hplace⟩ := locate_eq_ok_iff.mp h
  rw [Path.descend, locateFrom_append] at hplace
  cases hbase : disk.locateFrom (disk.baseOf folder.anchor) folder.parts with
  | error => simp [hbase, Except.bind] at hplace
  | ok base =>
    simp only [hbase, Except.bind, locateFrom_cons_eq_ok, if_neg hname.ne_dot,
      if_neg hname.ne_dots] at hplace
    obtain ⟨-, -, hplace⟩ := hplace
    exact ⟨base, rfl, (Except.ok.inj hplace).symm⟩

end Disk

/-- Names that stand for different bytes lead to different places in a folder. -/
theorem IsFileName.apart_child {name other : Text} (hname : IsFileName name)
    (hother : IsFileName other) (folder : Path) (h : Text.Raw.bytes name ≠ Text.Raw.bytes other) :
    (folder.child name).Apart (folder.child other) := by
  intro disk place hplace hplace'
  obtain ⟨base, hbase, rfl⟩ := Disk.locate_child_eq_ok hname hplace
  obtain ⟨base', hbase', heq⟩ := Disk.locate_child_eq_ok hother hplace'
  obtain rfl := Except.ok.inj (hbase.symm.trans hbase')
  exact h (Text.Raw.settled_eq_iff.mp (List.singleton_inj.mp (List.append_cancel_left heq)))

end FlowDiagram
