import FlowDiagram.Proofs.Text.Utf8
import Mathlib.Data.List.Forall2
import Mathlib.Data.List.TakeWhile

/-!
# No byte is lost

Cutting bytes into pieces loses none of them. A character has the bytes that it was read from, and
all other bytes are kept in broken pieces. The character in progress carries the proof along:
its bits, and the bytes it still needs, are those of a character that starts with the bytes so far.

So bytes are the UTF-8 of characters exactly if they are cut into characters alone, and the settled
text of some bytes stands for these bytes again.

## Main definitions

* `Utf8.Piece.bytes`: the bytes of a piece.
* `Utf8.Pending.Sound`: a character in progress comes to what its bytes promise.

`Text.Utf8.decode_eq_ok_iff` says which bytes can be read, `Text.Utf8.encode_eq_ok_iff` which texts
can be written, and `Text.Raw.bytes_settled` that a text is settled without a change of its bytes.
-/

namespace FlowDiagram.Text

namespace Utf8

/-! ## Characters by their numbers -/

section Encode

variable {v : Nat}

theorem toNat_val_ofNat (h : v < 0xD800 ∨ 0xDFFF < v ∧ v < 0x110000) :
    (Char.ofNat v).val.toNat = v := by
  have hvalid : v.isValidChar := h
  rw [Char.ofNat, dif_pos hvalid]
  rfl

theorem encodeChar_one (h : v ≤ 0x7F) :
    String.utf8EncodeChar (Char.ofNat v) = [UInt8.ofNat v] := by
  rw [String.utf8EncodeChar, toNat_val_ofNat (by omega), if_pos h]

theorem encodeChar_two (hlow : 0x7F < v) (hhigh : v ≤ 0x7FF) :
    String.utf8EncodeChar (Char.ofNat v) =
      [UInt8.ofNat (v / 64 % 0x20 + 0xC0), UInt8.ofNat (v % 0x40 + 0x80)] := by
  rw [String.utf8EncodeChar, toNat_val_ofNat (by omega), if_neg (by omega), if_pos hhigh]

theorem encodeChar_three (hlow : 0x7FF < v) (hhigh : v ≤ 0xFFFF)
    (hvalid : v < 0xD800 ∨ 0xDFFF < v) :
    String.utf8EncodeChar (Char.ofNat v) =
      [UInt8.ofNat (v / 4096 % 0x10 + 0xE0), UInt8.ofNat (v / 64 % 0x40 + 0x80),
        UInt8.ofNat (v % 0x40 + 0x80)] := by
  rw [String.utf8EncodeChar, toNat_val_ofNat (by omega), if_neg (by omega), if_neg (by omega),
    if_pos hhigh]

theorem encodeChar_four (hlow : 0xFFFF < v) (hhigh : v < 0x110000) :
    String.utf8EncodeChar (Char.ofNat v) =
      [UInt8.ofNat (v / 262144 % 0x08 + 0xF0), UInt8.ofNat (v / 4096 % 0x40 + 0x80),
        UInt8.ofNat (v / 64 % 0x40 + 0x80), UInt8.ofNat (v % 0x40 + 0x80)] := by
  rw [String.utf8EncodeChar, toNat_val_ofNat (by omega), if_neg (by omega), if_neg (by omega),
    if_neg (by omega)]

end Encode

/-- A byte is known by its number. -/
theorem ofNat_eq {n : Nat} (byte : UInt8) (h : n = byte.toNat) : UInt8.ofNat n = byte := by
  rw [h, UInt8.ofNat_toNat]

/-! ## Characters in progress -/

/-- Whether a byte is in a span. -/
def Span.Holds (span : Span) (byte : UInt8) : Prop :=
  span.low ≤ byte.toNat ∧ byte.toNat ≤ span.high

/-- The bits of a character after some more of its bytes. -/
def addBits (bits : Nat) (bytes : List UInt8) : Nat :=
  bytes.foldl (fun bits byte => bits * 64 + byte.toNat % 64) bits

namespace Pending

/-- The bytes of a character in progress. -/
def bytes (pending : Pending) : List UInt8 :=
  pending.first :: pending.more

/-- Whatever bytes complete a character in progress, all its bytes together are those of the
character with its bits. None of them is a character of its own. -/
structure Sound (pending : Pending) : Prop where
  high : ∀ byte ∈ pending.bytes, 0x80 ≤ byte.toNat
  spans : ∀ span ∈ pending.next :: pending.later, 0x80 ≤ span.low
  completes : ∀ tail, List.Forall₂ Span.Holds (pending.next :: pending.later) tail →
    String.utf8EncodeChar (Char.ofNat (addBits pending.bits tail)) = pending.bytes ++ tail

end Pending

/-- All spans are those of bytes that are no characters of their own. -/
theorem low_afterThree (byte : Nat) : 0x80 ≤ (afterThree byte).low := by
  unfold afterThree
  split
  · exact Nat.le_add_right 0x80 0x20
  · split <;> exact Nat.le_refl 0x80

theorem low_afterFour (byte : Nat) : 0x80 ≤ (afterFour byte).low := by
  unfold afterFour
  split
  · exact Nat.le_add_right 0x80 0x10
  · split <;> exact Nat.le_refl 0x80

theorem low_of_mem_tails (count : Nat) :
    ∀ span ∈ List.replicate count Span.tail, 0x80 ≤ span.low := by
  intro span hspan
  rw [List.eq_of_mem_replicate hspan]
  exact Nat.le_refl 0x80

section Lead

variable {byte : UInt8}

theorem high_singleton (h : 0x80 ≤ byte.toNat) : ∀ other ∈ [byte], 0x80 ≤ other.toNat :=
  List.forall_mem_singleton.mpr h

theorem sound_two (hlow : 0xC2 ≤ byte.toNat) (hhigh : byte.toNat ≤ 0xDF) :
    Pending.Sound ⟨byte, [], byte.toNat - 0xC0, .tail, []⟩ where
  high := high_singleton (Nat.le_trans (by decide) hlow)
  spans := low_of_mem_tails 1
  completes tail htail := by
    obtain _ | ⟨⟨hlow₁, hhigh₁⟩, _ | _⟩ := htail
    rename_i second
    simp only [Span.tail] at hlow₁ hhigh₁
    simp only [addBits, List.foldl_cons, List.foldl_nil]
    rw [encodeChar_two (by omega) (by omega), ofNat_eq byte (by omega),
      ofNat_eq second (by omega)]
    rfl

theorem sound_three (hlow : 0xE0 ≤ byte.toNat) (hhigh : byte.toNat ≤ 0xEF) :
    Pending.Sound ⟨byte, [], byte.toNat - 0xE0, afterThree byte.toNat, [.tail]⟩ where
  high := high_singleton (Nat.le_trans (by decide) hlow)
  spans := List.forall_mem_cons.mpr ⟨low_afterThree _, low_of_mem_tails 1⟩
  completes tail htail := by
    obtain _ | ⟨⟨hlow₁, hhigh₁⟩, _ | ⟨⟨hlow₂, hhigh₂⟩, _ | _⟩⟩ := htail
    rename_i second third
    simp only [Span.tail] at hlow₂ hhigh₂
    simp only [addBits, List.foldl_cons, List.foldl_nil]
    -- What may follow the first byte leaves neither overlong forms nor surrogates.
    have hspan : 0x80 ≤ second.toNat ∧ second.toNat ≤ 0xBF ∧
        (byte.toNat = 0xE0 → 0xA0 ≤ second.toNat) ∧ (byte.toNat = 0xED → second.toNat ≤ 0x9F) := by
      unfold afterThree at hlow₁ hhigh₁
      split at hlow₁ <;> [skip; split at hlow₁] <;> simp_all [Span.tail] <;> omega
    rw [encodeChar_three (by omega) (by omega) (by omega), ofNat_eq byte (by omega),
      ofNat_eq second (by omega), ofNat_eq third (by omega)]
    rfl

theorem sound_four (hlow : 0xF0 ≤ byte.toNat) (hhigh : byte.toNat ≤ 0xF4) :
    Pending.Sound ⟨byte, [], byte.toNat - 0xF0, afterFour byte.toNat, [.tail, .tail]⟩ where
  high := high_singleton (Nat.le_trans (by decide) hlow)
  spans := List.forall_mem_cons.mpr ⟨low_afterFour _, low_of_mem_tails 2⟩
  completes tail htail := by
    obtain _ | ⟨⟨hlow₁, hhigh₁⟩, _ | ⟨⟨hlow₂, hhigh₂⟩, _ | ⟨⟨hlow₃, hhigh₃⟩, _ | _⟩⟩⟩ := htail
    rename_i second third fourth
    simp only [Span.tail] at hlow₂ hhigh₂ hlow₃ hhigh₃
    simp only [addBits, List.foldl_cons, List.foldl_nil]
    -- Neither overlong forms nor code points past the last plane are left.
    have hspan : 0x80 ≤ second.toNat ∧ second.toNat ≤ 0xBF ∧
        (byte.toNat = 0xF0 → 0x90 ≤ second.toNat) ∧ (byte.toNat = 0xF4 → second.toNat ≤ 0x8F) := by
      unfold afterFour at hlow₁ hhigh₁
      split at hlow₁ <;> [skip; split at hlow₁] <;> simp_all [Span.tail] <;> omega
    rw [encodeChar_four (by omega) (by omega), ofNat_eq byte (by omega),
      ofNat_eq second (by omega), ofNat_eq third (by omega),
      ofNat_eq fourth (by omega)]
    rfl

end Lead

/-! ## Bytes into pieces -/

namespace Piece

/-- The bytes of a piece. -/
def bytes : Piece → List UInt8
  | .char c => String.utf8EncodeChar c
  | .broken first more _ => first :: more

/-- A piece that is no character has no byte that is one. -/
def High : Piece → Prop
  | .char _ => True
  | .broken first more _ => ∀ byte ∈ first :: more, 0x80 ≤ byte.toNat

end Piece

/-- The bytes of a character in progress, if there is one. -/
def pendingBytes (pending : Option Pending) : List UInt8 :=
  pending.elim [] Pending.bytes

/-- Some bytes have become pieces and a character in progress, and none of them is lost. -/
structure Progress.Accounts (progress : Progress) (bytes : List UInt8) : Prop where
  bytes_eq : progress.ended.flatMap Piece.bytes ++ pendingBytes progress.pending = bytes
  high : ∀ piece ∈ progress.ended, piece.High
  sound : ∀ pending, progress.pending = some pending → pending.Sound

/-- What a first byte promises, case by case. -/
theorem lead?_cases (byte : Nat) :
    (0x80 ≤ byte ∧ lead? byte = none) ∨
      (byte ≤ 0x7F ∧ lead? byte = some (byte, [])) ∨
      (0xC2 ≤ byte ∧ byte ≤ 0xDF ∧ lead? byte = some (byte - 0xC0, [.tail])) ∨
      (0xE0 ≤ byte ∧ byte ≤ 0xEF ∧ lead? byte = some (byte - 0xE0, [afterThree byte, .tail])) ∨
      0xF0 ≤ byte ∧ byte ≤ 0xF4 ∧
        lead? byte = some (byte - 0xF0, [afterFour byte, .tail, .tail]) := by
  by_cases hone : byte ≤ 0x7F
  · exact Or.inr (Or.inl ⟨hone, lead?_one hone⟩)
  by_cases htwo : 0xC2 ≤ byte ∧ byte ≤ 0xDF
  · exact Or.inr (Or.inr (Or.inl ⟨htwo.1, htwo.2, lead?_two htwo.1 htwo.2⟩))
  by_cases hthree : 0xE0 ≤ byte ∧ byte ≤ 0xEF
  · exact Or.inr (Or.inr (Or.inr (Or.inl ⟨hthree.1, hthree.2, lead?_three hthree.1 hthree.2⟩)))
  by_cases hfour : 0xF0 ≤ byte ∧ byte ≤ 0xF4
  · exact Or.inr (Or.inr (Or.inr (Or.inr ⟨hfour.1, hfour.2, lead?_four hfour.1 hfour.2⟩)))
  · refine Or.inl ⟨by omega, ?_⟩
    unfold lead?
    grind

/-- A character in progress accounts for its bytes. -/
theorem Pending.Sound.accounts {pending : Pending} (h : pending.Sound) :
    Progress.Accounts ⟨[], some pending⟩ pending.bytes where
  bytes_eq := rfl
  high _ hpiece := absurd hpiece List.not_mem_nil
  sound _ hpending := Option.some.inj hpending ▸ h

/-- What a byte between characters comes to. -/
theorem accounts_start (byte : UInt8) : (start byte).Accounts [byte] := by
  rcases lead?_cases byte.toNat with ⟨hhigh, hlead⟩ | ⟨hone, hlead⟩ | ⟨hlow, hhigh, hlead⟩ |
    ⟨hlow, hhigh, hlead⟩ | ⟨hlow, hhigh, hlead⟩ <;> simp only [start, hlead]
  · exact ⟨rfl, List.forall_mem_singleton.mpr (high_singleton hhigh), by simp⟩
  · refine ⟨?_, List.forall_mem_singleton.mpr trivial, by simp⟩
    simp [Piece.bytes, pendingBytes, encodeChar_one hone]
  · exact (sound_two hlow hhigh).accounts
  · exact (sound_three hlow hhigh).accounts
  · exact (sound_four hlow hhigh).accounts

/-- What a byte within a character comes to. -/
theorem Pending.Sound.accounts_proceed {pending : Pending} (h : pending.Sound) (byte : UInt8) :
    (pending.proceed byte).Accounts (pending.bytes ++ [byte]) := by
  obtain ⟨first, more, bits, span, later⟩ := pending
  unfold Pending.proceed
  split
  · rename_i hholds
    cases later with
    | nil =>
      -- The byte is the last one of the character.
      refine ⟨?_, List.forall_mem_singleton.mpr trivial, by simp⟩
      have hchar := h.completes [byte] (.cons hholds .nil)
      simpa [Piece.bytes, pendingBytes, addBits] using hchar
    | cons next later =>
      obtain ⟨hspan, hspans⟩ := List.forall_mem_cons.mp h.spans
      refine Pending.Sound.accounts ⟨fun other hother => ?_, hspans, fun tail htail => ?_⟩
      · rcases List.mem_append.mp (show other ∈ (first :: more) ++ [byte] from hother) with
          hother | hother
        · exact h.high other hother
        · rw [List.mem_singleton.mp hother]
          exact Nat.le_trans hspan hholds.1
      · have hchar := h.completes (byte :: tail) (.cons hholds htail)
        simpa [Pending.bytes, addBits] using hchar
  · obtain ⟨hbytes, hhigh, hsound⟩ := accounts_start byte
    refine ⟨?_, List.forall_mem_cons.mpr ⟨h.high, hhigh⟩, hsound⟩
    rw [List.flatMap_cons, List.append_assoc, hbytes]
    rfl

/-- Every byte is in a piece, in its place. -/
theorem accounts_piecesFrom {pending : Option Pending} (h : ∀ p, pending = some p → p.Sound)
    (bytes : List UInt8) :
    (piecesFrom pending bytes).flatMap Piece.bytes = pendingBytes pending ++ bytes ∧
      ∀ piece ∈ piecesFrom pending bytes, piece.High := by
  induction bytes generalizing pending with
  | nil =>
    cases pending with
    | none => exact ⟨rfl, fun _ h => absurd h List.not_mem_nil⟩
    | some pending => exact ⟨rfl, List.forall_mem_singleton.mpr (h pending rfl).high⟩
  | cons byte bytes ih =>
    cases pending with
    | none =>
      obtain ⟨hbytes, hhigh, hsound⟩ := accounts_start byte
      obtain ⟨hrest, hhighs⟩ := ih hsound
      refine ⟨?_, List.forall_mem_append.mpr ⟨hhigh, hhighs⟩⟩
      rw [piecesFrom, List.flatMap_append, hrest, ← List.append_assoc, hbytes]
      rfl
    | some pending =>
      obtain ⟨hbytes, hhigh, hsound⟩ := (h pending rfl).accounts_proceed byte
      obtain ⟨hrest, hhighs⟩ := ih hsound
      refine ⟨?_, List.forall_mem_append.mpr ⟨hhigh, hhighs⟩⟩
      rw [piecesFrom, List.flatMap_append, hrest, ← List.append_assoc, hbytes, List.append_assoc]
      rfl

/-- No byte is lost. -/
theorem flatMap_bytes_pieces (bytes : List UInt8) : (pieces bytes).flatMap Piece.bytes = bytes :=
  (@accounts_piecesFrom none (by simp) bytes).1

theorem high_of_mem_pieces {bytes : List UInt8} {piece : Piece} (h : piece ∈ pieces bytes) :
    piece.High :=
  (@accounts_piecesFrom none (by simp) bytes).2 piece h

/-! ## Characters alone -/

/-- The bytes of characters are cut into these characters. -/
theorem pieces_flatMap_encodeChar (text : List Char) :
    pieces (text.flatMap String.utf8EncodeChar) = text.map Piece.char := by
  rw [pieces]
  induction text with
  | nil => rfl
  | cons c text ih => rw [List.flatMap_cons, piecesFrom_encodeChar, ih, List.map_cons]

/-- Pieces are read exactly if they are characters. -/
theorem charsFrom_eq_ok_iff {position : Nat} {pieces : List Piece} {text : List Char} :
    charsFrom position pieces = .ok text ↔ pieces = text.map Piece.char := by
  induction pieces generalizing position text with
  | nil =>
    rw [charsFrom]
    cases text <;> simp
  | cons piece pieces ih =>
    cases piece with
    | broken first more reason =>
      rw [charsFrom]
      cases text <;> simp
    | char c =>
      rw [charsFrom]
      constructor
      · intro h
        cases hrest : charsFrom (position + c.utf8Size) pieces with
        | error fault => simp [hrest, Except.map] at h
        | ok rest =>
          rw [hrest] at h
          obtain rfl := Except.ok.inj h
          rw [ih.mp hrest, List.map_cons]
      · intro h
        cases text with
        | nil => cases h
        | cons d text =>
          obtain ⟨hchar, hrest⟩ := List.cons.inj h
          rw [ih.mpr hrest, Piece.char.inj hchar]
          rfl

/-- Bytes can be read exactly if they are the UTF-8 of some characters, and then as these. -/
theorem decode_eq_ok_iff {bytes : List UInt8} {text : List Char} :
    decode bytes = .ok text ↔ bytes = text.flatMap String.utf8EncodeChar := by
  rw [decode, charsFrom_eq_ok_iff]
  constructor
  · intro h
    rw [← flatMap_bytes_pieces bytes, h, List.flatMap_map]
    rfl
  · rintro rfl
    exact pieces_flatMap_encodeChar text

/-! ## Texts that have bytes -/

theorem firstOutside_eq_none_iff {p : CodePoint → Bool} {text : Text} :
    firstOutside p text = none ↔ ∀ c ∈ text, p c = true := by
  have hbehind : text.drop (text.takeWhile p).length = text.dropWhile p := by
    calc text.drop (text.takeWhile p).length
        = (text.takeWhile p ++ text.dropWhile p).drop (text.takeWhile p).length := by
          rw [List.takeWhile_append_dropWhile]
      _ = text.dropWhile p := List.drop_left
  rw [← List.dropWhile_eq_nil_iff, ← hbehind, firstOutside]
  cases text.drop (text.takeWhile p).length <;> simp

theorem toList_loop (bytes : ByteArray) (position : Nat) (read : List UInt8) :
    ByteArray.toList.loop bytes position read =
      read.reverse ++ bytes.data.toList.drop position := by
  fun_induction ByteArray.toList.loop bytes position read with
  | case1 position read hmore ih =>
    have hlist : position < bytes.data.toList.length := hmore
    have hbyte : bytes.get! position = bytes.data.toList[position] := by
      simp [ByteArray.get!, getElem!_pos, hmore]
    rw [ih, List.drop_eq_getElem_cons hlist, List.reverse_cons, hbyte, List.append_assoc]
    rfl
  | case2 position read hdone =>
    have hlist : bytes.data.toList.length ≤ position := Nat.le_of_not_lt hdone
    rw [List.drop_eq_nil_of_le hlist, List.append_nil]

theorem toList_toUTF8 (text : List Char) :
    (String.ofList text).toUTF8.toList = text.flatMap String.utf8EncodeChar := by
  rw [ByteArray.toList, toList_loop]
  simp [String.toUTF8_eq_toByteArray, String.toByteArray_ofList, List.utf8Encode,
    List.data_toByteArray]

end Utf8

namespace Raw

/-- The surrogate that stands for a byte stands for it alone. -/
theorem pointBytes_ofByte {byte : UInt8} (h : 0x80 ≤ byte.toNat) :
    pointBytes (ofByte byte) = [byte] := by
  have hbyte : byte.toNat < 256 := byte.toNat_lt
  have hsurrogate : CodePoint.firstSurrogate ≤ firstByte + byte.toNat ∧
      firstByte + byte.toNat < CodePoint.firstSurrogate + 2048 := by
    simp only [CodePoint.firstSurrogate, firstByte]
    omega
  obtain ⟨offset, hoffset⟩ : ∃ offset, ofByte byte = .surrogate offset := ⟨_, dif_pos hsurrogate⟩
  have hnumber : (ofByte byte).toNat = firstByte + byte.toNat := by
    rw [ofByte, CodePoint.ofNat, dif_pos hsurrogate, CodePoint.toNat]
    exact Nat.add_sub_of_le hsurrogate.1
  have hrange : firstByte + 0x80 ≤ firstByte + byte.toNat ∧
      firstByte + byte.toNat ≤ firstByte + 0xFF := by
    omega
  rw [hoffset] at hnumber ⊢
  simp only [pointBytes, isByte, hnumber, decide_eq_true hrange, if_true]
  rw [Nat.add_sub_cancel_left, UInt8.ofNat_toNat]

theorem bytes_ofPiece {piece : Utf8.Piece} (h : piece.High) :
    bytes (ofPiece piece) = piece.bytes := by
  cases piece with
  | char c => simp [bytes, ofPiece, pointBytes, Utf8.Piece.bytes]
  | broken first more reason =>
    rw [bytes, ofPiece, List.flatMap_map]
    have hpoints : ∀ byte ∈ first :: more, pointBytes (ofByte byte) = [byte] := fun byte hbyte =>
      pointBytes_ofByte (h byte hbyte)
    rw [List.flatMap_congr hpoints, List.flatMap_singleton']
    rfl

/-- The text that is read from bytes stands for these bytes. -/
theorem bytes_ofBytes (raw : List UInt8) : bytes (ofBytes raw) = raw := by
  have hpieces : ∀ piece ∈ Utf8.pieces raw, bytes (ofPiece piece) = piece.bytes := fun piece h =>
    bytes_ofPiece (Utf8.high_of_mem_pieces h)
  calc bytes (ofBytes raw)
      = (Utf8.pieces raw).flatMap fun piece => bytes (ofPiece piece) := List.flatMap_assoc
    _ = (Utf8.pieces raw).flatMap Utf8.Piece.bytes := List.flatMap_congr hpieces
    _ = raw := Utf8.flatMap_bytes_pieces raw

/-- Texts are settled without a change of their bytes. -/
@[simp] theorem bytes_settled (text : Text) : bytes (settled text) = bytes text :=
  bytes_ofBytes (bytes text)

/-- Texts with different bytes stay apart when they are settled. -/
theorem settled_eq_iff {text other : Text} :
    settled text = settled other ↔ bytes text = bytes other := by
  constructor
  · intro h
    rw [← bytes_settled text, h, bytes_settled]
  · intro h
    rw [settled, h, settled]

/-- Texts without surrogates are known by their bytes. -/
theorem eq_of_bytes_eq {text other : Text} (htext : ∀ c ∈ text, c.isSurrogate = false)
    (hother : ∀ c ∈ other, c.isSurrogate = false) (h : bytes text = bytes other) :
    text = other := by
  rw [← settled_eq_self htext, settled_eq_iff.mpr h, settled_eq_self hother]

/-- The bytes of a text without surrogates are those of its characters. -/
theorem bytes_eq_flatMap {text : Text} (h : ∀ c ∈ text, c.isSurrogate = false) :
    bytes text = (text.filterMap CodePoint.char?).flatMap String.utf8EncodeChar := by
  induction text with
  | nil => rfl
  | cons c text ih =>
    obtain ⟨hc, htext⟩ := List.forall_mem_cons.mp h
    cases c with
    | surrogate => cases hc
    | char c =>
      have hchar : (CodePoint.char c :: text).filterMap CodePoint.char? =
          c :: text.filterMap CodePoint.char? := rfl
      rw [bytes, List.flatMap_cons, hchar, List.flatMap_cons]
      exact congrArg (String.utf8EncodeChar c ++ ·) (ih htext)

end Raw

/-- A text is written as UTF-8 exactly if it has no surrogates, and then its bytes are those that it
stands for as a name. -/
theorem Utf8.encode_eq_ok_iff {text : Text} {bytes : List UInt8} :
    encode text = .ok bytes ↔
      (∀ c ∈ text, c.isSurrogate = false) ∧ bytes = Raw.bytes text := by
  have hwritable : unwritable? text = none ↔ ∀ c ∈ text, c.isSurrogate = false := by
    rw [unwritable?, firstOutside_eq_none_iff]
    simp only [Bool.not_eq_true']
  rw [encode, ← hwritable]
  cases hfault : unwritable? text with
  | some fault => simp
  | none =>
    rw [toList_toUTF8, Raw.bytes_eq_flatMap (hwritable.mp hfault)]
    simp [eq_comm]

end FlowDiagram.Text
