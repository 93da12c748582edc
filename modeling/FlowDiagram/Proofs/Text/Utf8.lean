import FlowDiagram.Text.Raw

/-!
# Reading back UTF-8

The bytes of a character are cut into this character and nothing else, whatever follows them. So a
text without surrogates is the settled one of those that stand for its bytes: no other text without
surrogates stands for the same bytes.

`Text.Utf8.piecesFrom_encodeChar` is about one character, `Text.Raw.settled_eq_self` about texts.
-/

namespace FlowDiagram.Text

namespace Utf8

/-- A first byte that promises more bytes starts a character. -/
theorem piecesFrom_start {byte : UInt8} {bits : Nat} {next : Span} {later : List Span}
    (h : lead? byte.toNat = some (bits, next :: later)) (rest : List UInt8) :
    piecesFrom none (byte :: rest) = piecesFrom (some ⟨byte, [], bits, next, later⟩) rest := by
  simp only [piecesFrom, start, h, List.nil_append]

section Proceed

variable {first byte : UInt8} {more : List UInt8} {bits : Nat} {span : Span}
  (hlow : span.low ≤ byte.toNat) (hhigh : byte.toNat ≤ span.high)

include hlow hhigh

/-- A byte that continues a character adds its bits. -/
theorem piecesFrom_proceed (next : Span) (later : List Span) (rest : List UInt8) :
    piecesFrom (some ⟨first, more, bits, span, next :: later⟩) (byte :: rest) =
      piecesFrom (some ⟨first, more ++ [byte], bits * 64 + byte.toNat % 64, next, later⟩) rest := by
  simp only [piecesFrom, Pending.proceed, hlow, hhigh, and_self, if_true, List.nil_append]

/-- The last byte ends the character. -/
theorem piecesFrom_last (rest : List UInt8) :
    piecesFrom (some ⟨first, more, bits, span, []⟩) (byte :: rest) =
      .char (Char.ofNat (bits * 64 + byte.toNat % 64)) :: piecesFrom none rest := by
  simp only [piecesFrom, Pending.proceed, hlow, hhigh, and_self, if_true, List.cons_append,
    List.nil_append]

end Proceed

theorem toNat_ofNat {n : Nat} (h : n < 256) : (UInt8.ofNat n).toNat = n :=
  Nat.mod_eq_of_lt h

/-! ## First bytes

A first byte of three or four bytes restricts the byte after it where overlong forms, surrogates or
code points past the last plane would come of it. -/

/-- What may follow the first of three bytes. -/
def afterThree (byte : Nat) : Span :=
  if byte = 0xE0 then ⟨0xA0, 0xBF⟩ else if byte = 0xED then ⟨0x80, 0x9F⟩ else .tail

/-- What may follow the first of four bytes. -/
def afterFour (byte : Nat) : Span :=
  if byte = 0xF0 then ⟨0x90, 0xBF⟩ else if byte = 0xF4 then ⟨0x80, 0x8F⟩ else .tail

variable {byte : Nat}

theorem lead?_one (h : byte ≤ 0x7F) : lead? byte = some (byte, []) :=
  if_pos h

theorem lead?_two (hlow : 0xC2 ≤ byte) (hhigh : byte ≤ 0xDF) :
    lead? byte = some (byte - 0xC0, [.tail]) := by
  rw [lead?, if_neg (by omega), if_neg (by omega), if_pos hhigh]

theorem lead?_three (hlow : 0xE0 ≤ byte) (hhigh : byte ≤ 0xEF) :
    lead? byte = some (byte - 0xE0, [afterThree byte, .tail]) := by
  rw [lead?, if_neg (by omega), if_neg (by omega), if_neg (by omega), afterThree]
  by_cases hfirst : byte = 0xE0
  · simp [hfirst]
  · by_cases hsurrogate : byte = 0xED
    · simp [hsurrogate]
    · simp only [hfirst, hsurrogate, hhigh, if_false, if_true]

theorem lead?_four (hlow : 0xF0 ≤ byte) (hhigh : byte ≤ 0xF4) :
    lead? byte = some (byte - 0xF0, [afterFour byte, .tail, .tail]) := by
  rw [lead?, if_neg (by omega), if_neg (by omega), if_neg (by omega), if_neg (by omega),
    if_neg (by omega), if_neg (by omega), afterFour]
  by_cases hfirst : byte = 0xF0
  · simp [hfirst]
  · by_cases hlast : byte = 0xF4
    · simp [hlast]
    · simp only [hfirst, hlast, show byte ≤ 0xF3 by omega, if_false, if_true]

/-! ## Characters -/

section Character

variable {v : Nat} (rest : List UInt8)

theorem pieces_two (hlow : 0x7F < v) (hhigh : v ≤ 0x7FF) :
    piecesFrom none (UInt8.ofNat (v / 64 % 0x20 + 0xC0) :: UInt8.ofNat (v % 0x40 + 0x80) :: rest) =
      .char (Char.ofNat v) :: piecesFrom none rest := by
  have h0 : (UInt8.ofNat (v / 64 % 0x20 + 0xC0)).toNat = v / 64 + 0xC0 := by
    rw [toNat_ofNat (by omega)]
    omega
  have h1 : (UInt8.ofNat (v % 0x40 + 0x80)).toNat = v % 64 + 0x80 := toNat_ofNat (by omega)
  rw [piecesFrom_start (lead?_two (by omega) (by omega)),
    piecesFrom_last (by simp only [Span.tail]; omega) (by simp only [Span.tail]; omega), h0, h1]
  congr 3
  omega

theorem pieces_three (hlow : 0x7FF < v) (hhigh : v ≤ 0xFFFF) (hvalid : v < 0xD800 ∨ 0xDFFF < v) :
    piecesFrom none (UInt8.ofNat (v / 4096 % 0x10 + 0xE0) :: UInt8.ofNat (v / 64 % 0x40 + 0x80) ::
        UInt8.ofNat (v % 0x40 + 0x80) :: rest) =
      .char (Char.ofNat v) :: piecesFrom none rest := by
  have h0 : (UInt8.ofNat (v / 4096 % 0x10 + 0xE0)).toNat = v / 4096 + 0xE0 := by
    rw [toNat_ofNat (by omega)]
    omega
  have h1 : (UInt8.ofNat (v / 64 % 0x40 + 0x80)).toNat = v / 64 % 64 + 0x80 :=
    toNat_ofNat (by omega)
  have h2 : (UInt8.ofNat (v % 0x40 + 0x80)).toNat = v % 64 + 0x80 := toNat_ofNat (by omega)
  have hspan : (afterThree (v / 4096 + 0xE0)).low ≤ v / 64 % 64 + 0x80 ∧
      v / 64 % 64 + 0x80 ≤ (afterThree (v / 4096 + 0xE0)).high := by
    unfold afterThree
    split
    · constructor <;> dsimp only <;> omega
    · split
      · constructor <;> dsimp only <;> omega
      · constructor <;> simp only [Span.tail] <;> omega
  rw [piecesFrom_start (lead?_three (by omega) (by omega)),
    piecesFrom_proceed (by rw [h0, h1]; exact hspan.1) (by rw [h0, h1]; exact hspan.2),
    piecesFrom_last (by simp only [Span.tail]; omega) (by simp only [Span.tail]; omega), h0, h1, h2]
  congr 3
  omega

theorem pieces_four (hlow : 0xFFFF < v) (hhigh : v < 0x110000) :
    piecesFrom none (UInt8.ofNat (v / 262144 % 0x08 + 0xF0) ::
        UInt8.ofNat (v / 4096 % 0x40 + 0x80) :: UInt8.ofNat (v / 64 % 0x40 + 0x80) ::
        UInt8.ofNat (v % 0x40 + 0x80) :: rest) =
      .char (Char.ofNat v) :: piecesFrom none rest := by
  have h0 : (UInt8.ofNat (v / 262144 % 0x08 + 0xF0)).toNat = v / 262144 + 0xF0 := by
    rw [toNat_ofNat (by omega)]
    omega
  have h1 : (UInt8.ofNat (v / 4096 % 0x40 + 0x80)).toNat = v / 4096 % 64 + 0x80 :=
    toNat_ofNat (by omega)
  have h2 : (UInt8.ofNat (v / 64 % 0x40 + 0x80)).toNat = v / 64 % 64 + 0x80 :=
    toNat_ofNat (by omega)
  have h3 : (UInt8.ofNat (v % 0x40 + 0x80)).toNat = v % 64 + 0x80 := toNat_ofNat (by omega)
  have hspan : (afterFour (v / 262144 + 0xF0)).low ≤ v / 4096 % 64 + 0x80 ∧
      v / 4096 % 64 + 0x80 ≤ (afterFour (v / 262144 + 0xF0)).high := by
    unfold afterFour
    split
    · constructor <;> dsimp only <;> omega
    · split
      · constructor <;> dsimp only <;> omega
      · constructor <;> simp only [Span.tail] <;> omega
  rw [piecesFrom_start (lead?_four (by omega) (by omega)),
    piecesFrom_proceed (by rw [h0, h1]; exact hspan.1) (by rw [h0, h1]; exact hspan.2),
    piecesFrom_proceed (by simp only [Span.tail]; omega) (by simp only [Span.tail]; omega),
    piecesFrom_last (by simp only [Span.tail]; omega) (by simp only [Span.tail]; omega), h0, h1, h2,
    h3]
  congr 3
  omega

end Character

/-- The bytes of a character are cut into this character. -/
theorem piecesFrom_encodeChar (c : Char) (rest : List UInt8) :
    piecesFrom none (String.utf8EncodeChar c ++ rest) = .char c :: piecesFrom none rest := by
  have hchar : Char.ofNat c.toNat = c := Char.ofNat_toNat c
  have hvalid : c.toNat < 0xD800 ∨ 0xDFFF < c.toNat ∧ c.toNat < 0x110000 := c.valid
  unfold String.utf8EncodeChar
  simp only [show c.val.toNat = c.toNat from rfl]
  generalize c.toNat = v at hchar hvalid ⊢
  subst hchar
  split
  · rename_i hone
    have hbyte : (UInt8.ofNat v).toNat = v := toNat_ofNat (by omega)
    have hlead : lead? (UInt8.ofNat v).toNat = some (v, []) := by
      rw [hbyte]
      exact lead?_one hone
    simp only [List.cons_append, List.nil_append, piecesFrom, start, hlead]
  · split
    · exact pieces_two rest (by omega) (by omega)
    · split
      · exact pieces_three rest (by omega) (by omega) (by omega)
      · exact pieces_four rest (by omega) (by omega)

end Utf8

namespace Raw

/-- A text without surrogates is what is read from its bytes. -/
theorem settled_eq_self {text : Text} (h : ∀ c ∈ text, c.isSurrogate = false) :
    settled text = text := by
  rw [settled, ofBytes, Utf8.pieces]
  induction text with
  | nil => rfl
  | cons c text ih =>
    obtain ⟨hc, htext⟩ := List.forall_mem_cons.mp h
    cases c with
    | surrogate => cases hc
    | char c =>
      rw [bytes, List.flatMap_cons, pointBytes, Utf8.piecesFrom_encodeChar, List.flatMap_cons]
      exact congrArg (CodePoint.char c :: ·) (ih htext)

end Raw

end FlowDiagram.Text
