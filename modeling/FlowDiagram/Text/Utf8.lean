import FlowDiagram.Text.Quoted

/-!
# UTF-8

Bytes are read as UTF-8 by a machine that takes one byte at a time and cuts them into pieces. A
piece is a character, or as many bytes as could have been the start of one. Overlong forms,
surrogates and code points past the last plane are no characters. A reader that wants characters
alone stops at the first other piece and says where it is and why. A text is written as UTF-8 unless
it holds surrogates, for which there are no bytes.

## Main definitions

* `Utf8.pieces`: the pieces that bytes are cut into.
* `Utf8.Fault`: the bytes that could not be read and the reason.
* `Utf8.decode`: the characters of a byte sequence.
* `Utf8.Unwritable`: the surrogates that cannot be written.
* `Utf8.encode`: the bytes of a text.
* `Utf8.unifyNewlines`: line ends of all three conventions as line feeds.
-/

namespace FlowDiagram.Text.Utf8

/-- Why bytes are not UTF-8. -/
inductive Reason
  /-- No character starts with the byte. -/
  | invalidStart
  /-- A character was begun and the next byte does not continue it. -/
  | invalidContinuation
  /-- The bytes end within a character. -/
  | unexpectedEnd
  deriving DecidableEq, Repr

/-- The bytes from `start` up to `stop` cannot be read; `byte` is the first of them. -/
structure Fault where
  byte : UInt8
  start : Nat
  stop : Nat
  reason : Reason
  deriving DecidableEq, Repr

/-- The wording of a reason. -/
def Reason.message : Reason → String
  | .invalidStart => "invalid start byte"
  | .invalidContinuation => "invalid continuation byte"
  | .unexpectedEnd => "unexpected end of data"

/-- The wording of a fault: a single byte is shown, several are only located. -/
def Fault.message (fault : Fault) : String :=
  if fault.stop = fault.start + 1 then
    let shown := String.ofList (hexDigits 2 fault.byte.toNat)
    s!"'utf-8' codec can't decode byte 0x{shown} in position {fault.start}: " ++
      fault.reason.message
  else
    s!"'utf-8' codec can't decode bytes in position {fault.start}-{fault.stop - 1}: " ++
      fault.reason.message

/-- An inclusive range of bytes. -/
structure Span where
  low : Nat
  high : Nat

/-- The bytes that continue a character. -/
def Span.tail : Span := ⟨0x80, 0xBF⟩

/-- What a first byte promises: the bits it contributes and the bytes that must follow. -/
def lead? (byte : Nat) : Option (Nat × List Span) :=
  if byte ≤ 0x7F then some (byte, [])
  else if byte < 0xC2 then none
  else if byte ≤ 0xDF then some (byte - 0xC0, [.tail])
  else if byte = 0xE0 then some (0, [⟨0xA0, 0xBF⟩, .tail])
  else if byte = 0xED then some (0xD, [⟨0x80, 0x9F⟩, .tail])
  else if byte ≤ 0xEF then some (byte - 0xE0, [.tail, .tail])
  else if byte = 0xF0 then some (0, [⟨0x90, 0xBF⟩, .tail, .tail])
  else if byte ≤ 0xF3 then some (byte - 0xF0, [.tail, .tail, .tail])
  else if byte = 0xF4 then some (4, [⟨0x80, 0x8F⟩, .tail, .tail])
  else none

/-- What bytes are cut into: a character, or the bytes from `first` on that start one at most. -/
inductive Piece
  | char (c : Char)
  | broken (first : UInt8) (more : List UInt8) (reason : Reason)
  deriving DecidableEq, Repr

/-- A character in progress: its first byte, the bytes after it so far, its bits, and the bytes it
still needs. -/
structure Pending where
  first : UInt8
  more : List UInt8
  bits : Nat
  next : Span
  later : List Span

/-- What comes of a byte: the pieces that end at it or before it, and the character in progress
after it. -/
structure Progress where
  ended : List Piece
  pending : Option Pending

/-- Reads a byte between characters. -/
def start (byte : UInt8) : Progress :=
  match lead? byte.toNat with
  | none => ⟨[.broken byte [] .invalidStart], none⟩
  | some (bits, []) => ⟨[.char (Char.ofNat bits)], none⟩
  | some (bits, next :: later) => ⟨[], some ⟨byte, [], bits, next, later⟩⟩

namespace Pending

/-- The bytes of a character that is given up. -/
def broken (pending : Pending) (reason : Reason) : Piece :=
  .broken pending.first pending.more reason

/-- Reads a byte within a character. One that does not continue it starts something else. -/
def proceed (pending : Pending) (byte : UInt8) : Progress :=
  if pending.next.low ≤ byte.toNat ∧ byte.toNat ≤ pending.next.high then
    let bits := pending.bits * 64 + byte.toNat % 64
    match pending.later with
    | [] => ⟨[.char (Char.ofNat bits)], none⟩
    | next :: later => ⟨[], some { pending with more := pending.more ++ [byte], bits, next, later }⟩
  else
    let started := start byte
    { started with ended := pending.broken .invalidContinuation :: started.ended }

end Pending

/-- Cuts bytes into pieces, within a character or between characters. -/
def piecesFrom : Option Pending → List UInt8 → List Piece
  | none, [] => []
  | some pending, [] => [pending.broken .unexpectedEnd]
  | none, byte :: rest =>
    let progress := start byte
    progress.ended ++ piecesFrom progress.pending rest
  | some pending, byte :: rest =>
    let progress := pending.proceed byte
    progress.ended ++ piecesFrom progress.pending rest

/-- The pieces that bytes are cut into. -/
def pieces (bytes : List UInt8) : List Piece :=
  piecesFrom none bytes

/-- The characters of pieces that start at a position, or the first fault in them. -/
def charsFrom (position : Nat) : List Piece → Except Fault (List Char)
  | [] => .ok []
  | .char c :: rest => (charsFrom (position + c.utf8Size) rest).map (c :: ·)
  | .broken first more reason :: _ => .error ⟨first, position, position + more.length + 1, reason⟩

/-- The characters of a byte sequence, or the first fault in it. -/
def decode (bytes : List UInt8) : Except Fault (List Char) :=
  charsFrom 0 (pieces bytes)

/-- The first surrogates in a text, side by side: `first` is the first of them and `start` its
position; `count` more follow it. -/
structure Unwritable where
  first : CodePoint
  start : Nat
  count : Nat
  deriving DecidableEq, Repr

/-- The wording for surrogates: a single one is shown, several are only located. -/
def Unwritable.message (fault : Unwritable) : Text :=
  if fault.count = 0 then
    let shown := String.ofList (numbered fault.first)
    s!"'utf-8' codec can't encode character '{shown}' in position {fault.start}: " ++
      "surrogates not allowed"
  else
    s!"'utf-8' codec can't encode characters in position {fault.start}-" ++
      s!"{fault.start + fault.count}: surrogates not allowed"

/-- The first code point of a text that is not of a class, and the surrogates after it. -/
def firstOutside (p : CodePoint → Bool) (text : Text) : Option Unwritable :=
  let before := text.takeWhile p
  match text.drop before.length with
  | [] => none
  | first :: rest => some ⟨first, before.length, (rest.takeWhile CodePoint.isSurrogate).length⟩

/-- The first surrogates in a text. -/
def unwritable? (text : Text) : Option Unwritable :=
  firstOutside (!·.isSurrogate) text

/-- The bytes of a text. -/
def encode (text : Text) : Except Unwritable (List UInt8) :=
  match unwritable? text with
  | some fault => .error fault
  | none => .ok (String.ofList (text.filterMap CodePoint.char?)).toUTF8.toList

/-- Writes every line end as a line feed: a carriage return counts as one, alone or together with
a line feed after it. -/
def unifyNewlines : List Char → List Char
  | [] => []
  | '\r' :: '\n' :: rest => '\n' :: unifyNewlines rest
  | c :: rest => (if c = '\r' then '\n' else c) :: unifyNewlines rest

end FlowDiagram.Text.Utf8
