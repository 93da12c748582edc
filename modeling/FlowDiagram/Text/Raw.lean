import FlowDiagram.Text.Utf8

/-!
# Texts of the system

The system knows names and values as bytes. A text stands for bytes in which every character is
written as UTF-8, and in which 128 of the surrogates stand for one byte each, so that bytes which
are no UTF-8 have a text too. Several texts may stand for the same bytes: surrogates can spell a
character byte by byte. The text that is read from the bytes is the settled one of them; it has a
surrogate only where there is no character.

## Main definitions

* `Raw.bytes`: the bytes that a text stands for.
* `Raw.ofBytes`: the text that is read from bytes.
* `Raw.settled`: the settled one of the texts that stand for the same bytes.
* `Raw.shown`: a text for the eye, without surrogates.
* `Raw.unwritable?`: why a text stands for no bytes.
-/

namespace FlowDiagram.Text.Raw

open Utf8

/-- The number from which on surrogates are numbered by bytes. Bytes below 128 are characters of
their own, so no surrogate stands for one of them. -/
def firstByte : Nat := 0xDC00

/-- Whether a code point stands for a single byte: one of 128 surrogates. -/
def isByte (c : CodePoint) : Bool :=
  decide (firstByte + 0x80 ≤ c.toNat ∧ c.toNat ≤ firstByte + 0xFF)

/-- The first surrogates in a text that stand for no bytes. -/
def unwritable? (text : Text) : Option Unwritable :=
  firstOutside (fun c => !c.isSurrogate || isByte c) text

/-- The bytes that a code point stands for. -/
def pointBytes : CodePoint → List UInt8
  | .char c => String.utf8EncodeChar c
  | c => if isByte c then [UInt8.ofNat (c.toNat - firstByte)] else []

/-- The bytes that a text stands for. -/
def bytes (text : Text) : List UInt8 :=
  text.flatMap pointBytes

/-- The number of bytes that a text stands for. -/
def size (text : Text) : Nat :=
  (bytes text).length

/-- The surrogate that stands for a byte. -/
def ofByte (byte : UInt8) : CodePoint :=
  .ofNat (firstByte + byte.toNat)

/-- The text of a piece: bytes that are no character become a surrogate each. -/
def ofPiece : Piece → Text
  | .char c => [.char c]
  | .broken first more _ => (first :: more).map ofByte

/-- The text that is read from bytes. -/
def ofBytes (bytes : List UInt8) : Text :=
  (pieces bytes).flatMap ofPiece

/-- The text that is read from the bytes of a text. -/
def settled (text : Text) : Text :=
  ofBytes (bytes text)

/-- A text for the eye: bytes that are no character are replaced piece by piece. -/
def shown (text : Text) : Text :=
  (pieces (bytes text)).map fun
    | .char c => .char c
    | .broken .. => .char '\ufffd'

end FlowDiagram.Text.Raw
