/-!
# Decoding UTF-8

Bytes that are no UTF-8 are replaced by `U+FFFD`, one for each longest piece that could still have
become a character. The byte that breaks off such a piece is read afresh, so that no byte below `80`
is ever taken up by what stands before it.
-/

namespace PageAudit.Charset

/-- The character that stands for what cannot be decoded. -/
def replacement : Char := '\ufffd'

/-- The character of a number, if it has one. -/
def charOrReplacement (n : Nat) : Char :=
  if n.isValidChar then Char.ofNat n else replacement

namespace Utf8

/-- A character that has begun: the bits read so far, the number of bytes still to come, and the
bounds of the next of them. -/
structure Pending where
  bits : Nat
  left : Nat
  low : Nat
  high : Nat
  deriving DecidableEq, Repr

/-- What a first byte gives: a character by itself, a beginning, or nothing. -/
inductive Lead where
  | char (c : Char)
  | pending (p : Pending)
  | invalid
  deriving DecidableEq, Repr

/-- The bounds of the second byte rule out long forms, surrogates and what is beyond `U+10FFFF`. -/
def lead (b : UInt8) : Lead :=
  let n := b.toNat
  if n < 0x80 then .char (Char.ofNat n)
  else if n < 0xC2 then .invalid
  else if n < 0xE0 then .pending ⟨n - 0xC0, 1, 0x80, 0xBF⟩
  else if n = 0xE0 then .pending ⟨0, 2, 0xA0, 0xBF⟩
  else if n = 0xED then .pending ⟨0xD, 2, 0x80, 0x9F⟩
  else if n < 0xF0 then .pending ⟨n - 0xE0, 2, 0x80, 0xBF⟩
  else if n = 0xF0 then .pending ⟨0, 3, 0x90, 0xBF⟩
  else if n < 0xF4 then .pending ⟨n - 0xF0, 3, 0x80, 0xBF⟩
  else if n = 0xF4 then .pending ⟨4, 3, 0x80, 0x8F⟩
  else .invalid

/-- The bits of the character with those of its next byte. -/
def Pending.bitsWith (p : Pending) (b : UInt8) : Nat :=
  p.bits * 64 + (b.toNat - 0x80)

/-- The byte can be the next of the character. -/
def Pending.accepts (p : Pending) (b : UInt8) : Bool :=
  p.low ≤ b.toNat && b.toNat ≤ p.high

/-- Reads on with a character that may have begun. A byte that does not belong to it is read afresh,
after the mark for what has been broken off. -/
def decodeFrom : Option Pending → List UInt8 → List Char
  | none, [] => []
  | some _, [] => [replacement]
  | none, b :: bs =>
    match lead b with
    | .char c => c :: decodeFrom none bs
    | .pending p => decodeFrom (some p) bs
    | .invalid => replacement :: decodeFrom none bs
  | some p, b :: bs =>
    if p.accepts b then
      if p.left = 1 then Char.ofNat (p.bitsWith b) :: decodeFrom none bs
      else decodeFrom (some ⟨p.bitsWith b, p.left - 1, 0x80, 0xBF⟩) bs
    else
      replacement :: match lead b with
        | .char c => c :: decodeFrom none bs
        | .pending q => decodeFrom (some q) bs
        | .invalid => replacement :: decodeFrom none bs

/-- The characters of bytes, read from the start. -/
def decode (bs : List UInt8) : List Char :=
  decodeFrom none bs

/-- A byte order mark at the start is dropped. -/
def decodeSigned : List UInt8 → List Char
  | 0xEF :: 0xBB :: 0xBF :: bs => decode bs
  | bs => decode bs

end Utf8

end PageAudit.Charset
