import PageAudit.Charset.Utf16

/-!
# Decoding UTF-32

Four bytes make a number. One that is no character becomes `U+FFFD`, and so does what is left of a
number at the end of the bytes.
-/

namespace PageAudit.Charset.Utf32

open Utf16 (Order)

/-- The number that four bytes make. -/
def number (o : Order) (a b c d : UInt8) : Nat :=
  match o with
  | .little => o.unit c d * 0x10000 + o.unit a b
  | .big => o.unit a b * 0x10000 + o.unit c d

/-- The characters of bytes whose order is known. -/
def decode (o : Order) : List UInt8 → List Char
  | [] => []
  | a :: b :: c :: d :: bs => charOrReplacement (number o a b c d) :: decode o bs
  | _ => [replacement]

/-- A byte order mark decides and is dropped; without one the low byte comes first. -/
def decodeMarked : List UInt8 → List Char
  | 0xFF :: 0xFE :: 0x00 :: 0x00 :: bs => decode .little bs
  | 0x00 :: 0x00 :: 0xFE :: 0xFF :: bs => decode .big bs
  | bs => decode .little bs

end PageAudit.Charset.Utf32
