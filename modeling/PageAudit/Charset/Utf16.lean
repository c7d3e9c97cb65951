import PageAudit.Charset.Utf8

/-!
# Decoding UTF-16

A surrogate without its partner becomes `U+FFFD`, and so does whatever the end of the bytes cuts
short.
-/

namespace PageAudit.Charset.Utf16

/-- Which of the bytes of a number comes first: the one of least weight, or that of most. -/
inductive Order where
  | little
  | big
  deriving DecidableEq, Repr

/-- The number of two bytes, in the order in which they stand. -/
def Order.unit (o : Order) (a b : UInt8) : Nat :=
  match o with
  | little => b.toNat * 256 + a.toNat
  | big => a.toNat * 256 + b.toNat

/-- The first of two surrogates. -/
def isHigh (u : Nat) : Bool :=
  0xD800 ≤ u && u < 0xDC00

/-- The second of two surrogates. -/
def isLow (u : Nat) : Bool :=
  0xDC00 ≤ u && u < 0xE000

/-- The characters of bytes without a mark. What breaks off a pair of surrogates is read afresh. -/
def decode (o : Order) : List UInt8 → List Char
  | [] => []
  | [_] => [replacement]
  | a :: b :: bs =>
    let u := o.unit a b
    if isHigh u then
      match bs with
      | c :: d :: ds =>
        if isLow (o.unit c d) then
          Char.ofNat (0x10000 + (u - 0xD800) * 1024 + (o.unit c d - 0xDC00)) :: decode o ds
        else replacement :: decode o (c :: d :: ds)
      | _ => [replacement]
    else if isLow u then replacement :: decode o bs
    else Char.ofNat u :: decode o bs

/-- A byte order mark decides and is dropped; without one the low byte comes first. -/
def decodeMarked : List UInt8 → List Char
  | 0xFF :: 0xFE :: bs => decode .little bs
  | 0xFE :: 0xFF :: bs => decode .big bs
  | bs => decode .little bs

end PageAudit.Charset.Utf16
