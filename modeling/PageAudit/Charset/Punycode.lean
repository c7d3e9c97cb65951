import PageAudit.Charset.Utf8

/-!
# Decoding Punycode

The bytes before the last dash are characters of ASCII. Those behind it are digits, and make
numbers of which each says what character to put in next, and where. Without a dash all of them are
digits. Reading ends at the first byte that is no digit, with the characters put in so far.
-/

namespace PageAudit.Charset.Punycode

/-- The byte that parts the characters from the digits. -/
def dash : UInt8 := 0x2D

/-- The bytes behind the last dash, or all. -/
def tail (bs : List UInt8) : List UInt8 :=
  (bs.reverse.takeWhile (· != dash)).reverse

/-- The bytes before the last dash, if there is one. -/
def head (bs : List UInt8) : List UInt8 :=
  ((bs.reverse.dropWhile (· != dash)).drop 1).reverse

/-- The value of a digit: that of a letter, in either case, is less than that of a numeral. -/
def digit? (b : UInt8) : Option Nat :=
  let n := b.toNat
  if 0x41 ≤ n && n ≤ 0x5A then some (n - 0x41)
  else if 0x61 ≤ n && n ≤ 0x7A then some (n - 0x61)
  else if 0x30 ≤ n && n ≤ 0x39 then some (n - 0x30 + 26)
  else none

/-- A digit below this is the last one of its number. -/
def threshold (place bias : Nat) : Nat :=
  min 26 (max 1 (36 * (place + 1) - bias))

/-- Reads a number, the digit of least weight first. `sum` is what the digits so far come to. -/
def number? (bias place weight sum : Nat) : List UInt8 → Option (Nat × List UInt8)
  | [] => none
  | b :: bs =>
    match digit? b with
    | none => none
    | some d =>
      let t := threshold place bias
      if d < t then some (sum + d * weight, bs)
      else number? bias (place + 1) (weight * (36 - t)) (sum + d * weight) bs

/-- Scales a number down until it is small; `bias` grows with every step. -/
def adaptFrom (bias delta : Nat) : Nat :=
  if 455 < delta then adaptFrom (bias + 36) (delta / 35)
  else bias + 36 * delta / (delta + 38)
termination_by delta

/-- The bias for the next number, after `delta` has brought the characters to `count`. -/
def adapt (delta count : Nat) (first : Bool) : Nat :=
  let delta := if first then delta / 700 else delta / 2
  adaptFrom 0 (delta + delta / count)

/-- How far the decoder has come: the number of the last character, the place of the next, the
bias, and whether anything has been put in yet. -/
structure State where
  code : Nat := 0x80
  place : Nat := 0
  bias : Nat := 72
  first : Bool := true

/-- A number beyond all characters puts in a question mark, and counting goes on from there. -/
def State.next (s : State) (count delta : Nat) : State :=
  let code := s.code + (s.place + delta) / (count + 1)
  { code := if code ≤ 0x10FFFF then code else '?'.toNat
    place := (s.place + delta) % (count + 1) + 1
    bias := adapt delta (count + 1) s.first
    first := false }

theorem length_of_number? {bias : Nat} :
    ∀ {bs rest : List UInt8} {place weight sum n : Nat},
      number? bias place weight sum bs = some (n, rest) → rest.length < bs.length
  | b :: bs, rest, place, weight, sum, n, h => by
    simp only [number?] at h
    split at h
    · cases h
    · split at h
      · cases h
        exact Nat.lt_succ_self _
      · exact Nat.lt_succ_of_lt (length_of_number? h)

/-- Puts the characters that digits stand for into a text. A surrogate, which is no character, is
replaced. -/
def insertAll (s : State) (text : List Char) (digits : List UInt8) : List Char :=
  match _h : number? s.bias 0 1 0 digits with
  | none => text
  | some (delta, rest) =>
    let s := s.next text.length delta
    insertAll s (text.insertIdx (s.place - 1) (charOrReplacement s.code)) rest
termination_by digits.length
decreasing_by exact length_of_number? _h

/-- The characters of the bytes, if none of the digits is beyond ASCII; those before the last dash
that are beyond it are replaced. -/
def decode (bs : List UInt8) : List Char :=
  insertAll {} ((head bs).map fun b => if b < 0x80 then Char.ofNat b.toNat else replacement)
    (tail bs)

end PageAudit.Charset.Punycode
