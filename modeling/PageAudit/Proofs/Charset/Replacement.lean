import Mathlib.Algebra.Group.Nat.Defs
import PageAudit.Proofs.Audit.Encoding
import PageAudit.Proofs.Charset.Refusal

/-!
# What cannot be decoded takes nothing with it

A character that has begun in UTF-8 comes to a number in bounds that its first bytes have set
(`Utf8.Pending.IsSound`): whatever is accepted then, it is a character and none of ASCII. The bounds
hold at the start (`Utf8.lead_of_le`), they only narrow with every byte, and a byte below `80` is
never accepted. So the characters of ASCII that are decoded are the bytes below `80`, in order,
however malformed the bytes between them are (`Utf8.filter_decode`), and a page that is read as
UTF-8 has them all (`filter_decode_eq_asciiOf`).
-/

namespace PageAudit.Charset

/-- The bytes below `80`, as characters. -/
def asciiOf (bs : List UInt8) : List Char :=
  (bs.filter (· < 0x80)).map fun b => Char.ofNat b.toNat

theorem asciiOf_append (bs bs' : List UInt8) :
    asciiOf (bs ++ bs') = asciiOf bs ++ asciiOf bs' := by
  simp [asciiOf]

theorem length_asciiOf_le (bs : List UInt8) : (asciiOf bs).length ≤ bs.length := by
  rw [asciiOf, List.length_map]
  exact List.length_filter_le _ _

theorem toNat_ofNat {n : Nat} (h : n.isValidChar) : (Char.ofNat n).toNat = n := by
  rw [Char.ofNat, dif_pos h]
  rfl

theorem asciiOf_cons_of_lt {b : UInt8} (h : b.toNat < 0x80) (bs : List UInt8) :
    asciiOf (b :: bs) = Char.ofNat b.toNat :: asciiOf bs := by
  have hb : b < 0x80 := UInt8.lt_iff_toNat_lt.mpr h
  simp [asciiOf, hb]

theorem asciiOf_cons_of_le {b : UInt8} (h : 0x80 ≤ b.toNat) (bs : List UInt8) :
    asciiOf (b :: bs) = asciiOf bs := by
  have hb : ¬ b < 0x80 := fun hlt => absurd (UInt8.lt_iff_toNat_lt.mp hlt) (Nat.not_lt.mpr h)
  simp [asciiOf, hb]

namespace Utf8

/-! ## Characters that have begun -/

namespace Pending

/-- The least number that the character may come to. -/
def least (p : Pending) : Nat :=
  (p.bits * 64 + (p.low - 0x80)) * 64 ^ (p.left - 1)

/-- The least number beyond all that it may come to. -/
def limit (p : Pending) : Nat :=
  (p.bits * 64 + (p.high - 0x80) + 1) * 64 ^ (p.left - 1)

/-- Bytes are still to come, none of them below `80`, and whatever is accepted makes a character
outside ASCII. -/
structure IsSound (p : Pending) : Prop where
  left_pos : 0 < p.left
  low_ge : 0x80 ≤ p.low
  least_ge : 0x80 ≤ p.least
  isChar : p.limit ≤ 0xD800 ∨ 0xDFFF < p.least ∧ p.limit ≤ 0x110000

variable {p : Pending} {b : UInt8}

theorem accepts_iff : p.accepts b ↔ p.low ≤ b.toNat ∧ b.toNat ≤ p.high := by
  simp [accepts]

namespace IsSound

variable (h : p.IsSound) (hb : p.accepts b)

include h hb

theorem toNat_ge : 0x80 ≤ b.toNat :=
  Nat.le_trans h.low_ge (accepts_iff.mp hb).1

theorem bitsWith_bounds : p.bits * 64 + (p.low - 0x80) ≤ p.bitsWith b
    ∧ p.bitsWith b + 1 ≤ p.bits * 64 + (p.high - 0x80) + 1 := by
  have hbounds := accepts_iff.mp hb
  have hlow := h.low_ge
  unfold bitsWith
  omega

/-- The last byte completes a character outside ASCII. -/
theorem toNat_ofNat_bitsWith (hleft : p.left = 1) :
    0x80 ≤ (Char.ofNat (p.bitsWith b)).toNat := by
  obtain ⟨hlow, hhigh⟩ := h.bitsWith_bounds hb
  have hleast := h.least_ge
  have hchar := h.isChar
  simp only [least, limit, hleft, Nat.sub_self, Nat.pow_zero, Nat.mul_one] at hleast hchar
  have hvalid : (p.bitsWith b).isValidChar := by
    unfold Nat.isValidChar
    omega
  rw [toNat_ofNat hvalid]
  omega

/-- Every byte before the last narrows the bounds. -/
theorem next (hleft : p.left ≠ 1) : IsSound ⟨p.bitsWith b, p.left - 1, 0x80, 0xBF⟩ := by
  obtain ⟨hlow, hhigh⟩ := h.bitsWith_bounds hb
  obtain ⟨left, hleft⟩ : ∃ left, p.left = left + 2 :=
    ⟨p.left - 2, by have := h.left_pos; omega⟩
  have hleast : p.least ≤ p.bitsWith b * 64 ^ (left + 1) := by
    simpa [least, hleft] using Nat.mul_le_mul_right (64 ^ (left + 1)) hlow
  have hlimit : (p.bitsWith b + 1) * 64 ^ (left + 1) ≤ p.limit := by
    simpa [limit, hleft] using Nat.mul_le_mul_right (64 ^ (left + 1)) hhigh
  have hleast' : least ⟨p.bitsWith b, p.left - 1, 0x80, 0xBF⟩ = p.bitsWith b * 64 ^ (left + 1) := by
    simp [least, hleft, Nat.pow_succ', Nat.mul_assoc]
  have hlimit' : limit ⟨p.bitsWith b, p.left - 1, 0x80, 0xBF⟩
      = (p.bitsWith b + 1) * 64 ^ (left + 1) := by
    have hbits : p.bitsWith b * 64 + (0xBF - 0x80) + 1 = (p.bitsWith b + 1) * 64 := by omega
    simp only [limit, hleft, hbits, Nat.mul_assoc, ← Nat.pow_succ']
    rfl
  have hge := h.least_ge
  have hchar := h.isChar
  constructor
  · simp [hleft]
  · exact Nat.le_refl _
  · omega
  · omega

end IsSound

end Pending

/-! ## First bytes -/

theorem lead_of_lt {b : UInt8} (h : b.toNat < 0x80) : lead b = .char (.ofNat b.toNat) :=
  if_pos h

/-- The bounds of the second byte rule out numbers that could do with fewer bytes, surrogates and
what is beyond `U+10FFFF`. -/
theorem lead_of_le {b : UInt8} (h : 0x80 ≤ b.toNat) :
    lead b = .invalid ∨ ∃ p, lead b = .pending p ∧ p.IsSound := by
  fun_cases lead b
  · omega
  · exact .inl rfl
  iterate 7
    · refine .inr ⟨_, rfl, ?_⟩
      constructor <;> simp only [Pending.least, Pending.limit] <;> omega
  · exact .inl rfl

/-! ## Decoding -/

variable {p : Pending} {b : UInt8} {bs : List UInt8}

/-- A byte that is not accepted is read afresh. -/
theorem decodeFrom_of_not_accepts (h : ¬ p.accepts b) :
    decodeFrom (some p) (b :: bs) = replacement :: decodeFrom none (b :: bs) := by
  simp only [decodeFrom, h]
  rfl

theorem filter_cons_of_ge {c : Char} (h : 0x80 ≤ c.toNat) (s : List Char) :
    (c :: s).filter (·.toNat < 0x80) = s.filter (·.toNat < 0x80) :=
  List.filter_cons_of_neg (by simpa using h)

/-- From wherever the decoder stands, it gives the bytes below `80` and no other character of
ASCII. -/
theorem filter_decodeFrom :
    ∀ (bs : List UInt8) (o : Option Pending), (∀ p ∈ o, p.IsSound) →
      (decodeFrom o bs).filter (·.toNat < 0x80) = asciiOf bs
  | [], none, _ => rfl
  | [], some p, _ => filter_cons_of_ge (by decide) []
  | b :: bs, o, ho => by
    have hrest := filter_decodeFrom bs
    have hfresh : (decodeFrom none (b :: bs)).filter (·.toNat < 0x80) = asciiOf (b :: bs) := by
      by_cases hb : b.toNat < 0x80
      · have hchar : (Char.ofNat b.toNat).toNat < 0x80 := by
          rwa [toNat_ofNat (.inl (by omega))]
        rw [asciiOf_cons_of_lt hb, decodeFrom, lead_of_lt hb, List.filter_cons_of_pos (by simpa),
          hrest none (by simp)]
      · rw [asciiOf_cons_of_le (Nat.not_lt.mp hb), decodeFrom]
        rcases lead_of_le (Nat.not_lt.mp hb) with hlead | ⟨p, hlead, hp⟩
        · rw [hlead, filter_cons_of_ge (by decide), hrest none (by simp)]
        · rw [hlead, hrest (some p) (by simpa)]
    rcases o with _ | p
    · exact hfresh
    · have hp : p.IsSound := ho p rfl
      by_cases hb : p.accepts b
      · rw [asciiOf_cons_of_le (hp.toNat_ge hb), decodeFrom, if_pos hb]
        split
        · rw [filter_cons_of_ge (hp.toNat_ofNat_bitsWith hb ‹_›), hrest none (by simp)]
        · exact hrest (some _) (by simpa using hp.next hb ‹_›)
      · rw [decodeFrom_of_not_accepts hb, filter_cons_of_ge (by decide), hfresh]

theorem filter_decode (bs : List UInt8) :
    (decode bs).filter (·.toNat < 0x80) = asciiOf bs :=
  filter_decodeFrom bs none (by simp)

end Utf8

/-! ## Pages -/

/-- The label is looked up, and names no codec. -/
def IsUnheardOf (label : String) : Prop :=
  '\x00' ∉ label.toList ∧ lookup label = none

/-- Of a page that is read as UTF-8, because it says so or because what it says is unheard of, the
characters of ASCII are the bytes below `80`, every one of them and in order. -/
theorem filter_decode_eq_asciiOf {bs : List UInt8} (t : Tables)
    (h : detect bs = "utf-8" ∨ IsUnheardOf (detect bs)) :
    ∃ d, decode t bs = .ok d ∧ d.text.toList.filter (·.toNat < 0x80) = asciiOf bs := by
  have hdecode : ∃ log, decode t bs = .ok ⟨.ofList (Utf8.decode bs), log⟩ := by
    rcases h with h | ⟨hnull, hlookup⟩
    · exact ⟨_, decode_of_detect t h⟩
    · exact ⟨_, decodeAs_of_unknown hnull hlookup⟩
  obtain ⟨log, hdecode⟩ := hdecode
  refine ⟨_, hdecode, ?_⟩
  rw [String.toList_ofList, Utf8.filter_decode]

theorem isUnheardOf_utf9 : IsUnheardOf "utf-9" := by
  have hname : (lookupName? (normalize "utf-9")).isNone := by decide +kernel
  exact ⟨by decide, lookup_eq_none (Option.isNone_iff_eq_none.mp hname) (by decide +kernel)⟩

/-- Characters broken off before a quote, before a bracket and at the end, a long form of a slash
and half of a surrogate pair. -/
theorem filter_decode_brokenOff :
    let bs := "<meta charset=utf-9><p title=".toUTF8.toList
      ++ [0x22, 0xE2, 0x82, 0x22, 0xF0, 0x9F, 0x98, 0x3E, 0xC0, 0xAF, 0xED, 0xA0, 0x80, 0x3C, 0xF4]
    (detect bs = "utf-8" ∨ IsUnheardOf (detect bs))
      ∧ ∃ d, decode .bare bs = .ok d ∧ d.text.toList.filter (·.toNat < 0x80) = asciiOf bs := by
  intro bs
  have hlabel : detect bs = "utf-9" := by decide +kernel
  have hpage : detect bs = "utf-8" ∨ IsUnheardOf (detect bs) := .inr (hlabel ▸ isUnheardOf_utf9)
  exact ⟨hpage, filter_decode_eq_asciiOf .bare hpage⟩

end PageAudit.Charset
