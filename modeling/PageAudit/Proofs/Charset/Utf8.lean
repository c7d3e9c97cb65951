import Mathlib.Data.List.Basic
import PageAudit.Charset.Decoding

/-!
# Text in UTF-8 is read back

The bytes that a character has in UTF-8 take the decoder through a character that has begun and back
to where it started, with that character and no other (`Utf8.decodeFrom_utf8EncodeChar`). The bounds
on the second byte are met because a character is no surrogate and not beyond `U+10FFFF`, and
because it is written in no more bytes than it needs. Decoding the bytes of a text therefore gives
the text (`Utf8.decode_toUTF8`), a byte order mark at its start included.
-/

namespace PageAudit.Charset

theorem toList_loop_eq (bs : ByteArray) :
    ∀ (left i : Nat) (r : List UInt8), bs.size - i = left →
      ByteArray.toList.loop bs i r = r.reverse ++ bs.data.toList.drop i
  | 0, i, r, h => by
    have hlength : bs.data.toList.length ≤ i := by
      simpa using Nat.sub_eq_zero_iff_le.mp h
    rw [ByteArray.toList.loop, if_neg (by omega), List.drop_eq_nil_of_le hlength, List.append_nil]
  | left + 1, i, r, h => by
    have hlt : i < bs.data.toList.length := by
      change i < bs.size
      omega
    have hget : bs.get! i = bs.data.toList[i] := getElem!_pos bs.data i hlt
    rw [ByteArray.toList.loop, if_pos (by omega), toList_loop_eq bs left _ _ (by omega),
      List.drop_eq_getElem_cons hlt, hget, List.reverse_cons, List.append_assoc,
      List.singleton_append]

/-- The bytes of a text are those of its characters. -/
theorem toList_toUTF8 (s : String) : s.toUTF8.toList = s.toList.flatMap String.utf8EncodeChar := by
  rw [String.toUTF8_eq_toByteArray, ← String.utf8Encode_toList, List.utf8Encode, ByteArray.toList,
    toList_loop_eq _ _ _ _ rfl, List.toList_data_toByteArray, List.reverse_nil, List.nil_append,
    List.drop_zero]

namespace Utf8

/-- A byte after the first, with the last six bits of a number. -/
def tail (n : Nat) : UInt8 :=
  .ofNat (n % 64 + 0x80)

theorem toNat_tail (n : Nat) : (tail n).toNat = n % 64 + 0x80 :=
  UInt8.toNat_ofNat_of_lt' (by change _ < 256; omega)

/-! ## First bytes -/

theorem lead_one : ∀ n < 0x80, lead (.ofNat n) = .char (.ofNat n) := by
  decide

theorem lead_two : ∀ n < 0x20, 2 ≤ n → lead (.ofNat (n + 0xC0)) = .pending ⟨n, 1, 0x80, 0xBF⟩ := by
  decide

theorem lead_three : ∀ n < 0x10,
    lead (.ofNat (n + 0xE0))
      = .pending ⟨n, 2, if n = 0 then 0xA0 else 0x80, if n = 0xD then 0x9F else 0xBF⟩ := by
  decide

theorem lead_four : ∀ n < 5,
    lead (.ofNat (n + 0xF0))
      = .pending ⟨n, 3, if n = 0 then 0x90 else 0x80, if n = 4 then 0x8F else 0xBF⟩ := by
  decide

/-! ## Characters -/

variable {bits left low high n : Nat} (bs : List UInt8)

theorem decodeFrom_lead {b : UInt8} {p : Pending} (h : lead b = .pending p) :
    decodeFrom none (b :: bs) = decodeFrom (some p) bs := by
  simp only [decodeFrom, h]

theorem accepts_tail (hlow : low ≤ n % 64 + 0x80) (hhigh : n % 64 + 0x80 ≤ high) :
    Pending.accepts ⟨bits, left, low, high⟩ (tail n) := by
  rw [Pending.accepts, toNat_tail, Bool.and_eq_true]
  exact ⟨decide_eq_true hlow, decide_eq_true hhigh⟩

theorem bitsWith_tail (p : Pending) : p.bitsWith (tail n) = p.bits * 64 + n % 64 := by
  have hbits : p.bitsWith (tail n) = p.bits * 64 + ((tail n).toNat - 0x80) := rfl
  rw [hbits, toNat_tail, Nat.add_sub_cancel]

theorem decodeFrom_tail (hlow : low ≤ n % 64 + 0x80) (hhigh : n % 64 + 0x80 ≤ high) :
    decodeFrom (some ⟨bits, left + 2, low, high⟩) (tail n :: bs)
      = decodeFrom (some ⟨bits * 64 + n % 64, left + 1, 0x80, 0xBF⟩) bs := by
  rw [decodeFrom, if_pos (accepts_tail hlow hhigh), if_neg (by simp), bitsWith_tail]
  rfl

theorem decodeFrom_last (hlow : low ≤ n % 64 + 0x80) (hhigh : n % 64 + 0x80 ≤ high) :
    decodeFrom (some ⟨bits, 1, low, high⟩) (tail n :: bs)
      = .ofNat (bits * 64 + n % 64) :: decodeFrom none bs := by
  rw [decodeFrom, if_pos (accepts_tail hlow hhigh), if_pos rfl, bitsWith_tail]

theorem decodeFrom_utf8EncodeChar (c : Char) :
    decodeFrom none (String.utf8EncodeChar c ++ bs) = c :: decodeFrom none bs := by
  obtain ⟨n, hn⟩ : ∃ n, c.toNat = n := ⟨_, rfl⟩
  have hvalid : n < 0xD800 ∨ 0xDFFF < n ∧ n < 0x110000 := hn ▸ c.valid
  have hval : c.val.toNat = n := hn
  have hchar : Char.ofNat n = c := hn ▸ Char.ofNat_toNat c
  simp only [String.utf8EncodeChar, hval]
  split_ifs with h1 h2 h3
  · simp only [List.singleton_append, decodeFrom, lead_one n (by omega), hchar]
  · change decodeFrom none (.ofNat (n / 64 % 32 + 0xC0) :: tail n :: bs) = _
    have hbits : n / 64 % 32 * 64 + n % 64 = n := by omega
    rw [decodeFrom_lead _ (lead_two _ (by omega) (by omega)),
      decodeFrom_last _ (by omega) (by omega), hbits, hchar]
  · change decodeFrom none (.ofNat (n / 4096 % 16 + 0xE0) :: tail (n / 64) :: tail n :: bs) = _
    have hbits : (n / 4096 % 16 * 64 + n / 64 % 64) * 64 + n % 64 = n := by omega
    rw [decodeFrom_lead _ (lead_three _ (by omega)),
      decodeFrom_tail _ (by split_ifs <;> omega) (by split_ifs <;> omega),
      decodeFrom_last _ (by omega) (by omega), hbits, hchar]
  · change decodeFrom none (.ofNat (n / 262144 % 8 + 0xF0) :: tail (n / 4096) :: tail (n / 64)
      :: tail n :: bs) = _
    have hbits : ((n / 262144 % 8 * 64 + n / 4096 % 64) * 64 + n / 64 % 64) * 64 + n % 64 = n := by
      omega
    rw [decodeFrom_lead _ (lead_four _ (by omega)),
      decodeFrom_tail _ (by split_ifs <;> omega) (by split_ifs <;> omega),
      decodeFrom_tail _ (by omega) (by omega), decodeFrom_last _ (by omega) (by omega), hbits,
      hchar]

theorem decode_flatMap_utf8EncodeChar :
    ∀ s : List Char, decode (s.flatMap String.utf8EncodeChar) = s
  | [] => rfl
  | c :: s => by
    rw [decode, List.flatMap_cons, decodeFrom_utf8EncodeChar, ← decode,
      decode_flatMap_utf8EncodeChar s]

theorem decode_toUTF8 (s : String) : decode s.toUTF8.toList = s.toList := by
  rw [toList_toUTF8, decode_flatMap_utf8EncodeChar]

end Utf8

end PageAudit.Charset
