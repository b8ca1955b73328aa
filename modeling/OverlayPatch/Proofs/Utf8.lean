import OverlayPatch.Text.Utf8
import Mathlib.Data.List.Basic

/-!
# Text through UTF-8 and back

Decoding is written as a machine that reads byte by byte and keeps what a lead byte has announced.
`decodeFrom_utf8EncodeChar` runs it over the bytes of one character, one case for each number of
bytes; `decode_encode` follows by induction over the text.
-/

namespace OverlayPatch.Text.Utf8

set_option autoImplicit false

/-! ## Bytes of a text -/

theorem toList_loop (bytes : ByteArray) (i : Nat) (done : List UInt8) :
    ByteArray.toList.loop bytes i done = done.reverse ++ bytes.data.toList.drop i := by
  fun_induction ByteArray.toList.loop bytes i done with
  | case1 i done inside ih =>
      have bound : i < bytes.data.toList.length := by simpa using inside
      have here : bytes.get! i = bytes.data.toList[i] := by
        obtain ⟨data⟩ := bytes
        exact getElem!_pos data i inside
      rw [ih, List.drop_eq_getElem_cons bound, here]
      simp
  | case2 i done outside =>
      have short : bytes.data.toList.length ≤ i := by simpa using Nat.le_of_not_lt outside
      rw [List.drop_eq_nil_of_le short, List.append_nil]

/-- The bytes of a text are those of its characters. -/
theorem encode_eq (text : String) : encode text = text.toList.flatMap String.utf8EncodeChar := by
  rw [encode, String.toUTF8_eq_toByteArray, ← String.utf8Encode_toList, ByteArray.toList,
    toList_loop]
  simp [List.utf8Encode]

theorem encode_append (a b : String) : encode (a ++ b) = encode a ++ encode b := by
  simp [encode_eq]

/-! ## The machine -/

theorem toNat_ofNat {b : Nat} (small : b < 256) : (UInt8.ofNat b).toNat = b :=
  UInt8.toNat_ofNat_of_lt' small

/-- A byte within the bounds of a lead that is not the last of its character. -/
theorem decodeFrom_middle {lead : Lead} {b : Nat} (bytes : List UInt8) (more : lead.more ≠ 1)
    (low : lead.low ≤ b) (high : b ≤ lead.high) (small : b < 256) :
    decodeFrom (some lead) (UInt8.ofNat b :: bytes) =
      decodeFrom (some { more := lead.more - 1, bits := lead.bits * 64 + (b - 0x80) }) bytes := by
  rw [decodeFrom, toNat_ofNat small]
  simp only [if_neg (show ¬ (b < lead.low ∨ lead.high < b) by omega), if_neg more]

/-- The last byte of a character. -/
theorem decodeFrom_last {lead : Lead} {b : Nat} (bytes : List UInt8) (more : lead.more = 1)
    (low : lead.low ≤ b) (high : b ≤ lead.high) (small : b < 256) :
    decodeFrom (some lead) (UInt8.ofNat b :: bytes) =
      (decodeFrom none bytes).map (Char.ofNat (lead.bits * 64 + (b - 0x80)) :: ·) := by
  rw [decodeFrom, toNat_ofNat small]
  simp only [if_neg (show ¬ (b < lead.low ∨ lead.high < b) by omega), if_pos more]

theorem decodeFrom_lead {lead : Lead} {b : UInt8} (bytes : List UInt8) (found : lead? b = some lead)
    (more : lead.more ≠ 0) : decodeFrom none (b :: bytes) = decodeFrom (some lead) bytes := by
  rw [decodeFrom, found]
  simp only [if_neg more]

/-- The lead of a character of two bytes. -/
theorem lead_two {v : Nat} (low : 0x7f < v) (high : v ≤ 0x7ff) :
    lead? (UInt8.ofNat (v / 64 % 0x20 + 0xc0)) = some { more := 1, bits := v / 64 } := by
  unfold lead?
  rw [toNat_ofNat (by omega)]
  dsimp only
  rw [if_neg (by omega), if_pos (by omega), show v / 64 % 0x20 + 0xc0 - 0xC0 = v / 64 by omega]

/-- The lead of a character of three bytes allows for its second byte. -/
theorem lead_three {v : Nat} (low : 0x7ff < v) (high : v ≤ 0xffff)
    (valid : v < 0xd800 ∨ 0xdfff < v) :
    ∃ lead, lead? (UInt8.ofNat (v / 4096 % 0x10 + 0xe0)) = some lead ∧ lead.more = 2 ∧
      lead.bits = v / 4096 ∧ lead.low ≤ v / 64 % 0x40 + 0x80 ∧
      v / 64 % 0x40 + 0x80 ≤ lead.high := by
  unfold lead?
  rw [toNat_ofNat (by omega)]
  dsimp only
  rw [if_neg (by omega), if_neg (by omega)]
  split
  · exact ⟨_, rfl, rfl, by dsimp only; omega, by dsimp only; omega, by dsimp only; omega⟩
  · split
    · exact ⟨_, rfl, rfl, by dsimp only; omega, by dsimp only; omega, by dsimp only; omega⟩
    · rw [if_pos (by omega)]
      exact ⟨_, rfl, rfl, by dsimp only; omega, by dsimp only; omega, by dsimp only; omega⟩

/-- The lead of a character of four bytes allows for its second byte. -/
theorem lead_four {v : Nat} (low : 0xffff < v) (high : v < 0x110000) :
    ∃ lead, lead? (UInt8.ofNat (v / 262144 % 0x08 + 0xf0)) = some lead ∧ lead.more = 3 ∧
      lead.bits = v / 262144 ∧ lead.low ≤ v / 4096 % 0x40 + 0x80 ∧
      v / 4096 % 0x40 + 0x80 ≤ lead.high := by
  unfold lead?
  rw [toNat_ofNat (by omega)]
  dsimp only
  rw [if_neg (by omega), if_neg (by omega), if_neg (by omega), if_neg (by omega), if_neg (by omega)]
  split
  · exact ⟨_, rfl, rfl, by dsimp only; omega, by dsimp only; omega, by dsimp only; omega⟩
  · split
    · exact ⟨_, rfl, rfl, by dsimp only; omega, by dsimp only; omega, by dsimp only; omega⟩
    · rw [if_pos (by omega)]
      exact ⟨_, rfl, rfl, by dsimp only; omega, by dsimp only; omega, by dsimp only; omega⟩

/-! ## A character, and a text -/

section Character

variable {v : Nat} (bytes : List UInt8)

theorem decodeFrom_one (high : v ≤ 0x7f) :
    decodeFrom none (UInt8.ofNat v :: bytes) = (decodeFrom none bytes).map (Char.ofNat v :: ·) := by
  have found : lead? (UInt8.ofNat v) = some { more := 0, bits := v } := by
    unfold lead?
    rw [toNat_ofNat (by omega)]
    exact if_pos (by omega)
  rw [decodeFrom, found]
  rfl

theorem decodeFrom_two (low : 0x7f < v) (high : v ≤ 0x7ff) :
    decodeFrom none (UInt8.ofNat (v / 64 % 0x20 + 0xc0) :: UInt8.ofNat (v % 0x40 + 0x80) :: bytes) =
      (decodeFrom none bytes).map (Char.ofNat v :: ·) := by
  rw [decodeFrom_lead _ (lead_two low high) Nat.one_ne_zero,
    decodeFrom_last bytes rfl (by dsimp only; omega) (by dsimp only; omega) (by omega)]
  dsimp only
  rw [show v / 64 * 64 + (v % 0x40 + 0x80 - 0x80) = v by omega]

/-- A character of three bytes, which is no half of a pair. -/
theorem decodeFrom_three (low : 0x7ff < v) (high : v ≤ 0xffff) (valid : v < 0xd800 ∨ 0xdfff < v) :
    decodeFrom none (UInt8.ofNat (v / 4096 % 0x10 + 0xe0) :: UInt8.ofNat (v / 64 % 0x40 + 0x80) ::
      UInt8.ofNat (v % 0x40 + 0x80) :: bytes) =
        (decodeFrom none bytes).map (Char.ofNat v :: ·) := by
  obtain ⟨lead, found, more, bits, least, most⟩ := lead_three low high valid
  rw [decodeFrom_lead _ found (by omega),
    decodeFrom_middle _ (by omega) least most (by omega),
    decodeFrom_last bytes (by dsimp only; omega) (by dsimp only; omega) (by dsimp only; omega)
      (by omega)]
  dsimp only
  rw [bits, show (v / 4096 * 64 + (v / 64 % 0x40 + 0x80 - 0x80)) * 64 +
    (v % 0x40 + 0x80 - 0x80) = v by omega]

theorem decodeFrom_four (low : 0xffff < v) (high : v < 0x110000) :
    decodeFrom none (UInt8.ofNat (v / 262144 % 0x08 + 0xf0) ::
      UInt8.ofNat (v / 4096 % 0x40 + 0x80) :: UInt8.ofNat (v / 64 % 0x40 + 0x80) ::
      UInt8.ofNat (v % 0x40 + 0x80) :: bytes) =
        (decodeFrom none bytes).map (Char.ofNat v :: ·) := by
  obtain ⟨lead, found, more, bits, least, most⟩ := lead_four low high
  rw [decodeFrom_lead _ found (by omega),
    decodeFrom_middle _ (by omega) least most (by omega),
    decodeFrom_middle _ (by dsimp only; omega) (by dsimp only; omega) (by dsimp only; omega)
      (by omega),
    decodeFrom_last bytes (by dsimp only; omega) (by dsimp only; omega) (by dsimp only; omega)
      (by omega)]
  dsimp only
  rw [bits, show ((v / 262144 * 64 + (v / 4096 % 0x40 + 0x80 - 0x80)) * 64 +
    (v / 64 % 0x40 + 0x80 - 0x80)) * 64 + (v % 0x40 + 0x80 - 0x80) = v by omega]

end Character

/-- The bytes of a character are read as that character. -/
theorem decodeFrom_utf8EncodeChar (c : Char) (bytes : List UInt8) :
    decodeFrom none (String.utf8EncodeChar c ++ bytes) = (decodeFrom none bytes).map (c :: ·) := by
  have valid : c.val.toNat < 0xd800 ∨ 0xdfff < c.val.toNat ∧ c.val.toNat < 0x110000 := c.valid
  have same : Char.ofNat c.val.toNat = c := Char.ofNat_toNat c
  unfold String.utf8EncodeChar
  generalize c.val.toNat = v at valid same ⊢
  subst same
  dsimp only
  split
  case isTrue one => exact decodeFrom_one bytes one
  split
  case isTrue two => exact decodeFrom_two bytes (by omega) two
  split
  case isTrue three => exact decodeFrom_three bytes (by omega) three (by omega)
  case isFalse => exact decodeFrom_four bytes (by omega) (by omega)

/-- Characters are decoded one after the other. -/
theorem decode_flatMap (text : List Char) :
    decode (text.flatMap String.utf8EncodeChar) = .ok text := by
  induction text with
  | nil => rfl
  | cons c text ih =>
      rw [List.flatMap_cons, decode, decodeFrom_utf8EncodeChar]
      rw [decode] at ih
      rw [ih]
      rfl

/-- Every text is read back from its bytes. -/
theorem decode_encode (text : String) : decode (encode text) = .ok text.toList := by
  rw [encode_eq, decode_flatMap]

end OverlayPatch.Text.Utf8
