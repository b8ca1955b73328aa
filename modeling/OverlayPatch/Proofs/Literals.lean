import OverlayPatch.Bytes.Base64
import OverlayPatch.Proofs.Numerals
import Mathlib

/-!
# Addresses and bytes as text

A document holds addresses in decimal and bytes in base64. Reading gives both back:
`Number.readInt_decimal` for every integer within the limit for decimal text, and
`Base64.decode_encode` for all bytes. What is written is made of *plain* characters only, a few of
ASCII that mean nothing else in a document.
-/

namespace OverlayPatch

set_option autoImplicit false

/-! ## Plain characters -/

/-- A letter or digit of ASCII, or one of the signs in decimal numbers and base64. -/
def isPlain (c : Char) : Bool :=
  c.isAlphanum || c == '+' || c == '/' || c == '=' || c == '-'

theorem toNat_lt_of_plain {c : Char} (plain : isPlain c = true) : c.toNat < 128 := by
  by_cases sign : c = '+' ∨ c = '/' ∨ c = '=' ∨ c = '-'
  · rcases sign with rfl | rfl | rfl | rfl <;> decide
  · simp only [not_or] at sign
    have letter : c.isAlphanum = true := by simpa [isPlain, sign] using plain
    simp only [Char.isAlphanum, Char.isAlpha, Char.isUpper, Char.isLower, Char.isDigit,
      Bool.or_eq_true, Bool.and_eq_true, decide_eq_true_eq, ge_iff_le,
      UInt32.le_iff_toNat_le] at letter
    change (((65 ≤ c.toNat ∧ c.toNat ≤ 90) ∨ (97 ≤ c.toNat ∧ c.toNat ≤ 122)) ∨
      (48 ≤ c.toNat ∧ c.toNat ≤ 57)) at letter
    omega

/-- What holds of the ASCII characters, one by one, holds of a plain one. -/
theorem of_plain {p : Char → Prop} {c : Char} (plain : isPlain c = true)
    (each : ∀ n < 128, isPlain (Char.ofNat n) = true → p (Char.ofNat n)) : p c := by
  have same : Char.ofNat c.toNat = c := Char.ofNat_toNat c
  rw [← same] at plain ⊢
  exact each c.toNat (toNat_lt_of_plain (same ▸ plain)) plain

namespace Number

/-! ## Decimal numbers -/

theorem digitIn?_digitChar : ∀ d < 10, digitIn? 10 d.digitChar = some d := by decide

theorem digitsValue_snoc {base d : Nat} {c : Char} (digit : digitIn? base c = some d)
    (cs : List Char) : digitsValue base (cs ++ [c]) = digitsValue base cs * base + d := by
  simp [digitsValue, digit]

/-- Decimal digits have the value of the number they were written for. -/
theorem digitsValue_decimalDigits (n : Nat) : digitsValue 10 (decimalDigits n) = n := by
  induction n using Nat.strongRecOn with
  | ind n ih =>
      unfold decimalDigits
      rw [Nat.toDigits_eq_if (by decide)]
      split
      · rename_i small
        exact digitsValue_snoc (digitIn?_digitChar n small) [] |>.trans (by simp [digitsValue])
      · rename_i large
        have last := digitIn?_digitChar (n % 10) (Nat.mod_lt n (by decide))
        rw [digitsValue_snoc last]
        have front := ih (n / 10) (by omega)
        unfold decimalDigits at front
        rw [front]
        omega

theorem isDigit_decimalDigits {n : Nat} {c : Char} (member : c ∈ decimalDigits n) :
    c.isDigit = true :=
  Nat.isDigit_of_mem_toDigits (by decide) (by decide) member

theorem plain_of_isDigit {c : Char} (digit : c.isDigit = true) : isPlain c = true := by
  simp [isPlain, Char.isAlphanum, digit]

theorem digitIn?_of_isDigit {c : Char} (digit : c.isDigit = true) :
    (digitIn? 10 c).isSome = true :=
  of_plain (p := fun c => c.isDigit = true → (digitIn? 10 c).isSome = true)
    (plain_of_isDigit digit) (by decide) digit

theorem decimal_eq (n : Int) :
    decimal n = if n < 0 then '-' :: decimalDigits n.natAbs else decimalDigits n.natAbs := by
  simp [decimal, padSigned, padZeros]

theorem decimal_plain (n : Int) : ∀ c ∈ decimal n, isPlain c = true := by
  have digits : ∀ c ∈ decimalDigits n.natAbs, isPlain c = true :=
    fun c member => plain_of_isDigit (isDigit_decimalDigits member)
  rw [decimal_eq]
  split
  · exact List.forall_mem_cons.mpr ⟨rfl, digits⟩
  · exact digits

theorem decimalDigits_ne_nil (n : Nat) : decimalDigits n ≠ [] :=
  List.length_pos_iff.mp Nat.length_toDigits_pos

/-- A magnitude is written as a numeral that denotes it. -/
theorem numeral_decimalDigits (n : Nat) :
    ∃ ds, Numeral 10 (decimalDigits n) ds ∧ ds.length ≤ (decimalDigits n).length ∧
      denoted 10 ds = n := by
  refine ⟨_, numeral_of_digits ?_ (decimalDigits_ne_nil n), List.length_filterMap_le _ _, ?_⟩
  · exact fun c member => digitIn?_of_isDigit (isDigit_decimalDigits member)
  · rw [← digitsValue_eq, digitsValue_decimalDigits]

/-- Every integer within the limit is read back from its decimal text. -/
theorem readInt_decimal {n : Int} (short : (decimalDigits n.natAbs).length ≤ decimalLimit) :
    readInt .decimal (String.ofList (decimal n)) = .ok n := by
  obtain ⟨ds, numeral, fewer, value⟩ := numeral_decimalDigits n.natAbs
  have unsigned := Unsigned.decimal numeral (fewer.trans short)
  rw [value] at unsigned
  rw [decimal_eq]
  exact unsigned.signed.read

end Number

namespace Bytes.Base64

/-! ## Base64 -/

/-- Symbols of base64 stand for their bits, and none is the padding. -/
theorem symbol_facts :
    ∀ v < 64, bits? (symbol v) = some v ∧ symbol v ≠ '=' ∧ isPlain (symbol v) = true := by decide

/-- A character of the alphabet adds its bits, whatever came before. -/
theorem decodeFrom_symbol {v : Nat} (small : v < 64) (pending : Pending) (pads seen : Nat)
    (cs : List Char) :
    decodeFrom pending pads seen (symbol v :: cs) =
      (decodeFrom (pending.add v).2 0 (seen + 1) cs).map ((pending.add v).1.toList ++ ·) := by
  obtain ⟨bits, notPad, -⟩ := symbol_facts v small
  cases pending <;> rw [decodeFrom, if_neg notPad, bits]

theorem ofNat_eq_of_toNat {byte : UInt8} {n : Nat} (same : n = byte.toNat) :
    UInt8.ofNat n = byte := by
  rw [same, UInt8.ofNat_toNat]

/-- Groups of three bytes are read back one after the other. -/
theorem decodeFrom_encode (bytes : List UInt8) (pads seen : Nat) :
    decodeFrom .nothing pads seen (encode bytes) = .ok bytes := by
  fun_induction encode bytes generalizing pads seen with
  | case1 => rfl
  | case2 a n =>
      have small : n < 256 := a.toNat_lt
      have first : UInt8.ofNat (n / 4 * 4 + n % 4 * 16 / 16) = a := ofNat_eq_of_toNat (by omega)
      rw [decodeFrom_symbol (by omega), decodeFrom_symbol (by omega)]
      simp only [Pending.add, first]
      rfl
  | case3 a b n m =>
      have small : n < 256 := a.toNat_lt
      have small' : m < 256 := b.toNat_lt
      have first : UInt8.ofNat (n / 4 * 4 + (n % 4 * 16 + m / 16) / 16) = a :=
        ofNat_eq_of_toNat (by omega)
      have second : UInt8.ofNat ((n % 4 * 16 + m / 16) % 16 * 16 + m % 16 * 4 / 4) = b :=
        ofNat_eq_of_toNat (by omega)
      rw [decodeFrom_symbol (by omega), decodeFrom_symbol (by omega), decodeFrom_symbol (by omega)]
      simp only [Pending.add, first, second]
      rfl
  | case4 a b c bytes n m k ih =>
      have small : n < 256 := a.toNat_lt
      have small' : m < 256 := b.toNat_lt
      have small'' : k < 256 := c.toNat_lt
      have first : UInt8.ofNat (n / 4 * 4 + (n % 4 * 16 + m / 16) / 16) = a :=
        ofNat_eq_of_toNat (by omega)
      have second :
          UInt8.ofNat ((n % 4 * 16 + m / 16) % 16 * 16 + (m % 16 * 4 + k / 64) / 4) = b :=
        ofNat_eq_of_toNat (by omega)
      have third : UInt8.ofNat ((m % 16 * 4 + k / 64) % 4 * 64 + k % 64) = c :=
        ofNat_eq_of_toNat (by omega)
      rw [decodeFrom_symbol (by omega), decodeFrom_symbol (by omega), decodeFrom_symbol (by omega),
        decodeFrom_symbol (by omega)]
      simp only [Pending.add, first, second, third, ih]
      rfl

theorem encode_plain (bytes : List UInt8) : ∀ c ∈ encode bytes, isPlain c = true := by
  have symbols : ∀ v < 64, isPlain (symbol v) = true := fun v small => (symbol_facts v small).2.2
  have pad : isPlain '=' = true := rfl
  fun_induction encode bytes with
  | case1 => simp
  | case2 a n =>
      have small : n < 256 := a.toNat_lt
      simp [symbols (n / 4) (by omega), symbols (n % 4 * 16) (by omega), pad]
  | case3 a b n m =>
      have small : n < 256 := a.toNat_lt
      have small' : m < 256 := b.toNat_lt
      simp [symbols (n / 4) (by omega), symbols (n % 4 * 16 + m / 16) (by omega),
        symbols (m % 16 * 4) (by omega), pad]
  | case4 a b c bytes n m k ih =>
      have small : n < 256 := a.toNat_lt
      have small' : m < 256 := b.toNat_lt
      have small'' : k < 256 := c.toNat_lt
      simpa [symbols (n / 4) (by omega), symbols (n % 4 * 16 + m / 16) (by omega),
        symbols (m % 16 * 4 + k / 64) (by omega), symbols (k % 64) (by omega)] using ih

/-- All bytes are read back from their base64 text. -/
theorem decode_encode (bytes : List UInt8) : decode (String.ofList (encode bytes)) = .ok bytes := by
  have ascii : (encode bytes).all (fun c => c.toNat < 128) = true :=
    List.all_eq_true.mpr fun c member =>
      decide_eq_true (toNat_lt_of_plain (encode_plain bytes c member))
  rw [decode, String.toList_ofList, if_pos ascii]
  exact decodeFrom_encode bytes 0 0

end Bytes.Base64

end OverlayPatch
