import OverlayPatch.Proofs.Literals
import Mathlib

/-!
# Hexadecimal digits and their values

Addresses are written by `Number.hex` in upper case and filled up with zeros; where they are read,
letters of either case count. The two directions undo each other: digits in any case have the
value of the number they were made from (`digitsValue_of_hex`), and writing the value of some
digits gives them back in upper case (`hex_digitsValue`). Behind their mark they are a literal
whatever their length is (`unsigned_hex`).
-/

namespace OverlayPatch.Number

set_option autoImplicit false

def hexAlphabet : List Char :=
  ['0', '1', '2', '3', '4', '5', '6', '7', '8', '9', 'A', 'B', 'C', 'D', 'E', 'F', 'a', 'b', 'c',
    'd', 'e', 'f']

/-- What holds of each digit, tried one by one, holds of a digit. -/
theorem of_hexAlphabet (test : Char → Bool) (each : hexAlphabet.all test = true) {c : Char}
    (hex : c ∈ hexAlphabet) : test c = true :=
  List.all_eq_true.mp each c hex

/-- The value of a digit, and the one upper-case digit that has it. -/
theorem digitIn?_of_hex {c : Char} (hex : c ∈ hexAlphabet) :
    ∃ d < 16, digitIn? 16 c = some d ∧ digitIn? 16 c.toUpper = some d ∧
      c.toUpper = d.digitChar.toUpper := by
  have known := of_hexAlphabet (fun c => (List.range 16).any fun d =>
    digitIn? 16 c == some d && digitIn? 16 c.toUpper == some d && c.toUpper == d.digitChar.toUpper)
    (by decide) hex
  obtain ⟨d, small, facts⟩ := List.any_eq_true.mp known
  simp only [Bool.and_eq_true, beq_iff_eq] at facts
  exact ⟨d, List.mem_range.mp small, facts.1.1, facts.1.2, facts.2⟩

theorem digitChar_facts : ∀ d < 16, d.digitChar.toUpper ∈ hexAlphabet ∧
    d.digitChar.toUpper.toUpper = d.digitChar.toUpper := by decide

theorem digitIn?_upper : ∀ d < 16, digitIn? 16 d.digitChar.toUpper = some d := by decide

/-- Numbers are written in upper case. -/
theorem hexDigits_facts {n : Nat} {c : Char} (member : c ∈ hexDigits n) :
    c ∈ hexAlphabet ∧ c.toUpper = c := by
  induction n using Nat.strongRecOn with
  | ind n ih =>
      unfold hexDigits at member
      rw [Nat.toDigits_eq_if (by decide)] at member
      split at member
      · rename_i small
        obtain rfl : c = n.digitChar.toUpper := by simpa using member
        exact digitChar_facts n small
      · rename_i large
        rw [List.map_append, List.mem_append] at member
        rcases member with front | last
        · exact ih (n / 16) (by omega) front
        · obtain rfl : c = (n % 16).digitChar.toUpper := by simpa using last
          exact digitChar_facts (n % 16) (Nat.mod_lt n (by decide))

theorem padZeros_facts {width n : Nat} {c : Char} (member : c ∈ padZeros width (hexDigits n)) :
    c ∈ hexAlphabet ∧ c.toUpper = c := by
  rcases List.mem_append.mp member with zero | digit
  · rw [List.eq_of_mem_replicate zero]
    decide
  · exact hexDigits_facts digit

/-- An address is written with exactly eight digits, all in upper case. -/
theorem hex_facts {n : Int} (positive : 0 ≤ n) (small : n < addressLimit) :
    (hex 8 n).length = 8 ∧ (∀ c ∈ hex 8 n, c ∈ hexAlphabet) ∧
      (hex 8 n).map Char.toUpper = hex 8 n := by
  obtain ⟨n, rfl⟩ := Int.eq_ofNat_of_zero_le positive
  have few : (hexDigits n).length ≤ 8 := by
    rw [hexDigits, List.length_map, Nat.length_toDigits_le_iff (by decide) (by decide)]
    rw [addressLimit] at small
    omega
  rw [hex, padSigned, if_neg (by omega), Int.natAbs_natCast]
  refine ⟨?_, fun c member => (padZeros_facts member).1, ?_⟩
  · rw [padZeros, List.length_append, List.length_replicate]
    omega
  · exact (List.map_congr_left fun c member => (padZeros_facts member).2).trans (List.map_id' _)

/-! ## Reading what was written -/

/-- Case makes no difference to the value of digits. -/
theorem digitsValue_map_toUpper {cs : List Char} (hex : ∀ c ∈ cs, c ∈ hexAlphabet) :
    digitsValue 16 (cs.map Char.toUpper) = digitsValue 16 cs := by
  have same : (cs.map Char.toUpper).filterMap (digitIn? 16) = cs.filterMap (digitIn? 16) := by
    rw [List.filterMap_map]
    refine List.filterMap_congr fun c member => ?_
    obtain ⟨d, -, lower, upper, -⟩ := digitIn?_of_hex (hex c member)
    exact upper.trans lower.symm
  rw [digitsValue, digitsValue, same]

theorem digitsValue_zeros (base k : Nat) (positive : 0 < base) (cs : List Char) :
    digitsValue base (List.replicate k '0' ++ cs) = digitsValue base cs := by
  have zero : digitIn? base '0' = some 0 := by
    have value : digitValue? '0' = some 0 := by decide
    simp [digitIn?, value, positive]
  induction k with
  | zero => rfl
  | succ k ih =>
      rw [← ih, List.replicate_succ, List.cons_append]
      simp [digitsValue, zero]

/-- Digits have the value of the number they were written for. -/
theorem digitsValue_hexDigits (n : Nat) : digitsValue 16 (hexDigits n) = n := by
  induction n using Nat.strongRecOn with
  | ind n ih =>
      unfold hexDigits
      rw [Nat.toDigits_eq_if (by decide)]
      split
      · rename_i small
        exact digitsValue_snoc (digitIn?_upper n small) [] |>.trans (by simp [digitsValue])
      · rename_i large
        have last := digitIn?_upper (n % 16) (Nat.mod_lt n (by decide))
        have front := ih (n / 16) (by omega)
        unfold hexDigits at front
        rw [List.map_append, List.map_singleton, digitsValue_snoc last, front]
        omega

theorem hex_natCast (width n : Nat) : hex width (n : Int) = padZeros width (hexDigits n) := by
  rw [hex, padSigned, if_neg (by omega), Int.natAbs_natCast]

/-- However wide, a magnitude is written with digits only, and they have its value. -/
theorem hex_natCast_facts (width n : Nat) :
    (∀ c ∈ hex width (n : Int), c ∈ hexAlphabet) ∧ hex width (n : Int) ≠ [] ∧
      digitsValue 16 (hex width (n : Int)) = n := by
  rw [hex_natCast]
  refine ⟨fun c member => (padZeros_facts member).1, ?_, ?_⟩
  · simp [padZeros, hexDigits]
  · rw [padZeros, digitsValue_zeros 16 _ (by decide), digitsValue_hexDigits]

/-- Digits in any case have the value of the number they spell. -/
theorem digitsValue_of_hex {width : Nat} {n : Int} (positive : 0 ≤ n) {cs : List Char}
    (hex : ∀ c ∈ cs, c ∈ hexAlphabet) (spelled : cs.map Char.toUpper = Number.hex width n) :
    (digitsValue 16 cs : Int) = n := by
  obtain ⟨n, rfl⟩ := Int.eq_ofNat_of_zero_le positive
  rw [← digitsValue_map_toUpper hex, spelled, hex_natCast, padZeros,
    digitsValue_zeros 16 _ (by decide), digitsValue_hexDigits]

/-! ## Digits that denote a number -/

def upperHexAlphabet : List Char :=
  ['0', '1', '2', '3', '4', '5', '6', '7', '8', '9', 'A', 'B', 'C', 'D', 'E', 'F']

theorem mem_upperHexAlphabet {c : Char} (hex : c ∈ hexAlphabet) (upper : c.toUpper = c) :
    c ∈ upperHexAlphabet := by
  have known := of_hexAlphabet (fun c => upperHexAlphabet.contains c.toUpper) (by decide) hex
  rw [upper] at known
  simpa using known

/-- Only digits have digits for their upper case. -/
theorem mem_hexAlphabet_of_toUpper {c : Char} (upper : c.toUpper ∈ hexAlphabet) :
    c ∈ hexAlphabet := by
  by_cases small : c.toNat < 128
  · have each : ∀ k < 128, (Char.ofNat k).toUpper ∈ hexAlphabet → Char.ofNat k ∈ hexAlphabet := by
      decide
    have here := each c.toNat small
    rw [Char.ofNat_toNat] at here
    exact here upper
  · have same : c.toUpper = c := by
      rw [Char.toUpper, dif_neg]
      rintro ⟨-, high⟩
      change c.toNat ≤ 122 at high
      omega
    rwa [same] at upper

/-- The characters are upper-case digits of base sixteen, and they denote the number. -/
structure Spells (digits : List Char) (n : Int) : Prop where
  upper : ∀ c ∈ digits, c ∈ upperHexAlphabet
  value : (digitsValue 16 digits : Int) = n

/-- However large, a magnitude is spelled out, with no fewer digits than asked for. -/
theorem spells_hex (width : Nat) {n : Int} (positive : 0 ≤ n) :
    Spells (hex width n) n ∧ width ≤ (hex width n).length := by
  obtain ⟨n, rfl⟩ := Int.eq_ofNat_of_zero_le positive
  have value := (hex_natCast_facts width n).2.2
  rw [hex_natCast] at value ⊢
  refine ⟨⟨fun c member => ?_, by rw [value]⟩, ?_⟩
  · obtain ⟨hex, upper⟩ := padZeros_facts member
    exact mem_upperHexAlphabet hex upper
  · rw [padZeros, List.length_append, List.length_replicate]
    omega

/-! ## Writing what was read -/

theorem padZeros_snoc {width n d : Nat} (room : 0 < width) (small : d < 16) :
    padZeros (width + 1) (hexDigits (n * 16 + d)) =
      padZeros width (hexDigits n) ++ [d.digitChar.toUpper] := by
  cases n with
  | zero =>
      have zero : hexDigits 0 = ['0'] := by decide
      have one : hexDigits (0 * 16 + d) = [d.digitChar.toUpper] := by
        rw [hexDigits, Nat.zero_mul, Nat.zero_add, Nat.toDigits_of_lt_base small]
        rfl
      obtain ⟨k, rfl⟩ := Nat.exists_eq_succ_of_ne_zero (Nat.ne_of_gt room)
      rw [zero, one, padZeros, padZeros]
      simp [List.replicate_succ']
  | succ n =>
      have split : hexDigits ((n + 1) * 16 + d) = hexDigits (n + 1) ++ [d.digitChar.toUpper] := by
        have digits := Nat.toDigits_append_toDigits (b := 16) (by decide) n.succ_pos small
        rw [hexDigits, Nat.mul_comm, ← digits, Nat.toDigits_of_lt_base small, List.map_append]
        rfl
      rw [split, padZeros, padZeros, List.length_append, List.length_singleton,
        Nat.add_sub_add_right, List.append_assoc]

/-- Writing the value of some digits with as many places gives them back in upper case. -/
theorem hex_digitsValue {cs : List Char} (hex : ∀ c ∈ cs, c ∈ hexAlphabet) (filled : cs ≠ []) :
    Number.hex cs.length (digitsValue 16 cs : Int) = cs.map Char.toUpper := by
  rw [hex_natCast]
  -- The last digit is the value modulo sixteen, so the induction goes from the back.
  induction cs using List.reverseRecOn with
  | nil => exact absurd rfl filled
  | append_singleton cs c ih =>
      obtain ⟨d, small, value, -, upper⟩ := digitIn?_of_hex (hex c (by simp))
      rw [digitsValue_snoc value, List.length_append, List.length_singleton, List.map_append,
        List.map_singleton, upper]
      by_cases first : cs = []
      · subst first
        have one : hexDigits d = [d.digitChar.toUpper] := by
          rw [hexDigits, Nat.toDigits_of_lt_base small]
          rfl
        simp [digitsValue, one, padZeros]
      · rw [padZeros_snoc (List.length_pos_of_ne_nil first) small,
          ih (fun c member => hex c (by simp [member])) first]

theorem digitsValue_lt {cs : List Char} (hex : ∀ c ∈ cs, c ∈ hexAlphabet) :
    digitsValue 16 cs < 16 ^ cs.length := by
  induction cs using List.reverseRecOn with
  | nil => simp [digitsValue]
  | append_singleton cs c ih =>
      obtain ⟨d, small, value, -, -⟩ := digitIn?_of_hex (hex c (by simp))
      have front := ih fun c member => hex c (by simp [member])
      rw [digitsValue_snoc value, List.length_append, List.length_singleton, Nat.pow_succ]
      omega

/-! ## Literals -/

theorem hexDigits_ne_nil (n : Nat) : hexDigits n ≠ [] := by
  simp [hexDigits]

/-- Digits of base sixteen are a numeral that denotes their value. -/
theorem numeral_of_hex {digits : List Char} (hex : ∀ c ∈ digits, c ∈ hexAlphabet)
    (filled : digits ≠ []) :
    ∃ ds, Numeral 16 digits ds ∧ denoted 16 ds = digitsValue 16 digits := by
  refine ⟨_, numeral_of_digits (fun c member => ?_) filled, (digitsValue_eq 16 digits).symm⟩
  obtain ⟨d, -, value, -⟩ := digitIn?_of_hex (hex c member)
  rw [value]
  rfl

/-- Digits of base sixteen are a literal behind their mark, however many they are. -/
theorem unsigned_hex {digits : List Char} (hex : ∀ c ∈ digits, c ∈ hexAlphabet)
    (filled : digits ≠ []) : Unsigned .any ('0' :: 'x' :: digits) (digitsValue 16 digits) := by
  obtain ⟨ds, numeral, value⟩ := numeral_of_hex hex filled
  have mark : Mark 16 ['0', 'x'] := .tight (by decide) rfl
  rw [← value]
  exact .marked mark (.inl rfl) numeral

end OverlayPatch.Number
