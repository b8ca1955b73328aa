import OverlayPatch.Command.Options
import OverlayPatch.Proofs.Bodies
import Mathlib

/-!
# Load addresses on the command line

A load address is given in hexadecimal behind a dollar sign, or as a literal that names its base
itself. The two are read by different rules: behind the dollar sign zeros may come first and `0b1`
is three digits, while as a literal `0b1` is a one in base two and `017` is none.
`AddressText` is the grammar of both, with the blanks that may stand around them, and reading
follows it (`readAddress?_eq_some_iff`).

For each way to spell a number there is a literal that denotes it (`literal_marked`,
`literal_hexadecimal`, `literal_decimalDigits`), so that a number is read as itself however it is
spelled. `readBase_denotes` puts this together with what happens to all other texts.
-/

namespace OverlayPatch

set_option autoImplicit false

open Text

namespace Number

/-! ## Spelling a number -/

variable {n : Nat} {digits : List Char}

theorem Margins.blanks {cs : List Char} (margins : Margins cs) : Blanks cs :=
  fun c member => isBlank_of_isMargin (margins c member)

/-- Digits in letters of any case, behind any number of zeros, denote the number they spell. -/
theorem digits_of_cased (cased : digits.map Char.toUpper = hexDigits n) (zeros : Nat) :
    (∀ c ∈ List.replicate zeros '0' ++ digits, c ∈ hexAlphabet) ∧
      List.replicate zeros '0' ++ digits ≠ [] ∧
      digitsValue 16 (List.replicate zeros '0' ++ digits) = n := by
  have hex : ∀ c ∈ digits, c ∈ hexAlphabet := by
    intro c member
    have upper : c.toUpper ∈ hexDigits n := cased ▸ List.mem_map_of_mem member
    exact mem_hexAlphabet_of_toUpper (hexDigits_facts upper).1
  have filled : digits ≠ [] := by
    rintro rfl
    exact hexDigits_ne_nil n cased.symm
  refine ⟨fun c member => ?_, List.append_ne_nil_of_right_ne_nil _ filled, ?_⟩
  · rcases List.mem_append.mp member with zero | digit
    · rw [List.eq_of_mem_replicate zero]
      decide
    · exact hex c digit
  · rw [digitsValue_zeros 16 zeros (by decide), ← digitsValue_map_toUpper hex, cased,
      digitsValue_hexDigits]

/-- Behind a mark, the digits are a literal that says its base. -/
theorem literal_marked (cased : digits.map Char.toUpper = hexDigits n) (zeros : Nat) :
    Literal .any ('0' :: 'x' :: (List.replicate zeros '0' ++ digits)) n := by
  obtain ⟨hex, filled, value⟩ := digits_of_cased cased zeros
  have unsigned := unsigned_hex hex filled
  rw [value] at unsigned
  exact .plain unsigned

/-- Where the base is known to be sixteen, the digits alone are a literal. -/
theorem literal_hexadecimal (cased : digits.map Char.toUpper = hexDigits n) (zeros : Nat) :
    Literal .hexadecimal (List.replicate zeros '0' ++ digits) n := by
  obtain ⟨hex, filled, value⟩ := digits_of_cased cased zeros
  obtain ⟨ds, numeral, same⟩ := numeral_of_hex hex filled
  have unsigned := Unsigned.hexadecimal numeral
  rw [same, value] at unsigned
  exact .plain unsigned

/-- Only zero begins with a zero in decimal. -/
theorem eq_zero_of_leading (leading : (decimalDigits n).head?.bind decimalValue? = some 0) :
    n = 0 := by
  induction n using Nat.strongRecOn with
  | ind n ih =>
      unfold decimalDigits at leading
      rw [Nat.toDigits_eq_if (by decide)] at leading
      split at leading
      · rename_i small
        have value : ∀ d < 10, decimalValue? d.digitChar = some d := by decide
        simpa [value n small] using leading
      · rename_i large
        have front : Nat.toDigits 10 (n / 10) ≠ [] := decimalDigits_ne_nil (n / 10)
        rw [List.head?_append_of_ne_nil _ front] at leading
        have none := ih (n / 10) (by omega) leading
        omega

theorem literal_decimalDigits (short : (decimalDigits n).length ≤ decimalLimit) :
    Literal .any (decimalDigits n) n := by
  obtain ⟨ds, numeral, fewer, value⟩ := numeral_decimalDigits n
  have leading : ds.head? = some 0 → denoted 10 ds = 0 := by
    rw [numeral.head?_eq_zero_iff [], List.append_nil, value]
    exact eq_zero_of_leading
  have unsigned := Unsigned.unmarked numeral (fewer.trans short) leading
  rw [value] at unsigned
  exact .plain unsigned

end Number

/-! ## Texts of addresses -/

/-- The texts that are addresses, and what they denote. -/
inductive AddressText : List Char → Int → Prop where
  | literal {left body right : List Char} {n : Int} (before : Blanks left)
      (written : Number.Literal .any body n) (after : Blanks right) :
      AddressText (left ++ body ++ right) n
  /-- Not every blank may follow the dollar sign, only those that may surround a literal. -/
  | dollar {left margin body right : List Char} {n : Int} (before : Blanks left)
      (inside : Number.Margins margin) (written : Number.Literal .hexadecimal body n)
      (after : Blanks right) : AddressText (left ++ ('$' :: (margin ++ body)) ++ right) n

variable {text : String} {n : Int}

/-- An integer is read from a literal with blanks around it, and from nothing else. -/
theorem toOption_readInt_eq_some_iff {radix : Number.Radix} {cs : List Char} :
    (Number.readInt radix (String.ofList cs)).toOption = some n ↔
      ∃ left body right, cs = left ++ body ++ right ∧ Number.Margins left ∧
        Number.Literal radix body n ∧ Number.Margins right := by
  have read : Number.readInt radix (String.ofList cs) = .ok n ↔ _ := Number.readInt_eq_ok_iff
  rw [String.toList_ofList] at read
  rw [← read]
  cases Number.readInt radix (String.ofList cs) <;> simp [Except.toOption]

/-- The texts of the grammar are read as what they denote. -/
theorem AddressText.read {cs : List Char} (address : AddressText cs n) :
    readAddress? (String.ofList cs) = some n := by
  have dollar : Number.Foreign '$' := ⟨by decide, by decide, by decide⟩
  unfold readAddress?
  rw [String.toList_ofList]
  cases address with
  | @literal left body right _ before written after =>
      have trimmed : trim body = body := trim_eq_self
        (fun c first => written.dark (List.mem_of_mem_head? first))
        (fun c last => written.dark (List.mem_of_mem_getLast? last))
      rw [trim_pad before after, trimmed]
      split
      · exact absurd List.mem_cons_self (written.not_mem dollar (by decide) (by decide))
      · exact toOption_readInt_eq_some_iff.mpr ⟨[], body, [], by simp, nofun, written, nofun⟩
  | @dollar left margin body right _ before inside written after =>
      have trimmed : trim ('$' :: (margin ++ body)) = '$' :: (margin ++ body) := by
        refine trim_eq_self (fun c first => ?_) (fun c last => ?_)
        · obtain rfl : '$' = c := by simpa using first
          decide
        · rw [← List.cons_append, List.getLast?_append_of_ne_nil _ written.ne_nil] at last
          exact written.dark (List.mem_of_mem_getLast? last)
      rw [trim_pad before after, trimmed]
      exact toOption_readInt_eq_some_iff.mpr ⟨margin, body, [], by simp, inside, written, nofun⟩

/-- Exactly the texts of addresses are read, each as what it denotes. -/
theorem readAddress?_eq_some_iff : readAddress? text = some n ↔ AddressText text.toList n := by
  constructor
  · intro read
    obtain ⟨left, right, before, after, split⟩ := exists_trim_eq text.toList
    unfold readAddress? at read
    -- The blanks that surround the literal join those that were trimmed off.
    split at read
    · rename_i digits trimmed
      obtain ⟨margin, body, rest, rfl, inside, literal, blank⟩ :=
        toOption_readInt_eq_some_iff.mp read
      have address := AddressText.dollar before inside literal (blank.blanks.append after)
      rw [split, trimmed]
      simpa using address
    · obtain ⟨margin, body, rest, trimmed, inside, literal, blank⟩ :=
        toOption_readInt_eq_some_iff.mp read
      have address :=
        AddressText.literal (before.append inside.blanks) literal (blank.blanks.append after)
      rw [split, trimmed]
      simpa using address
  · intro address
    have read := address.read
    rwa [String.ofList_toList] at read

namespace Command.Options

open Number

/-! ## The option for the load address -/

/-- Exactly the texts of addresses are taken for one. -/
theorem readBase_eq_ok_iff : readBase text = .ok n ↔ AddressText text.toList n := by
  rw [← readAddress?_eq_some_iff, readBase]
  cases readAddress? text <;> simp

/-- A number between blanks is read as itself from its hexadecimal digits behind a mark or a dollar
sign, in letters of any case and with any number of zeros in front, and from its decimal digits if
they are within the limit. Every text is read exactly if it denotes an address, as that address,
and otherwise refused as no address: it fails in no other way. -/
theorem readBase_denotes :
    (∀ (n zeros : Nat) (digits left right : List Char), digits.map Char.toUpper = hexDigits n →
      Blanks left → Blanks right →
        readBase (String.ofList
          (left ++ ('0' :: 'x' :: (List.replicate zeros '0' ++ digits)) ++ right)) = .ok n ∧
        readBase (String.ofList
          (left ++ ('$' :: (List.replicate zeros '0' ++ digits)) ++ right)) = .ok n ∧
        ((decimalDigits n).length ≤ decimalLimit →
          readBase (String.ofList (left ++ decimalDigits n ++ right)) = .ok n)) ∧
    ∀ text, (∀ n, readBase text = .ok n ↔ AddressText text.toList n) ∧
      ((∃ n, readBase text = .ok n) ∨ readBase text = .error (.notAddress text)) := by
  have read {cs : List Char} {n : Int} (address : AddressText cs n) :
      readBase (String.ofList cs) = .ok n :=
    readBase_eq_ok_iff.mpr (by rwa [String.toList_ofList])
  refine ⟨fun n zeros digits left right cased before after => ⟨?_, ?_, fun short => ?_⟩,
    fun text => ⟨fun n => readBase_eq_ok_iff, ?_⟩⟩
  · exact read (.literal before (literal_marked cased zeros) after)
  · have inside : Margins [] := nofun
    have address := AddressText.dollar before inside (literal_hexadecimal cased zeros) after
    exact read address
  · exact read (.literal before (literal_decimalDigits short) after)
  · rw [readBase]
    cases readAddress? text with
    | some n => exact .inl ⟨n, rfl⟩
    | none => exact .inr rfl

/-- Behind a dollar sign, digits that look like a mark are digits. The first blank here is one that
may not surround a literal. -/
theorem readBase_denotes_177 :
    "b1".toList.map Char.toUpper = hexDigits 177 ∧ Blanks ['\x1c', '\t'] ∧ Blanks [' '] ∧
      (decimalDigits 177).length ≤ decimalLimit ∧ readBase "\x1c\t0x0b1 " = .ok 177 ∧
      readBase "\x1c\t$0b1 " = .ok 177 ∧ readBase "\x1c\t177 " = .ok 177 ∧
      readBase "0177" = .error (.notAddress "0177") := by
  have cased : "b1".toList.map Char.toUpper = hexDigits 177 := by decide
  have short : (decimalDigits 177).length ≤ decimalLimit := by decide
  have before : Blanks ['\x1c', '\t'] :=
    List.forall_mem_cons.mpr ⟨rfl, List.forall_mem_singleton.mpr rfl⟩
  have after : Blanks [' '] := List.forall_mem_singleton.mpr rfl
  obtain ⟨marked, dollar, plain⟩ := readBase_denotes.1 177 1 _ _ _ cased before after
  have refused : ¬ ∃ n, readBase "0177" = .ok n := by
    rintro ⟨n, read⟩
    have nothing : (readBase "0177").toOption = none := by decide +kernel
    rw [read] at nothing
    cases nothing
  exact ⟨cased, before, after, short, marked, dollar, plain short,
    (readBase_denotes.2 "0177").2.resolve_left refused⟩

end Command.Options

end OverlayPatch
