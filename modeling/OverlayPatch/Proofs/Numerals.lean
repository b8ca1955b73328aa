import OverlayPatch.Number.Literal
import Mathlib

/-!
# The grammar of integer literals

`Number.readInt` scans a text from the left: it passes over blanks and a sign, looks for a mark that
chooses the base, takes digits and underscores as far as they go, and then judges what it took.
Said as a grammar, a `Numeral` is digits with single underscores between them, an `Unsigned` literal
is a numeral in a base that its mark or its radix names, and a `Literal` may have a sign in front.
What each of them denotes is part of the grammar.

Scan and grammar agree at each level (`readDigits_eq_ok_iff`, `readUnsigned_eq_ok_iff`,
`readInt_eq_ok_iff`): a text is read exactly if it is a literal between blanks, and as the number
that the literal denotes. Two things make the scan right. No blank occurs in a literal, so nothing
is taken too far (`spans_numeral`), and a numeral that begins like a mark has a digit for the letter
(`exists_letter`), which leaves no mark that could be taken for one.
-/

namespace OverlayPatch

set_option autoImplicit false

namespace Text

def blankCodes : List Nat :=
  [9, 10, 11, 12, 13, 28, 29, 30, 31, 32, 0x85, 0xA0, 0x1680, 0x2000, 0x2001, 0x2002, 0x2003,
    0x2004, 0x2005, 0x2006, 0x2007, 0x2008, 0x2009, 0x200A, 0x2028, 0x2029, 0x202F, 0x205F, 0x3000]

/-- What holds of each blank, tried one by one, holds of a blank. -/
theorem of_isBlank (test : Char → Bool) (each : ∀ n ∈ blankCodes, test (Char.ofNat n) = true)
    {c : Char} (blank : isBlank c = true) : test c = true := by
  have listed : c.toNat ∈ blankCodes := by
    simp only [isBlank, Bool.or_eq_true, decide_eq_true_eq, beq_iff_eq] at blank
    simp only [blankCodes, List.mem_cons, List.not_mem_nil, or_false]
    omega
  have here := each c.toNat listed
  rwa [Char.ofNat_toNat] at here

end Text

namespace Number

open Text

variable {base d v : Nat} {c : Char} {cs right : List Char} {ds : List Nat}

/-! ## Characters of a literal -/

def Margins (cs : List Char) : Prop :=
  ∀ c ∈ cs, isMargin c = true

/-- The character stands in no unsigned literal. -/
structure Foreign (c : Char) : Prop where
  digit : digitValue? c = none
  letter : markBase? c = none
  underscore : c ≠ '_'

theorem foreign_of_isBlank (blank : isBlank c = true) : Foreign c := by
  have known := of_isBlank (fun c => digitValue? c == none && markBase? c == none && c != '_')
    (by decide +kernel) blank
  simp only [Bool.and_eq_true, beq_iff_eq, bne_iff_ne] at known
  exact ⟨known.1.1, known.1.2, known.2⟩

theorem isBlank_of_isMargin (margin : isMargin c = true) : isBlank c = true :=
  (Bool.and_eq_true_iff.mp margin).1

theorem foreign_of_isMargin (margin : isMargin c = true) : Foreign c :=
  foreign_of_isBlank (isBlank_of_isMargin margin)

theorem foreign_plus : Foreign '+' := ⟨by decide, by decide, by decide⟩

theorem foreign_minus : Foreign '-' := ⟨by decide, by decide, by decide⟩

theorem digitIn?_eq_some : digitIn? base c = some d ↔ digitValue? c = some d ∧ d < base := by
  simp [digitIn?, Option.filter_eq_some_iff]

theorem digitIn?_underscore (base : Nat) : digitIn? base '_' = none := by
  have none : digitValue? '_' = none := by decide
  rw [digitIn?, none]
  rfl

theorem ne_underscore_of_digit (digit : digitIn? base c = some d) : c ≠ '_' := by
  rintro rfl
  rw [digitIn?_underscore] at digit
  cases digit

/-- The digits of value zero are decimal digits. -/
theorem digitValue?_eq_zero_iff : digitValue? c = some 0 ↔ decimalValue? c = some 0 := by
  have letter (low : 58 ≤ c.toNat) (high : c.toNat < 128) : decimalValue? c = none := by
    have noDigit : c.isDigit = false := by
      rw [Char.isDigit, Bool.and_eq_false_iff, decide_eq_false_iff_not, decide_eq_false_iff_not]
      right
      change ¬ c.toNat ≤ 57
      omega
    simp [decimalValue?, high, noDigit]
  unfold digitValue?
  dsimp only
  split_ifs with lower upper
  · rw [letter (by omega) (by omega), Option.some_inj]
    exact ⟨fun zero => by omega, nofun⟩
  · rw [letter (by omega) (by omega), Option.some_inj]
    exact ⟨fun zero => by omega, nofun⟩
  · rfl

/-! ## Numerals -/

/-- Digits of a base and their values. Single underscores may stand between digits. -/
inductive Numeral (base : Nat) : List Char → List Nat → Prop where
  | last {c : Char} {d : Nat} (digit : digitIn? base c = some d) : Numeral base [c] [d]
  | next {c : Char} {d : Nat} {cs : List Char} {ds : List Nat} (digit : digitIn? base c = some d)
      (rest : Numeral base cs ds) : Numeral base (c :: cs) (d :: ds)
  | spaced {c : Char} {d : Nat} {cs : List Char} {ds : List Nat}
      (digit : digitIn? base c = some d) (rest : Numeral base cs ds) :
      Numeral base (c :: '_' :: cs) (d :: ds)

/-- The number that digits denote, the first being the most significant. -/
def denoted (base : Nat) (ds : List Nat) : Nat :=
  Nat.ofDigits base ds.reverse

/-- Underscores do not count. -/
theorem digitsValue_eq (base : Nat) (cs : List Char) :
    digitsValue base cs = denoted base (cs.filterMap (digitIn? base)) := by
  rw [digitsValue, denoted, Nat.ofDigits_eq_foldr, List.foldr_reverse]
  congr 1
  funext value digit
  simp only [Nat.cast_id]
  ring

def isBody (base : Nat) (c : Char) : Bool :=
  c == '_' || (digitIn? base c).isSome

theorem fun_isBody (base : Nat) :
    (fun c => c == '_' || (digitIn? base c).isSome) = isBody base := rfl

theorem Foreign.isBody (foreign : Foreign c) (base : Nat) : isBody base c = false := by
  simp [Number.isBody, digitIn?, foreign.digit, foreign.underscore]

namespace Numeral

theorem ne_nil (numeral : Numeral base cs ds) : cs ≠ [] := by
  cases numeral <;> exact List.cons_ne_nil _ _

theorem body (numeral : Numeral base cs ds) : ∀ c ∈ cs, isBody base c = true := by
  induction numeral with
  | last digit => simp [isBody, digit]
  | next digit rest ih => simpa [isBody, digit] using ih
  | spaced digit rest ih => simpa [isBody, digit] using ih

theorem wellSpaced (numeral : Numeral base cs ds) (gap : Bool) : wellSpaced gap cs = true := by
  induction numeral generalizing gap with
  | last digit => simp [Number.wellSpaced, ne_underscore_of_digit digit]
  | next digit rest ih => simp [Number.wellSpaced, ne_underscore_of_digit digit, ih]
  | spaced digit rest ih => simp [Number.wellSpaced, ne_underscore_of_digit digit, ih]

theorem filterMap_eq (numeral : Numeral base cs ds) : cs.filterMap (digitIn? base) = ds := by
  induction numeral with
  | last digit => simp [digit]
  | next digit rest ih => simp [digit, ih]
  | spaced digit rest ih => simp [digit, digitIn?_underscore, ih]

theorem digitsValue_eq (numeral : Numeral base cs ds) : digitsValue base cs = denoted base ds := by
  rw [Number.digitsValue_eq, numeral.filterMap_eq]

theorem length_filter (numeral : Numeral base cs ds) :
    (cs.filter (· ≠ '_')).length = ds.length := by
  induction numeral with
  | last digit => simp [ne_underscore_of_digit digit]
  | next digit rest ih => simpa [ne_underscore_of_digit digit] using ih
  | spaced digit rest ih => simpa [ne_underscore_of_digit digit] using ih

theorem not_mem (numeral : Numeral base cs ds) (foreign : Foreign c) : c ∉ cs := by
  intro member
  have body := numeral.body c member
  rw [foreign.isBody] at body
  cases body

theorem head?_eq_zero_iff (numeral : Numeral base cs ds) (right : List Char) :
    ds.head? = some 0 ↔ (cs ++ right).head?.bind decimalValue? = some 0 := by
  have same {c : Char} {d : Nat} (digit : digitIn? base c = some d) :
      d = 0 ↔ decimalValue? c = some 0 := by
    rw [← digitValue?_eq_zero_iff, (digitIn?_eq_some.mp digit).1, Option.some_inj]
  cases numeral with
  | last digit | next digit rest | spaced digit rest => simpa using same digit

end Numeral

/-- Digits alone are a numeral. -/
theorem numeral_of_digits (digits : ∀ c ∈ cs, (digitIn? base c).isSome = true) (filled : cs ≠ []) :
    Numeral base cs (cs.filterMap (digitIn? base)) := by
  induction cs with
  | nil => exact absurd rfl filled
  | cons c cs ih =>
      obtain ⟨here, digits⟩ := List.forall_mem_cons.mp digits
      obtain ⟨d, digit⟩ := Option.isSome_iff_exists.mp here
      rw [List.filterMap_cons_some digit]
      by_cases last : cs = []
      · subst last
        exact .last digit
      · exact .next digit (ih digits last)

/-- What may stand behind a digit: nothing, or a numeral, with or without an underscore. -/
def Continues (base : Nat) (cs : List Char) : Prop :=
  cs = [] ∨ (∃ ds, Numeral base cs ds) ∨ ∃ more ds, cs = '_' :: more ∧ Numeral base more ds

theorem Continues.numeral (digit : digitIn? base c = some d) (rest : Continues base cs) :
    ∃ ds, Numeral base (c :: cs) ds := by
  rcases rest with rfl | ⟨ds, numeral⟩ | ⟨more, ds, rfl, numeral⟩
  · exact ⟨_, .last digit⟩
  · exact ⟨_, .next digit numeral⟩
  · exact ⟨_, .spaced digit numeral⟩

/-- What the scan accepts as well spaced is a numeral, or goes on with one behind a digit. -/
theorem numeral_of_wellSpaced (body : ∀ c ∈ cs, isBody base c = true) :
    (wellSpaced true cs = true → ∃ ds, Numeral base cs ds) ∧
      (wellSpaced false cs = true → Continues base cs) := by
  induction cs with
  | nil => exact ⟨fun spaced => (nomatch spaced), fun _ => .inl rfl⟩
  | cons c cs ih =>
      obtain ⟨here, body⟩ := List.forall_mem_cons.mp body
      obtain ⟨start, inside⟩ := ih body
      by_cases underscore : c = '_'
      · subst underscore
        refine ⟨fun spaced => (nomatch spaced), fun spaced => ?_⟩
        obtain ⟨ds, numeral⟩ := start (by simpa [wellSpaced] using spaced)
        exact .inr (.inr ⟨cs, ds, rfl, numeral⟩)
      · obtain ⟨d, digit⟩ := Option.isSome_iff_exists.mp (by simpa [isBody, underscore] using here)
        have whole (gap : Bool) (spaced : wellSpaced gap (c :: cs) = true) :
            ∃ ds, Numeral base (c :: cs) ds :=
          (inside (by simpa [wellSpaced, underscore] using spaced)).numeral digit
        exact ⟨whole true, fun spaced => .inr (.inl (whole false spaced))⟩

/-- The scan stops at the blanks behind a numeral. -/
theorem spans_numeral (numeral : Numeral base cs ds) (margins : Margins right) :
    (cs ++ right).takeWhile (isBody base) = cs ∧ (cs ++ right).dropWhile (isBody base) = right := by
  rw [List.takeWhile_append_of_pos numeral.body, List.dropWhile_append_of_pos numeral.body]
  cases right with
  | nil => simp
  | cons c right =>
      have stops := (foreign_of_isMargin (margins c List.mem_cons_self)).isBody base
      simp [stops]

/-- Exactly the numerals within the limit are read, with blanks behind them. -/
theorem readDigits_eq_ok_iff {fail : LiteralError} {reading : Reading} :
    readDigits fail reading cs = .ok v ↔
      ∃ body ds right, cs = body ++ right ∧ Numeral reading.base body ds ∧ Margins right ∧
        (reading.base = 10 → ds.length ≤ decimalLimit) ∧ (reading.zeroOnly = true → v = 0) ∧
        v = denoted reading.base ds := by
  constructor
  · intro read
    unfold readDigits at read
    dsimp only at read
    rw [fun_isBody] at read
    split_ifs at read with spaced long dark nonzero
    obtain ⟨ds, numeral⟩ : ∃ ds, Numeral reading.base (cs.takeWhile (isBody reading.base)) ds :=
      (numeral_of_wellSpaced fun c member => List.mem_takeWhile_imp member).1
        (by simpa using spaced)
    rw [numeral.length_filter] at long
    rw [numeral.digitsValue_eq] at read nonzero
    obtain rfl : denoted reading.base ds = v := by simpa using read
    refine ⟨_, ds, _, List.takeWhile_append_dropWhile.symm, numeral, ?_, ?_, ?_, rfl⟩
    · simpa [Margins] using dark
    · intro ten
      omega
    · intro zero
      by_contra wrong
      exact nonzero ⟨zero, wrong⟩
  · rintro ⟨body, ds, right, rfl, numeral, margins, short, zero, rfl⟩
    obtain ⟨taken, dropped⟩ := spans_numeral numeral margins
    have blank : right.all isMargin = true := List.all_eq_true.mpr margins
    unfold readDigits
    simp only [fun_isBody, taken, dropped, numeral.wellSpaced, numeral.length_filter,
      numeral.digitsValue_eq, blank, Bool.not_true, Bool.false_eq_true, if_false]
    rw [if_neg (by omega), if_neg fun wrong => wrong.2 (zero wrong.1)]

/-! ## Marks -/

/-- A zero and the letter that stands for the base, maybe with an underscore behind them. -/
inductive Mark (base : Nat) : List Char → Prop where
  | tight {z m : Char} (zero : decimalValue? z = some 0) (letter : markBase? m = some base) :
      Mark base [z, m]
  | loose {z m : Char} (zero : decimalValue? z = some 0) (letter : markBase? m = some base) :
      Mark base [z, m, '_']

variable {radix : Radix} {mark : List Char}

/-- No mark is for base ten. Its letter is no decimal digit, and that for base sixteen no digit at
all. -/
theorem letter_facts (letter : markBase? c = some base) :
    base ≠ 10 ∧ digitIn? 10 c = none ∧ (base = 16 → digitIn? 16 c = none) := by
  unfold markBase? at letter
  split at letter <;> cases letter <;> decide

namespace Mark

theorem base_ne_ten (marks : Mark base mark) : base ≠ 10 := by
  cases marks with
  | tight zero letter | loose zero letter => exact (letter_facts letter).1

theorem mark?_append (marks : Mark base mark) (cs : List Char) :
    mark? (mark ++ cs) = some base := by
  cases marks with
  | tight zero letter | loose zero letter => simpa [mark?, zero] using letter

theorem afterMark_append (marks : Mark base mark) (numeral : Numeral base cs ds)
    (right : List Char) : afterMark (mark ++ (cs ++ right)) = cs ++ right := by
  cases marks with
  | loose zero letter => rfl
  | tight zero letter =>
      -- The numeral must not begin with an underscore, which would be taken for the mark's.
      cases numeral with
      | last digit | next digit rest | spaced digit rest =>
        simp [afterMark, ne_underscore_of_digit digit]

theorem not_mem (marks : Mark base mark) (foreign : Foreign c) : c ∉ mark := by
  have noZero {z : Char} (zero : decimalValue? z = some 0) : c ≠ z := by
    rintro rfl
    rw [← digitValue?_eq_zero_iff, foreign.digit] at zero
    cases zero
  have noLetter {m : Char} (letter : markBase? m = some base) : c ≠ m := by
    rintro rfl
    rw [foreign.letter] at letter
    cases letter
  cases marks with
  | tight zero letter => simp [noZero zero, noLetter letter]
  | loose zero letter => simp [noZero zero, noLetter letter, foreign.underscore]

end Mark

/-- A mark can be told from what follows it. -/
theorem exists_mark (marked : mark? cs = some base) :
    ∃ mark, Mark base mark ∧ cs = mark ++ afterMark cs := by
  match cs, marked with
  | z :: m :: rest, marked =>
      rw [mark?] at marked
      split at marked
      · rename_i zero
        by_cases loose : ∃ more, rest = '_' :: more
        · obtain ⟨more, rfl⟩ := loose
          exact ⟨_, .loose zero marked, rfl⟩
        · refine ⟨_, .tight zero marked, ?_⟩
          cases rest with
          | nil => rfl
          | cons c more =>
              have plain : c ≠ '_' := fun same => loose ⟨more, by rw [same]⟩
              simp [afterMark, plain]
      · cases marked

/-- A numeral begins like a mark only if the letter of the mark is a digit. -/
theorem exists_letter {other : Nat} (numeral : Numeral base cs ds) (margins : Margins right)
    (marked : mark? (cs ++ right) = some other) :
    ∃ m d, markBase? m = some other ∧ digitIn? base m = some d := by
  have second {z m : Char} {rest : List Char} (marked : mark? (z :: m :: rest) = some other) :
      markBase? m = some other := by
    rw [mark?] at marked
    split at marked
    · exact marked
    · cases marked
  cases numeral with
  | last digit =>
      match right, margins, marked with
      | m :: rest, margins, marked =>
          have letter := second marked
          rw [(foreign_of_isMargin (margins m List.mem_cons_self)).letter] at letter
          cases letter
  | next digit rest =>
      cases rest with
      | last digit | next digit rest | spaced digit rest => exact ⟨_, _, second marked, digit⟩
  | spaced digit rest => cases second marked

/-! ## Unsigned literals -/

/-- The texts that are unsigned literals under a radix, and what they denote. -/
inductive Unsigned : Radix → List Char → Nat → Prop where
  | marked {radix : Radix} {base : Nat} {mark cs : List Char} {ds : List Nat}
      (marks : Mark base mark) (chosen : radix = .any ∨ radix = .hexadecimal ∧ base = 16)
      (numeral : Numeral base cs ds) : Unsigned radix (mark ++ cs) (denoted base ds)
  | hexadecimal {cs : List Char} {ds : List Nat} (numeral : Numeral 16 cs ds) :
      Unsigned .hexadecimal cs (denoted 16 ds)
  | decimal {cs : List Char} {ds : List Nat} (numeral : Numeral 10 cs ds)
      (short : ds.length ≤ decimalLimit) : Unsigned .decimal cs (denoted 10 ds)
  /-- Where the radix is open, only zero may begin with a zero. -/
  | unmarked {cs : List Char} {ds : List Nat} (numeral : Numeral 10 cs ds)
      (short : ds.length ≤ decimalLimit) (leading : ds.head? = some 0 → denoted 10 ds = 0) :
      Unsigned .any cs (denoted 10 ds)

theorem chooseBase_marked (marked : mark? cs = some base)
    (chosen : radix = .any ∨ radix = .hexadecimal ∧ base = 16) :
    chooseBase radix cs = ({ base }, afterMark cs) := by
  rcases chosen with rfl | ⟨rfl, rfl⟩ <;> simp [chooseBase, marked]

theorem chooseBase_hexadecimal (other : mark? cs ≠ some 16) :
    chooseBase .hexadecimal cs = ({ base := 16 }, cs) := by
  simp [chooseBase]

/-- Without a mark a literal is decimal, and a zero in front stands for zero only. -/
theorem chooseBase_unmarked (unmarked : mark? cs = none) :
    chooseBase .any cs =
      ({ base := 10, zeroOnly := cs.head?.bind decimalValue? == some 0 }, cs) := by
  simp [chooseBase, unmarked]

namespace Unsigned

theorem ne_nil (unsigned : Unsigned radix cs v) : cs ≠ [] := by
  cases unsigned with
  | marked marks chosen numeral => exact List.append_ne_nil_of_right_ne_nil _ numeral.ne_nil
  | hexadecimal numeral | decimal numeral | unmarked numeral => exact numeral.ne_nil

theorem not_mem (unsigned : Unsigned radix cs v) (foreign : Foreign c) : c ∉ cs := by
  cases unsigned with
  | marked marks chosen numeral =>
      rw [List.mem_append, not_or]
      exact ⟨marks.not_mem foreign, numeral.not_mem foreign⟩
  | hexadecimal numeral | decimal numeral | unmarked numeral => exact numeral.not_mem foreign

/-- An unsigned literal does not begin with a sign. -/
theorem ne_cons (unsigned : Unsigned radix cs v) (foreign : Foreign c) (rest : List Char) :
    cs ++ right ≠ c :: rest := by
  obtain ⟨d, more, rfl⟩ := List.exists_cons_of_ne_nil unsigned.ne_nil
  intro same
  obtain rfl : d = c := (List.cons.inj same).1
  exact unsigned.not_mem foreign List.mem_cons_self

/-- Each unsigned literal is read, with blanks behind it. -/
theorem read (unsigned : Unsigned radix cs v) (margins : Margins right) (fail : LiteralError) :
    readUnsigned fail radix (cs ++ right) = .ok v := by
  apply readDigits_eq_ok_iff.mpr
  cases unsigned with
  | marked marks chosen numeral =>
      rw [List.append_assoc, chooseBase_marked (marks.mark?_append _) chosen,
        marks.afterMark_append numeral]
      exact ⟨_, _, right, rfl, numeral, margins, fun ten => absurd ten marks.base_ne_ten, nofun,
        rfl⟩
  | hexadecimal numeral =>
      have other : mark? (cs ++ right) ≠ some 16 := by
        intro marked
        obtain ⟨m, d, letter, digit⟩ := exists_letter numeral margins marked
        rw [(letter_facts letter).2.2 rfl] at digit
        cases digit
      rw [chooseBase_hexadecimal other]
      exact ⟨_, _, right, rfl, numeral, margins, nofun, nofun, rfl⟩
  | decimal numeral short => exact ⟨_, _, right, rfl, numeral, margins, fun _ => short, nofun, rfl⟩
  | unmarked numeral short leading =>
      have none : mark? (cs ++ right) = none := by
        by_contra some
        obtain ⟨base, marked⟩ := Option.ne_none_iff_exists'.mp some
        obtain ⟨m, d, letter, digit⟩ := exists_letter numeral margins marked
        rw [(letter_facts letter).2.1] at digit
        cases digit
      rw [chooseBase_unmarked none]
      refine ⟨_, _, right, rfl, numeral, margins, fun _ => short, fun zero => leading ?_, rfl⟩
      exact (numeral.head?_eq_zero_iff right).mpr (by simpa using zero)

end Unsigned

/-- Exactly the unsigned literals are read, with blanks behind them. -/
theorem readUnsigned_eq_ok_iff {fail : LiteralError} :
    readUnsigned fail radix cs = .ok v ↔
      ∃ body right, cs = body ++ right ∧ Unsigned radix body v ∧ Margins right := by
  constructor
  · intro read
    obtain ⟨body, ds, right, split, numeral, margins, short, zero, rfl⟩ :=
      readDigits_eq_ok_iff.mp read
    have behindMark {base : Nat} (marked : mark? cs = some base)
        (chosen : radix = .any ∨ radix = .hexadecimal ∧ base = 16) :
        ∃ body right, cs = body ++ right ∧
          Unsigned radix body (denoted (chooseBase radix cs).1.base ds) ∧ Margins right := by
      obtain ⟨mark, marks, front⟩ := exists_mark marked
      rw [chooseBase_marked marked chosen] at split numeral ⊢
      dsimp only at split
      rw [split, ← List.append_assoc] at front
      exact ⟨_, _, front, .marked marks chosen numeral, margins⟩
    cases radix with
    | decimal => exact ⟨body, right, split, .decimal numeral (short rfl), margins⟩
    | hexadecimal =>
        by_cases marked : mark? cs = some 16
        · exact behindMark marked (.inr ⟨rfl, rfl⟩)
        · rw [chooseBase_hexadecimal marked] at split numeral ⊢
          exact ⟨body, right, split, .hexadecimal numeral, margins⟩
    | any =>
        cases marked : mark? cs with
        | some base => exact behindMark marked (.inl rfl)
        | none =>
            rw [chooseBase_unmarked marked] at split numeral short zero ⊢
            dsimp only at split numeral short zero ⊢
            refine ⟨body, right, split, .unmarked numeral (short rfl) fun leading => ?_, margins⟩
            rw [numeral.head?_eq_zero_iff right, ← split] at leading
            exact zero (by simp [leading])
  · rintro ⟨body, right, rfl, unsigned, margins⟩
    exact unsigned.read margins fail

/-! ## Signed literals -/

/-- The texts that are integer literals under a radix, and what they denote. -/
inductive Literal (radix : Radix) : List Char → Int → Prop where
  | plain {cs : List Char} {v : Nat} (unsigned : Unsigned radix cs v) : Literal radix cs v
  | plus {cs : List Char} {v : Nat} (unsigned : Unsigned radix cs v) : Literal radix ('+' :: cs) v
  | minus {cs : List Char} {v : Nat} (unsigned : Unsigned radix cs v) :
      Literal radix ('-' :: cs) (-v)

variable {n : Int} {text : String}

/-- An integer is its magnitude behind its sign. -/
theorem Unsigned.signed (unsigned : Unsigned radix cs n.natAbs) :
    Literal radix (if n < 0 then '-' :: cs else cs) n := by
  split
  · have negated := Literal.minus unsigned
    rwa [show -(n.natAbs : Int) = n by omega] at negated
  · have plain := Literal.plain unsigned
    rwa [show (n.natAbs : Int) = n by omega] at plain

namespace Literal

theorem ne_nil (literal : Literal radix cs n) : cs ≠ [] := by
  cases literal with
  | plain unsigned => exact unsigned.ne_nil
  | plus | minus => exact List.cons_ne_nil _ _

/-- What stands in no unsigned literal and is no sign stands in no literal. -/
theorem not_mem (literal : Literal radix cs n) (foreign : Foreign c) (plus : c ≠ '+')
    (minus : c ≠ '-') : c ∉ cs := by
  cases literal with
  | plain unsigned => exact unsigned.not_mem foreign
  | plus unsigned => simpa [plus] using unsigned.not_mem foreign
  | minus unsigned => simpa [minus] using unsigned.not_mem foreign

theorem dark (literal : Literal radix cs n) (member : c ∈ cs) : isBlank c = false := by
  refine Bool.eq_false_iff.mpr fun blank => literal.not_mem (foreign_of_isBlank blank) ?_ ?_ member
  · rintro rfl
    cases blank
  · rintro rfl
    cases blank

end Literal

/-- What is read is a literal between blanks. -/
theorem exists_literal (read : readInt radix text = .ok n) :
    ∃ left body right, text.toList = left ++ body ++ right ∧ Margins left ∧
      Literal radix body n ∧ Margins right := by
  have before : Margins (text.toList.takeWhile isMargin) :=
    fun c member => List.mem_takeWhile_imp member
  have front : text.toList = text.toList.takeWhile isMargin ++ text.toList.dropWhile isMargin :=
    List.takeWhile_append_dropWhile.symm
  have found {rest : List Char} {f : Nat → Int}
      (read : (readUnsigned (.malformed radix text) radix rest).map f = .ok n) :
      ∃ body v right, rest = body ++ right ∧ Unsigned radix body v ∧ Margins right ∧ f v = n := by
    cases unsigned : readUnsigned (.malformed radix text) radix rest with
    | error error =>
        rw [unsigned] at read
        cases read
    | ok v =>
        rw [unsigned] at read
        cases read
        obtain ⟨body, right, split, literal, after⟩ := readUnsigned_eq_ok_iff.mp unsigned
        exact ⟨body, v, right, split, literal, after, rfl⟩
  unfold readInt at read
  dsimp only at read
  split at read
  · rename_i rest dropped
    have negated : (readUnsigned (.malformed radix text) radix rest).map
        (fun v : Nat => -(v : Int)) = .ok n := by
      rw [← read]
      cases readUnsigned (.malformed radix text) radix rest <;> rfl
    obtain ⟨body, v, right, rfl, unsigned, after, rfl⟩ := found negated
    rw [dropped] at front
    exact ⟨_, _, right, by simpa using front, before, .minus unsigned, after⟩
  · rename_i rest dropped
    obtain ⟨body, v, right, rfl, unsigned, after, rfl⟩ := found read
    rw [dropped] at front
    exact ⟨_, _, right, by simpa using front, before, .plus unsigned, after⟩
  · obtain ⟨body, v, right, split, unsigned, after, rfl⟩ := found read
    rw [split] at front
    exact ⟨_, _, right, by simpa using front, before, .plain unsigned, after⟩

/-- Exactly the integer literals are read, with blanks around them. -/
theorem readInt_eq_ok_iff :
    readInt radix text = .ok n ↔
      ∃ left body right, text.toList = left ++ body ++ right ∧ Margins left ∧
        Literal radix body n ∧ Margins right := by
  refine ⟨exists_literal, ?_⟩
  rintro ⟨left, body, right, split, before, literal, after⟩
  have rest : text.toList.dropWhile isMargin = body ++ right := by
    obtain ⟨c, more, rfl⟩ := List.exists_cons_of_ne_nil literal.ne_nil
    have dark : isMargin c = false := by
      simp [isMargin, literal.dark List.mem_cons_self]
    rw [split, List.append_assoc, List.dropWhile_append_of_pos before, List.cons_append,
      List.dropWhile_cons_of_neg (by simp [dark])]
  unfold readInt
  rw [rest]
  cases literal with
  | minus unsigned | plus unsigned =>
      simp only [List.cons_append, unsigned.read after]
      rfl
  | plain unsigned =>
      dsimp only
      split
      · rename_i same
        exact absurd same (unsigned.ne_cons foreign_minus _)
      · rename_i same
        exact absurd same (unsigned.ne_cons foreign_plus _)
      · rw [unsigned.read after]
        rfl

/-- A literal is read as what it denotes. -/
theorem Literal.read (literal : Literal radix cs n) : readInt radix (String.ofList cs) = .ok n :=
  readInt_eq_ok_iff.mpr ⟨[], cs, [], by simp, nofun, literal, nofun⟩

end Number

end OverlayPatch
