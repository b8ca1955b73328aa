import OverlayPatch.Directive
import OverlayPatch.Proofs.Hexadecimal
import OverlayPatch.Proofs.Scan
import Mathlib

/-!
# Headers in a text

Two patterns look for headers. `Header.pattern` takes exactly the well-formed ones, wherever they
stand; `Header.candidatePattern` takes any word behind the underscore, but only where a word
begins. Both are said here by what stands in the text (`pattern_eq_some`,
`candidatePattern_eq_some`), and both find nothing inside a find.

For candidates that is plain, since a header is one word and a colon. For headers it is not, since
they are found inside words too. But of two headers that overlap, both end at the same colon. So
they have the same digits, and then one mode would have to end with the letter `a` and another
mode: `not_suffix_letters`.
-/

namespace OverlayPatch

set_option autoImplicit false

namespace Text

theorem spanWord_append {word : List Char} (worded : ∀ c ∈ word, isWord c = true) {c : Char}
    (stop : isWord c = false) (rest : List Char) :
    spanWord (word ++ c :: rest) = (word, c :: rest) := by
  rw [spanWord, List.takeWhile_append_of_pos worded, List.dropWhile_append_of_pos worded,
    List.takeWhile_cons_of_neg (by simp [stop]), List.dropWhile_cons_of_neg (by simp [stop]),
    List.append_nil]

theorem spanWord_spec (cs : List Char) :
    cs = (spanWord cs).1 ++ (spanWord cs).2 ∧ ∀ c ∈ (spanWord cs).1, isWord c = true :=
  ⟨List.takeWhile_append_dropWhile.symm, fun _ member => List.mem_takeWhile_imp member⟩

theorem isWord_colon : isWord ':' = false := by decide

/-- A word in front of a colon is all that is there up to the first colon. -/
theorem word_unique {word word' rest rest' : List Char} (worded : ∀ c ∈ word, isWord c = true)
    (worded' : ∀ c ∈ word', isWord c = true)
    (same : word ++ ':' :: rest = word' ++ ':' :: rest') : word = word' ∧ rest = rest' := by
  have spans := congrArg spanWord same
  rw [spanWord_append worded isWord_colon, spanWord_append worded' isWord_colon] at spans
  simpa using spans

end Text

namespace Header

open Text

/-! ## The text of a header -/

/-- A header up to its colon. -/
def word (header : Header) : List Char :=
  lead header.mode ++ header.digits

theorem text_eq (header : Header) : header.text = header.word ++ [':'] := by
  simp [text, word, lead]

theorem text_append (header : Header) (rest : List Char) :
    header.text ++ rest = header.word ++ ':' :: rest := by
  simp [text_eq]

theorem text_ne_nil (header : Header) : header.text ≠ [] := by
  simp [text_eq]

/-- The address part of a candidate is part of a word. -/
def Worded (header : Header) : Prop :=
  ∀ c ∈ header.digits, isWord c = true

theorem isWord_lead (mode : Mode) : ∀ c ∈ lead mode, isWord c = true := by
  have each : (lead mode).all isWord = true := by cases mode <;> decide
  exact List.all_eq_true.mp each

theorem Worded.word {header : Header} (worded : header.Worded) :
    ∀ c ∈ header.word, isWord c = true := by
  intro c member
  rcases List.mem_append.mp member with inLead | inDigits
  · exact isWord_lead header.mode c inLead
  · exact worded c inDigits

theorem isHexDigit_iff {c : Char} : isHexDigit c = true ↔ c ∈ Number.hexAlphabet := by
  constructor
  · intro hex
    have ascii : c.toNat < 128 := by
      simp only [isHexDigit, Bool.and_eq_true, decide_eq_true_eq] at hex
      exact hex.1
    have each : ∀ n < 128, isHexDigit (Char.ofNat n) = true →
        Char.ofNat n ∈ Number.hexAlphabet := by decide
    have here := each c.toNat ascii
    rw [Char.ofNat_toNat] at here
    exact here hex
  · exact Number.of_hexAlphabet _ (by decide)

/-- Eight digits of base sixteen, in letters of either case. -/
theorem isWellFormed_iff {header : Header} :
    header.isWellFormed = true ↔
      header.digits.length = 8 ∧ ∀ c ∈ header.digits, c ∈ Number.hexAlphabet := by
  simp [isWellFormed, isHexDigit_iff]

theorem worded_of_isWellFormed {header : Header} (good : header.isWellFormed = true) :
    header.Worded :=
  fun c member => Number.of_hexAlphabet _ (by decide) ((isWellFormed_iff.mp good).2 c member)

/-! ## What the patterns find -/

theorem readLead?_eq_some {cs rest : List Char} {mode : Mode} :
    readLead? cs = some (mode, rest) ↔ cs = lead mode ++ rest := by
  constructor
  · intro found
    obtain ⟨mode', -, here⟩ := List.exists_of_findSome?_eq_some found
    split at here
    · rename_i starts
      obtain ⟨rest', rfl⟩ := List.isPrefixOf_iff_prefix.mp starts
      obtain ⟨rfl, rfl⟩ : mode' = mode ∧ rest' = rest := by simpa using here
      rfl
    · cases here
  · rintro rfl
    cases mode <;> simp [readLead?, lead, Mode.letters]

theorem read?_eq_some {cs : List Char} {header : Header} :
    read? cs = some header ↔
      header.isWellFormed = true ∧ ∃ rest, cs = header.text ++ rest := by
  constructor
  · intro found
    obtain ⟨⟨mode, rest⟩, leads, here⟩ := Option.bind_eq_some_iff.mp found
    obtain rfl := readLead?_eq_some.mp leads
    simp only [Option.ite_none_right_eq_some, Option.some.injEq, Bool.and_eq_true,
      beq_iff_eq] at here
    obtain ⟨⟨good, colon⟩, rfl⟩ := here
    obtain ⟨after, ends⟩ := List.head?_eq_some_iff.mp colon
    refine ⟨good, after, ?_⟩
    rw [text_append, word, List.append_assoc, ← ends, List.take_append_drop]
  · rintro ⟨good, rest, rfl⟩
    have size := (isWellFormed_iff.mp good).1
    have leads : readLead? (header.text ++ rest) =
        some (header.mode, header.digits ++ ':' :: rest) :=
      readLead?_eq_some.mpr (by rw [text_append, word, List.append_assoc])
    have taken : (header.digits ++ ':' :: rest).take 8 = header.digits := by
      rw [← size, List.take_left]
    have dropped : (header.digits ++ ':' :: rest).drop 8 = ':' :: rest := by
      rw [← size, List.drop_left]
    rw [read?, leads, Option.bind_some]
    simp only [taken, dropped, good, List.head?_cons, beq_self_eq_true, Bool.and_self, if_true]

/-- A candidate is read just where a word stands in place of the digits. -/
theorem readCandidate?_eq_some {cs : List Char} {header : Header} :
    readCandidate? cs = some header ↔ header.Worded ∧ ∃ rest, cs = header.text ++ rest := by
  constructor
  · intro found
    obtain ⟨⟨mode, rest⟩, leads, here⟩ := Option.bind_eq_some_iff.mp found
    obtain rfl := readLead?_eq_some.mp leads
    simp only [Option.ite_none_right_eq_some, Option.some.injEq, beq_iff_eq] at here
    obtain ⟨colon, rfl⟩ := here
    obtain ⟨after, ends⟩ := List.head?_eq_some_iff.mp colon
    obtain ⟨split, worded⟩ := spanWord_spec rest
    refine ⟨worded, after, ?_⟩
    rw [text_append, word, List.append_assoc, ← ends, ← split]
  · rintro ⟨worded, rest, rfl⟩
    have leads : readLead? (header.text ++ rest) =
        some (header.mode, header.digits ++ ':' :: rest) :=
      readLead?_eq_some.mpr (by rw [text_append, word, List.append_assoc])
    rw [readCandidate?, leads, Option.bind_some]
    simp only [spanWord_append worded isWord_colon, List.head?_cons, beq_self_eq_true, if_true]

theorem pattern_eq_some {before : Option Char} {cs : List Char} {header : Header} {size : Nat} :
    pattern before cs = some (header, size) ↔
      header.isWellFormed = true ∧ (∃ rest, cs = header.text ++ rest) ∧
        size = header.text.length := by
  simp only [pattern, Option.map_eq_some_iff, read?_eq_some, Prod.mk.injEq]
  constructor
  · rintro ⟨header, ⟨good, starts⟩, rfl, rfl⟩
    exact ⟨good, starts, rfl⟩
  · rintro ⟨good, starts, rfl⟩
    exact ⟨header, ⟨good, starts⟩, rfl, rfl⟩

theorem candidatePattern_eq_some {before : Option Char} {cs : List Char} {header : Header}
    {size : Nat} :
    candidatePattern before cs = some (header, size) ↔
      before.any isWord = false ∧ header.Worded ∧ (∃ rest, cs = header.text ++ rest) ∧
        size = header.text.length := by
  cases inside : before.any isWord with
  | true => simp [candidatePattern, inside]
  | false =>
      simp only [candidatePattern, inside, Bool.false_eq_true, if_false, Option.map_eq_some_iff,
        readCandidate?_eq_some, Prod.mk.injEq, true_and]
      constructor
      · rintro ⟨header, ⟨worded, starts⟩, rfl, rfl⟩
        exact ⟨worded, starts, rfl⟩
      · rintro ⟨worded, starts, rfl⟩
        exact ⟨header, ⟨worded, starts⟩, rfl, rfl⟩

theorem literal_pattern : pattern.Literal text where
  ne_nil := text_ne_nil
  spelled found := (pattern_eq_some.mp found).2

theorem literal_candidatePattern : candidatePattern.Literal text where
  ne_nil := text_ne_nil
  spelled found := (candidatePattern_eq_some.mp found).2.2

/-! ## Finds stay apart -/

/-- The part of a header behind some of it ends with the colon. -/
theorem exists_word_of_text {header : Header} {x y : List Char} (split : header.text = x ++ y)
    (filled : y ≠ []) : ∃ rest, header.word = x ++ rest ∧ y = rest ++ [':'] := by
  rw [text_eq] at split
  rcases List.append_eq_append_iff.mp split with ⟨more, rfl, colon⟩ | ⟨rest, same, rfl⟩
  · rcases List.singleton_eq_append_iff.mp colon with ⟨rfl, rfl⟩ | ⟨-, rfl⟩
    · exact ⟨[], by simp, rfl⟩
    · contradiction
  · exact ⟨rest, same, rfl⟩

theorem apart_candidatePattern : candidatePattern.Apart := by
  intro before x y cs header found some filled
  obtain ⟨-, worded, ⟨rest, same⟩, size⟩ := candidatePattern_eq_some.mp found
  obtain ⟨split, -⟩ := List.append_inj same size
  obtain ⟨tail, inWord, -⟩ := exists_word_of_text split.symm filled
  -- The character before the place belongs to the word of the candidate.
  have inside : (behind before x).any isWord = true := by
    rw [behind_of_ne_nil some, List.getLast?_eq_some_getLast some]
    exact worded.word _ (by rw [inWord]; exact List.mem_append_left _ (List.getLast_mem some))
  rw [candidatePattern, if_pos inside]

/-- No mode ends with the letter that headers start with and a mode. -/
theorem not_suffix_letters (mode mode' : Mode) : ¬ 'a' :: mode'.letters <:+ mode.letters := by
  cases mode <;> cases mode' <;> decide

/-- No header starts inside another. -/
theorem apart_pattern : pattern.Apart := by
  intro before x y cs header found some filled
  obtain ⟨good, ⟨rest, same⟩, size⟩ := pattern_eq_some.mp found
  obtain ⟨split, -⟩ := List.append_inj same size
  obtain ⟨tail, inWord, rfl⟩ := exists_word_of_text split.symm filled
  rw [Option.eq_none_iff_forall_ne_some]
  rintro ⟨header', size'⟩ found'
  obtain ⟨good', ⟨rest', same'⟩, -⟩ := pattern_eq_some.mp found'
  -- Both headers end at the first colon, so the second is the end of the first.
  obtain ⟨rfl, -⟩ := word_unique
    (fun c member => (worded_of_isWellFormed good).word c
      (by rw [inWord]; exact List.mem_append_right _ member))
    (worded_of_isWellFormed good').word
    (by rw [← text_append, ← same', List.append_assoc]; rfl)
  have digits : header.digits.length = header'.digits.length :=
    (isWellFormed_iff.mp good).1.trans (isWellFormed_iff.mp good').1.symm
  rw [word, word, ← List.append_assoc] at inWord
  obtain ⟨leads, -⟩ := List.append_inj' inWord digits
  -- Without digits and underscore, one mode ends the other.
  obtain ⟨c, x, rfl⟩ := List.exists_cons_of_ne_nil some
  rw [lead, lead, ← List.append_assoc] at leads
  obtain ⟨modes, -⟩ := List.append_inj' leads rfl
  exact not_suffix_letters header.mode header'.mode ⟨x, (List.cons.inj modes).2.symm⟩

/-! ## Addresses -/

/-- Eight digits are read as the number they spell. -/
theorem address_eq {header : Header} (good : header.isWellFormed = true) :
    header.address = Number.digitsValue 16 header.digits := by
  have same : header.digits.filterMap Number.digitValue? =
      header.digits.filterMap (Number.digitIn? 16) := by
    refine List.filterMap_congr fun c member => ?_
    have known := Number.of_hexAlphabet
      (fun c => Number.digitValue? c == Number.digitIn? 16 c) (by decide)
      ((isWellFormed_iff.mp good).2 c member)
    simpa using known
  rw [address, same, Number.digitsValue]

end Header

/-- The digits spell the address of a site: eight of them, letters in either case. At an append
site any eight digits do. -/
structure Site.SpelledBy (site : Site) (digits : List Char) : Prop where
  size : digits.length = 8
  hex : ∀ c ∈ digits, c ∈ Number.hexAlphabet
  address : ∀ n, site.address? = some n →
    0 ≤ n ∧ n < Number.addressLimit ∧ digits.map Char.toUpper = Number.hex 8 n

theorem Header.address?_site (header : Header) :
    header.site.address? = if header.mode = .append then none else some (header.address : Int) := by
  cases mode : header.mode <;> simp [site, Site.ofMode, Site.address?, mode]

theorem Header.mode_site (header : Header) : header.site.mode = header.mode := by
  cases mode : header.mode <;> simp [site, Site.ofMode, Site.mode, mode]

theorem Header.spelledBy_site {header : Header} (good : header.isWellFormed = true) :
    header.site.SpelledBy header.digits := by
  obtain ⟨size, hex⟩ := isWellFormed_iff.mp good
  have filled : header.digits ≠ [] := List.ne_nil_of_length_pos (by omega)
  have spelled := Number.hex_digitsValue hex filled
  have bound := Number.digitsValue_lt hex
  rw [size] at spelled bound
  refine ⟨size, hex, fun n given => ?_⟩
  rw [address?_site, Option.ite_none_left_eq_some, Option.some.injEq, address_eq good] at given
  obtain ⟨-, rfl⟩ := given
  refine ⟨by omega, ?_, spelled.symm⟩
  rw [Number.addressLimit]
  omega

/-- Every address has a spelling, the one in upper case among them. -/
theorem Site.spelledBy_hex {site : Site}
    (inRange : ∀ n, site.address? = some n → 0 ≤ n ∧ n < Number.addressLimit) :
    site.SpelledBy (Number.hex 8 (site.address?.getD 0)) := by
  have bounds : 0 ≤ site.address?.getD 0 ∧ site.address?.getD 0 < Number.addressLimit := by
    cases given : site.address? with
    | none => decide
    | some n => exact inRange n given
  obtain ⟨size, hex, upper⟩ := Number.hex_facts bounds.1 bounds.2
  refine ⟨size, hex, fun n given => ?_⟩
  rw [given] at bounds upper ⊢
  exact ⟨bounds.1, bounds.2, upper⟩

theorem Site.SpelledBy.isWellFormed {site : Site} {digits : List Char}
    (spelled : site.SpelledBy digits) (mode : Mode) :
    Header.isWellFormed { mode, digits } = true :=
  Header.isWellFormed_iff.mpr ⟨spelled.size, spelled.hex⟩

/-- The header with a site's mode and digits names that site. -/
theorem Site.SpelledBy.site_eq {site : Site} {digits : List Char}
    (spelled : site.SpelledBy digits) : Header.site { mode := site.mode, digits } = site := by
  have value : ∀ n, site.address? = some n →
      (Header.address { mode := site.mode, digits } : Int) = n := by
    intro n given
    obtain ⟨positive, -, same⟩ := spelled.address n given
    rw [Header.address_eq (spelled.isWellFormed site.mode)]
    exact Number.digitsValue_of_hex positive spelled.hex same
  cases site with
  | append => rfl
  | hook address => exact congrArg Site.hook (value address rfl)
  | repl address => exact congrArg Site.repl (value address rfl)

end OverlayPatch
