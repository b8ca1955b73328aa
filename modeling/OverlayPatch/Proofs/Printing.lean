import OverlayPatch.Proofs.Directives

/-!
# Directives that are printed and read

`print` writes a preamble and directives, each with a header in digits of either case, and
`writeNewlines` then chooses for every line feed how it is written. Reading gives the directives
back (`readAll_print`) as long as the preamble and the bodies are *inert*: nothing in them looks
like a header, and none of them ends with a character of a word, which the next header would
continue.

Both header patterns go through one argument. They differ only in what they accept behind which
character (`Seeks`), and an inert stretch holds nothing for either, whatever is printed behind it.
-/

namespace OverlayPatch

set_option autoImplicit false

namespace Text

/-! ## Line ends -/

/-- Writes a line feed with a carriage return before it where `wide` says so, by its position. -/
def writeNewlines (wide : Nat → Bool) : Nat → List Char → List Char
  | _, [] => []
  | n, c :: cs =>
      if c = '\n' ∧ wide n then '\r' :: '\n' :: writeNewlines wide (n + 1) cs
      else c :: writeNewlines wide (n + 1) cs

theorem foldNewlines_cons {c : Char} (plain : c ≠ '\r') (cs : List Char) :
    foldNewlines (c :: cs) = c :: foldNewlines cs := by
  rw [foldNewlines]
  intro _ carriage
  exact absurd carriage plain

/-- However line feeds are written, folding gives the text back. -/
theorem foldNewlines_writeNewlines (wide : Nat → Bool) (n : Nat) {cs : List Char}
    (plain : '\r' ∉ cs) : foldNewlines (writeNewlines wide n cs) = cs := by
  induction cs generalizing n with
  | nil => rfl
  | cons c cs ih =>
      have first : c ≠ '\r' := fun same => plain (by simp [same])
      have rest := ih (n + 1) fun member => plain (List.mem_cons_of_mem c member)
      rw [writeNewlines]
      split
      · rename_i chosen
        rw [foldNewlines, rest, chosen.1]
      · rw [foldNewlines_cons first, rest]

end Text

namespace Header

open Text

/-! ## Inert stretches -/

/-- The pattern finds a header-shaped text wherever it accepts it behind the character before. It
accepts words only, every well-formed header where a word begins, and takes no notice of a
character that belongs to no word. -/
structure Seeks (pattern : Pattern Header) (accepts : Option Char → Header → Prop) : Prop where
  eq_some : ∀ {before cs header size}, pattern before cs = some (header, size) ↔
    accepts before header ∧ (∃ rest, cs = header.text ++ rest) ∧ size = header.text.length
  worded : ∀ {before header}, accepts before header → header.Worded
  opens : ∀ {before header}, before.any isWord = false → header.isWellFormed = true →
    accepts before header
  outside : ∀ {before header}, before.any isWord = false → accepts before header →
    accepts none header

/-- Headers are found wherever they stand. -/
theorem seeks_pattern : Seeks pattern fun _ header => header.isWellFormed = true where
  eq_some := pattern_eq_some
  worded := worded_of_isWellFormed
  opens _ good := good
  outside _ good := good

theorem seeks_candidatePattern :
    Seeks candidatePattern fun before header => before.any isWord = false ∧ header.Worded where
  eq_some := by
    intro before cs header size
    rw [candidatePattern_eq_some, and_assoc]
  worded accepted := accepted.2
  opens outside good := ⟨outside, worded_of_isWellFormed good⟩
  outside _ accepted := ⟨rfl, accepted.2⟩

/-- Nothing in the text looks like a header, and it does not end inside a word. -/
structure Inert (cs : List Char) : Prop where
  folded : '\r' ∉ cs
  noHeader : finds (scan pattern cs) = []
  noCandidate : finds (scan candidatePattern cs) = []
  ends : cs.getLast?.any isWord = false

variable {pattern : Pattern Header} {accepts : Option Char → Header → Prop}

theorem Seeks.literal (seeks : Seeks pattern accepts) : pattern.Literal text where
  ne_nil := text_ne_nil
  spelled found := (seeks.eq_some.mp found).2

/-- Whatever follows a stretch without finds that does not end inside a word, there is no find in
it. -/
theorem Seeks.nothing (seeks : Seeks pattern accepts) {run : List Char}
    (empty : finds (scan pattern run) = []) (ends : run.getLast?.any isWord = false)
    {before : Option Char} (outside : before.any isWord = false) (cs : List Char) :
    ∀ x y, run = x ++ y → y ≠ [] → pattern (behind before x) (y ++ cs) = none := by
  intro x y split filled
  rw [Option.eq_none_iff_forall_ne_some]
  rintro ⟨header, size⟩ found
  obtain ⟨accepted, ⟨rest, same⟩, -⟩ := seeks.eq_some.mp found
  rcases behind_or_inside same.symm with ⟨y', rfl, -⟩ | ⟨rest', more, cut, -⟩
  · -- All of the header stands in the stretch, where it would have been found.
    have alone : accepts (behind none x) header := by
      by_cases start : x = []
      · subst start
        exact seeks.outside outside accepted
      · rwa [behind_of_ne_nil start] at accepted ⊢
    have cuts := (scan_eq_iff seeks.literal.covers).mp (rfl : scan pattern run = _)
    have none := cuts.eq_none_of_finds_nil empty split filled
    rw [seeks.eq_some.mpr ⟨alone, ⟨y', rfl⟩, rfl⟩] at none
    cases none
  · -- The stretch would end inside the word of the header.
    obtain ⟨tail, inWord, -⟩ := exists_word_of_text cut more
    have last : isWord (y.getLast filled) = true :=
      (seeks.worded accepted).word _ (by
        rw [inWord]
        exact List.mem_append_left _ (List.getLast_mem filled))
    rw [split, List.getLast?_append_of_ne_nil _ filled, List.getLast?_eq_some_getLast filled,
      Option.any_some, last] at ends
    cases ends

/-- Headers and inert bodies are cut into just these, behind anything but a word. -/
theorem Seeks.cuts_sections (seeks : Seeks pattern accepts) {parts : List (Header × List Char)}
    (good : ∀ part ∈ parts, part.1.isWellFormed = true)
    (empty : ∀ part ∈ parts, finds (scan pattern part.2) = [])
    (ends : ∀ part ∈ parts, part.2.getLast?.any isWord = false)
    {before : Option Char} (outside : before.any isWord = false) :
    Cuts pattern before (parts.flatMap (sectionText text))
      (parts.flatMap (sectionPieces text)) := by
  induction parts generalizing before with
  | nil => exact .done
  | cons part parts ih =>
      obtain ⟨header, body⟩ := part
      have here : ∀ rest, pattern before (header.text ++ rest) =
          some (header, header.text.length) := fun rest =>
        seeks.eq_some.mpr ⟨seeks.opens outside (good (header, body) (by simp)), ⟨rest, rfl⟩, rfl⟩
      have colon : behind before header.text = some ':' := by
        rw [behind_of_ne_nil header.text_ne_nil, text_eq, List.getLast?_concat]
      have quiet : (behind (some ':') body).any isWord = false := by
        by_cases none : body = []
        · subst none
          exact isWord_colon
        · rw [behind_of_ne_nil none]
          exact ends (header, body) (by simp)
      have rest := ih (fun part member => good part (by simp [member]))
        (fun part member => empty part (by simp [member]))
        (fun part member => ends part (by simp [member])) quiet
      have outside' : (some ':').any isWord = false := isWord_colon
      have below := Cuts.append_plain (seeks.nothing (empty (header, body) (by simp))
        (ends (header, body) (by simp)) outside' _) rest
      simp only [List.flatMap_cons, sectionText, sectionPieces, List.append_assoc]
      exact .find header.text_ne_nil (here _) (colon ▸ below)

/-- The scan of an inert preamble and sections with inert bodies. -/
theorem Seeks.scan_written (seeks : Seeks pattern accepts) {preamble : List Char}
    {parts : List (Header × List Char)}
    (empty : finds (scan pattern preamble) = []) (ends : preamble.getLast?.any isWord = false)
    (good : ∀ part ∈ parts, part.1.isWellFormed = true)
    (emptyBodies : ∀ part ∈ parts, finds (scan pattern part.2) = [])
    (endsBodies : ∀ part ∈ parts, part.2.getLast?.any isWord = false) :
    scan pattern (preamble ++ parts.flatMap (sectionText text)) =
      preamble.map .plain ++ parts.flatMap (sectionPieces text) := by
  refine (scan_eq_iff seeks.literal.covers).mpr ?_
  refine Cuts.append_plain (seeks.nothing empty ends rfl _) ?_
  rw [behind_none]
  exact seeks.cuts_sections good emptyBodies endsBodies ends

end Header

namespace Directive

open Text Header

/-! ## Printing -/

def section_ (item : List Char × Directive) : Header × List Char :=
  ({ mode := item.2.mode, digits := item.1 }, item.2.body.toList)

/-- A preamble, then each directive with the digits of its header. -/
def print (preamble : List Char) (items : List (List Char × Directive)) : List Char :=
  preamble ++ items.flatMap fun item =>
    ('a' :: item.2.mode.letters ++ '_' :: item.1 ++ [':']) ++ item.2.body.toList

theorem print_eq (preamble : List Char) (items : List (List Char × Directive)) :
    print preamble items = preamble ++ (items.map section_).flatMap (sectionText Header.text) := by
  rw [print, List.flatMap_map]
  rfl

theorem not_mem_text {header : Header} (worded : header.Worded) : '\r' ∉ header.text := by
  rw [text_eq, List.mem_append]
  rintro (inWord | colon)
  · have word := worded.word _ inWord
    revert word
    decide
  · revert colon
    decide

theorem not_mem_print {preamble : List Char} {items : List (List Char × Directive)}
    (quiet : Inert preamble) (bodies : ∀ item ∈ items, Inert item.2.body.toList)
    (spelled : ∀ item ∈ items, item.2.site.SpelledBy item.1) : '\r' ∉ print preamble items := by
  rw [print_eq, List.mem_append]
  rintro (first | later)
  · exact quiet.folded first
  · obtain ⟨_, member, inside⟩ := List.mem_flatMap.mp later
    obtain ⟨item, listed, rfl⟩ := List.mem_map.mp member
    rcases List.mem_append.mp inside with head | body
    · exact not_mem_text (worded_of_isWellFormed ((spelled item listed).isWellFormed _)) head
    · exact (bodies item listed).folded body

theorem ofSection_section_ {item : List Char × Directive}
    (spelled : item.2.site.SpelledBy item.1) : ofSection (section_ item) = item.2 := by
  obtain ⟨digits, site, body⟩ := item
  have same := spelled.site_eq
  simp only [ofSection, section_, String.ofList_toList]
  exact congrArg (fun site => ({ site, body } : Directive)) same

/-- Directives that are printed behind an inert preamble, with inert bodies, headers that spell
their addresses in digits of either case and any choice of line ends, are read as they were. -/
theorem readAll_print (origin : String) (wide : Nat → Bool) {preamble : List Char}
    {items : List (List Char × Directive)} (filled : items ≠ []) (quiet : Inert preamble)
    (bodies : ∀ item ∈ items, Inert item.2.body.toList)
    (spelled : ∀ item ∈ items, item.2.site.SpelledBy item.1) :
    readAll origin (String.ofList (writeNewlines wide 0 (print preamble items))) =
      .ok (items.map Prod.snd) := by
  have good : ∀ part ∈ items.map section_, part.1.isWellFormed = true := by
    intro part member
    obtain ⟨item, listed, rfl⟩ := List.mem_map.mp member
    exact (spelled item listed).isWellFormed _
  have inert : ∀ part ∈ items.map section_, Inert part.2 := by
    intro part member
    obtain ⟨item, listed, rfl⟩ := List.mem_map.mp member
    exact bodies item listed
  have headers := seeks_pattern.scan_written quiet.noHeader quiet.ends good
    (fun part member => (inert part member).noHeader) (fun part member => (inert part member).ends)
  have candidates := seeks_candidatePattern.scan_written quiet.noCandidate quiet.ends good
    (fun part member => (inert part member).noCandidate)
    (fun part member => (inert part member).ends)
  rw [readAll_eq_ok, String.toList_ofList,
    foldNewlines_writeNewlines wide 0 (not_mem_print quiet bodies spelled), print_eq, headers,
    candidates]
  refine ⟨?_, by simpa using filled, ?_⟩
  · intro header member
    rw [← map_fst_sections, sections_plain, sections_sectionPieces] at member
    obtain ⟨part, listed, rfl⟩ := List.mem_map.mp member
    exact good part listed
  · rw [sections_plain, sections_sectionPieces, List.map_map]
    exact List.map_congr_left fun item listed => ofSection_section_ (spelled item listed)

/-- Line ends of both kinds, digits in either case and a directive with an empty body. -/
theorem readAll_print_mixed :
    readAll "menu" (String.ofList (writeNewlines (fun n => n % 2 == 0) 0
      (print "; the aappend_ block\ncomes last\n".toList
        [("020c7aBC".toList, { site := .hook 0x020C7ABC, body := "\n bx lr\n" }),
          (Number.hex 8 0xFFFFFFFF, { site := .repl 0xFFFFFFFF, body := "" }),
          ("deadBEEF".toList, { site := .append, body := " v: .word 1\n" })]))) =
      .ok
        [{ site := .hook 0x020C7ABC, body := "\n bx lr\n" },
          { site := .repl 0xFFFFFFFF, body := "" },
          { site := .append, body := " v: .word 1\n" }] := by
  have hook := isWellFormed_iff.mp
    (by decide : isWellFormed { mode := .hook, digits := "020c7aBC".toList } = true)
  have append := isWellFormed_iff.mp
    (by decide : isWellFormed { mode := .append, digits := "deadBEEF".toList } = true)
  refine readAll_print "menu" _ (by simp) ⟨by decide, by decide +kernel, by decide +kernel,
    by decide +kernel⟩ ?_ ?_
  · simp only [List.forall_mem_cons, List.not_mem_nil, false_imp_iff, implies_true, and_true]
    exact ⟨⟨by decide, by decide +kernel, by decide +kernel, by decide +kernel⟩,
      ⟨by decide, by decide +kernel, by decide +kernel, by decide +kernel⟩,
      ⟨by decide, by decide +kernel, by decide +kernel, by decide +kernel⟩⟩
  · simp only [List.forall_mem_cons, List.not_mem_nil, false_imp_iff, implies_true, and_true]
    refine ⟨⟨hook.1, hook.2, ?_⟩, Site.spelledBy_hex ?_, ⟨append.1, append.2, ?_⟩⟩
    · rintro _ ⟨⟩
      decide
    · rintro _ ⟨⟩
      decide
    · rintro _ ⟨⟩

end Directive

end OverlayPatch
