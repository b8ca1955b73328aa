import OverlayPatch.Proofs.Headers

/-!
# How a text is cut into directives

A text that can be read is a preamble and then, for each directive, a header and a body, with
nothing left over: `readAll_partition`. Headers are found wherever they stand, inside longer words
too, and none is missed, so no body holds another header.

Candidates are looked for only where a word begins. Once no candidate is malformed they are
exactly the headers that begin a word (`candidates_of_readAll`). The others cut a body all the
same: `headers_inside_words` shows a label that ends like a header.
-/

namespace OverlayPatch

set_option autoImplicit false

namespace Directive

open Text

/-! ## What reading needs -/

theorem firstMalformed?_eq_none (line : Nat) {pieces : List (Piece Header)} :
    firstMalformed? line pieces = none ↔ ∀ header ∈ finds pieces, header.isWellFormed = true := by
  induction pieces generalizing line with
  | nil => simp [firstMalformed?]
  | cons piece pieces ih =>
      cases piece with
      | plain c => simpa [firstMalformed?] using ih _
      | find header covers =>
          by_cases good : header.isWellFormed = true
          · simpa [firstMalformed?, good] using ih _
          · simp [firstMalformed?, good]

/-- A text is read if no candidate is malformed and there is a header; then the sections below the
headers are the directives. -/
theorem readAll_eq_ok {origin text : String} {directives : List Directive} :
    readAll origin text = .ok directives ↔
      (∀ header ∈ finds (scan Header.candidatePattern (foldNewlines text.toList)),
        header.isWellFormed = true) ∧
      directives ≠ [] ∧
      (sections (scan Header.pattern (foldNewlines text.toList))).2.map ofSection = directives := by
  rw [← firstMalformed?_eq_none 1, readAll]
  cases firstMalformed? 1 (scan Header.candidatePattern (foldNewlines text.toList)) with
  | some found => simp
  | none =>
      simp only [true_and, List.isEmpty_iff]
      split
      · rename_i empty
        simp only [empty, List.map_nil, reduceCtorEq, false_iff, not_and]
        exact fun some none => some none.symm
      · rename_i filled
        simp only [Except.ok.injEq]
        constructor
        · rintro rfl
          exact ⟨by simpa using filled, rfl⟩
        · exact fun found => found.2

/-! ## Headers and bodies -/

/-- The header is that of the directive: it has its mode, and digits that spell its address. Only
an append directive has none. -/
structure HeadedBy (directive : Directive) (header : Header) : Prop where
  mode : header.mode = directive.mode
  spelled : directive.site.SpelledBy header.digits
  value : ∀ n, directive.address? = some n → n = Number.digitsValue 16 header.digits
  unplaced : directive.address? = none ↔ directive.mode = .append

/-- A section becomes a directive with the header in front of it. -/
theorem headedBy_ofSection {header : Header} (good : header.isWellFormed = true)
    (body : List Char) : (ofSection (header, body)).HeadedBy header where
  mode := header.mode_site.symm
  spelled := header.spelledBy_site good
  value n placed := by
    change header.site.address? = some n at placed
    rw [header.address?_site] at placed
    rw [← Header.address_eq good]
    split at placed
    · cases placed
    · exact (Option.some.inj placed).symm
  unplaced := by
    change header.site.address? = none ↔ header.site.mode = .append
    rw [header.address?_site, header.mode_site]
    split <;> simp_all

def headedText (headed : Header × Directive) : List Char :=
  headed.1.text ++ headed.2.body.toList

def ofHeaded (section_ : Header × List Char) : Header × Directive :=
  (section_.1, ofSection section_)

theorem headedText_ofHeaded (section_ : Header × List Char) :
    headedText (ofHeaded section_) = sectionText Header.text section_ := by
  simp [headedText, ofHeaded, ofSection, sectionText]

theorem flatMap_headedText (sections : List (Header × List Char)) :
    (sections.map ofHeaded).flatMap headedText =
      sections.flatMap (sectionText Header.text) := by
  rw [List.flatMap_map]
  exact List.flatMap_congr fun section_ _ => headedText_ofHeaded section_

/-- Finds that all head sections stand in no body. -/
theorem not_infix_of_heads {preamble needle : List Char} {sections : List (Header × List Char)}
    (filled : needle ≠ [])
    (heads : ∀ before after, preamble ++ sections.flatMap (sectionText Header.text) =
        before ++ needle ++ after →
      ∃ earlier body later header, sections = earlier ++ (header, body) :: later ∧
        before = preamble ++ earlier.flatMap (sectionText Header.text)) :
    ¬ needle <:+: preamble ∧ ∀ section_ ∈ sections, ¬ needle <:+: section_.2 := by
  have long := List.length_pos_of_ne_nil filled
  constructor
  · rintro ⟨x, y, rfl⟩
    obtain ⟨earlier, -, -, -, -, same⟩ :=
      heads x (y ++ sections.flatMap (sectionText Header.text)) (by simp)
    have lengths := congrArg List.length same
    simp only [List.length_append] at lengths
    omega
  · rintro ⟨header, body⟩ member ⟨x, y, rfl⟩
    obtain ⟨done, rest, rfl⟩ := List.append_of_mem member
    obtain ⟨earlier, body', later, header', split, same⟩ :=
      heads (preamble ++ done.flatMap (sectionText Header.text) ++ header.text ++ x)
        (y ++ rest.flatMap (sectionText Header.text)) (by simp [sectionText])
    have lengths := congrArg List.length same
    simp only [List.length_append] at lengths
    -- The section found starts before the body or behind it, but not inside.
    rcases List.append_eq_append_iff.mp split with ⟨more, rfl, ends⟩ | ⟨more, rfl, -⟩
    · cases more with
      | nil => simp at lengths; have := List.length_pos_of_ne_nil header.text_ne_nil; omega
      | cons first more =>
          obtain ⟨rfl, -⟩ := List.cons.inj ends
          simp only [List.flatMap_append, List.flatMap_cons, sectionText, List.length_append]
            at lengths
          omega
    · simp only [List.flatMap_append, List.length_append] at lengths
      have := List.length_pos_of_ne_nil header.text_ne_nil
      omega

/-- A text that can be read is a preamble and the directives, each with its header and its body.
Wherever a header occurs in the text, it is that of a directive. -/
theorem readAll_partition {origin text : String} {directives : List Directive}
    (read : readAll origin text = .ok directives) :
    ∃ preamble headed, headed.map Prod.snd = directives ∧
      foldNewlines text.toList = preamble ++ headed.flatMap headedText ∧
      (∀ item ∈ headed, item.2.HeadedBy item.1) ∧
      (∀ before header after, header.isWellFormed = true →
        foldNewlines text.toList = before ++ header.text ++ after →
        ∃ earlier directive later, headed = earlier ++ (header, directive) :: later ∧
          before = preamble ++ earlier.flatMap headedText) ∧
      ∀ header : Header, header.isWellFormed = true →
        ¬ header.text <:+: preamble ∧
          ∀ directive ∈ directives, ¬ header.text <:+: directive.body.toList := by
  obtain ⟨-, -, rfl⟩ := readAll_eq_ok.mp read
  generalize foldNewlines text.toList = cs
  have cuts := (scan_eq_iff Header.literal_pattern.covers).mp (rfl : scan Header.pattern cs = _)
  have whole := cuts.written Header.literal_pattern
  have heads : ∀ (header : Header) before after, header.isWellFormed = true →
      cs = before ++ header.text ++ after →
      ∃ earlier body later,
        (sections (scan Header.pattern cs)).2 = earlier ++ (header, body) :: later ∧
        before = (sections (scan Header.pattern cs)).1 ++
          earlier.flatMap (sectionText Header.text) := by
    intro header before after good split
    rw [List.append_assoc] at split
    exact cuts.exists_section Header.literal_pattern Header.apart_pattern split
      (Header.pattern_eq_some.mpr ⟨good, ⟨after, rfl⟩, rfl⟩)
  refine ⟨(sections (scan Header.pattern cs)).1,
    (sections (scan Header.pattern cs)).2.map ofHeaded, ?_, ?_, ?_, ?_, ?_⟩
  · rw [List.map_map]
    rfl
  · rw [flatMap_headedText]
    exact whole
  · intro item member
    obtain ⟨⟨header, body⟩, inside, rfl⟩ := List.mem_map.mp member
    have listed : header ∈ finds (scan Header.pattern cs) := by
      rw [← map_fst_sections]
      exact List.mem_map_of_mem inside
    obtain ⟨_, _, _, found⟩ := cuts.found listed
    exact headedBy_ofSection (Header.pattern_eq_some.mp found).1 body
  · intro before header after good split
    obtain ⟨earlier, body, later, listed, same⟩ := heads header before after good split
    refine ⟨earlier.map ofHeaded, ofSection (header, body), later.map ofHeaded, ?_, ?_⟩
    · rw [listed, List.map_append, List.map_cons]
      rfl
    · rw [flatMap_headedText]
      exact same
  · intro header good
    have clear := not_infix_of_heads header.text_ne_nil (fun before after split => by
      obtain ⟨earlier, body, later, listed, same⟩ :=
        heads header before after good (whole.trans split)
      exact ⟨earlier, body, later, header, listed, same⟩)
    refine ⟨clear.1, fun directive member => ?_⟩
    obtain ⟨section_, inside, rfl⟩ := List.mem_map.mp member
    simpa [ofSection] using clear.2 section_ inside

/-- A header that ends a longer word, line ends of both kinds, and an append block. -/
def nestedText : String :=
  "; menu\r\nmy_ahook_020c7ABC:\r\n bx lr\naappend_FFFFFFFF: v: .word 1"

def nestedDirectives : List Directive :=
  [{ site := .hook 0x020C7ABC, body := "\n bx lr\n" }, { site := .append, body := " v: .word 1" }]

/-- A header inside a longer word cuts the text too. -/
theorem readAll_partition_nested :
    readAll "menu" nestedText = .ok nestedDirectives ∧
      ∃ preamble headed, headed.map Prod.snd = nestedDirectives ∧
        foldNewlines nestedText.toList = preamble ++ headed.flatMap headedText ∧
        ∃ earlier directive later,
          headed = earlier ++ ({ mode := .hook, digits := "020c7ABC".toList }, directive) :: later ∧
          "; menu\nmy_".toList = preamble ++ earlier.flatMap headedText := by
  have read : readAll "menu" nestedText = .ok nestedDirectives := by decide +kernel
  obtain ⟨preamble, headed, listed, whole, -, heads, -⟩ := readAll_partition read
  refine ⟨read, preamble, headed, listed, whole, ?_⟩
  exact heads _ { mode := .hook, digits := "020c7ABC".toList }
    "\n bx lr\naappend_FFFFFFFF: v: .word 1".toList (by decide) (by decide +kernel)

/-! ## Headers and candidates -/

/-- The place behind so many characters is inside a word or at its end. -/
def behindWord (cs : List Char) (position : Nat) : Bool :=
  (cs.take position).getLast?.any isWord

/-- Where a candidate has to be a header, the two patterns differ inside words only. -/
theorem candidatePattern_of_isWellFormed {before : Option Char} {cs : List Char}
    (good : ∀ header size, Header.candidatePattern before cs = some (header, size) →
      header.isWellFormed = true) :
    Header.candidatePattern before cs =
      if before.any isWord then none else Header.pattern before cs := by
  split
  · rename_i inside
    rw [Header.candidatePattern, if_pos inside]
  · rename_i outside
    rw [Bool.not_eq_true] at outside
    apply Option.ext
    rintro ⟨header, size⟩
    constructor
    · intro found
      obtain ⟨-, -, starts⟩ := Header.candidatePattern_eq_some.mp found
      exact Header.pattern_eq_some.mpr ⟨good header size found, starts⟩
    · intro found
      obtain ⟨wellFormed, starts⟩ := Header.pattern_eq_some.mp found
      exact Header.candidatePattern_eq_some.mpr
        ⟨outside, Header.worded_of_isWellFormed wellFormed, starts⟩

/-- Candidates that are all headers are the headers behind which no word goes on. -/
theorem occurrences_candidates (done cs : List Char)
    (good : ∀ place ∈ occurrencesFrom Header.candidatePattern done.length done.getLast? cs,
      place.2.isWellFormed = true) :
    occurrencesFrom Header.candidatePattern done.length done.getLast? cs =
      (occurrencesFrom Header.pattern done.length done.getLast? cs).filter
        fun place => !behindWord (done ++ cs) place.1 := by
  induction cs generalizing done with
  | nil => rfl
  | cons c cs ih =>
      have here : Header.candidatePattern done.getLast? (c :: cs) =
          if done.getLast?.any isWord then none
          else Header.pattern done.getLast? (c :: cs) := by
        apply candidatePattern_of_isWellFormed
        intro header size found
        exact good (done.length, header) (by simp [occurrencesFrom, found])
      have step := ih (done ++ [c])
      simp only [List.length_append, List.length_singleton, List.getLast?_concat,
        List.append_assoc, List.singleton_append] at step
      have place : behindWord (done ++ c :: cs) done.length = done.getLast?.any isWord := by
        rw [behindWord, List.take_left]
      simp only [occurrencesFrom, here] at good ⊢
      cases inside : done.getLast?.any isWord with
      | true =>
          simp only [inside, if_true] at good ⊢
          cases Header.pattern done.getLast? (c :: cs) with
          | none => exact step good
          | some found => simpa [place, inside] using step good
      | false =>
          simp only [inside, Bool.false_eq_true, if_false] at good ⊢
          cases found : Header.pattern done.getLast? (c :: cs) with
          | none =>
              rw [found] at good
              exact step good
          | some find =>
              rw [found] at good
              have rest := step fun place member => good place (List.mem_cons_of_mem _ member)
              simpa [place, inside] using rest

/-- In a text that can be read the candidates are the headers that begin a word. So they are all
headers exactly if no header stands behind a character of a word. -/
theorem candidates_of_readAll {origin text : String} {directives : List Directive}
    (read : readAll origin text = .ok directives) :
    let cs := foldNewlines text.toList
    places (scan Header.candidatePattern cs) =
      (places (scan Header.pattern cs)).filter (fun place => !behindWord cs place.1) ∧
    (places (scan Header.candidatePattern cs) = places (scan Header.pattern cs) ↔
      ∀ place ∈ places (scan Header.pattern cs), behindWord cs place.1 = false) := by
  obtain ⟨good, -⟩ := readAll_eq_ok.mp read
  intro cs
  have candidates := (scan_eq_iff Header.literal_candidatePattern.covers).mp
    (rfl : scan Header.candidatePattern cs = _)
  have headers := (scan_eq_iff Header.literal_pattern.covers).mp
    (rfl : scan Header.pattern cs = _)
  have same : places (scan Header.candidatePattern cs) =
      (places (scan Header.pattern cs)).filter (fun place => !behindWord cs place.1) := by
    have all : ∀ place ∈ places (scan Header.candidatePattern cs),
        place.2.isWellFormed = true := by
      intro place member
      exact good place.2 (mem_finds_of_placesFrom member)
    rw [places, candidates.places_eq Header.apart_candidatePattern] at all ⊢
    rw [places, headers.places_eq Header.apart_pattern]
    exact occurrences_candidates [] cs all
  refine ⟨same, ?_⟩
  rw [same, List.filter_eq_self]
  simp

/-- A hook whose body holds a label that ends like a header. -/
def labelText : String :=
  "ahook_02000000:\n nop\nmy_arepl_02000000:\n nop\n"

/-- The label is no candidate, and it cuts the body of the hook in two. -/
theorem headers_inside_words :
    readAll "menu" labelText = .ok
      [{ site := .hook 0x02000000, body := "\n nop\nmy_" },
        { site := .repl 0x02000000, body := "\n nop\n" }] ∧
    places (scan Header.candidatePattern (foldNewlines labelText.toList)) ≠
      places (scan Header.pattern (foldNewlines labelText.toList)) := by
  decide +kernel

/-- A label that ends like a header is a header and no candidate. -/
theorem candidates_of_readAll_label :
    (places (scan Header.pattern (foldNewlines labelText.toList))).map Prod.fst = [0, 24] ∧
    (places (scan Header.candidatePattern (foldNewlines labelText.toList))).map Prod.fst = [0] := by
  have read : readAll "menu" labelText = .ok
      [{ site := .hook 0x02000000, body := "\n nop\nmy_" },
        { site := .repl 0x02000000, body := "\n nop\n" }] := by decide +kernel
  refine ⟨by decide +kernel, ?_⟩
  rw [(candidates_of_readAll read).1]
  decide +kernel

end Directive

end OverlayPatch
