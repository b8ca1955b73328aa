import Mathlib
import OverlayPatch.Proofs.HookLines

/-!
# What in an append body does not count

Between the declarations of an append body there may be blank lines and comments, and every line
may have blanks around it. Reading trims each line first, and all later decisions are about what
is left: whether it is empty, begins with a comment mark, or begins with a word and a colon. Said
of the lines as they stand in the body, these are `Idle` and `Named`, and no line is both, because
a word has no blank and no comment mark in it (`Named.not_idle`).

So edits of a body that only touch idle lines and the blanks around lines cannot be seen afterwards
(`map_trim_edit`), and neither can the difference between a body and its trimmed lines written below
each other. `readBody_edited` says so for any number of edits, and which line a body that cannot be
read is refused for.
-/

namespace OverlayPatch

set_option autoImplicit false

namespace Text

/-! ## Trimming -/

def Blanks (cs : List Char) : Prop :=
  ∀ c ∈ cs, isBlank c = true

variable {cs left right front rest : List Char}

theorem Blanks.append (one : Blanks left) (two : Blanks right) : Blanks (left ++ right) := by
  intro c member
  exact (List.mem_append.mp member).elim (one c) (two c)

theorem trimStart_append (blanks : Blanks left) (cs : List Char) :
    trimStart (left ++ cs) = trimStart cs :=
  List.dropWhile_append_of_pos blanks

theorem trimEnd_append (blanks : Blanks right) (cs : List Char) :
    trimEnd (cs ++ right) = trimEnd cs := by
  have turned : ∀ c ∈ right.reverse, isBlank c = true :=
    fun c member => blanks c (List.mem_reverse.mp member)
  rw [trimEnd, trimEnd, List.reverse_append, List.dropWhile_append_of_pos turned]

theorem trim_eq_nil (blanks : Blanks cs) : trim cs = [] := by
  have gone : trimStart cs = [] := List.dropWhile_eq_nil_iff.mpr blanks
  rw [trim, gone]
  rfl

/-- What is not blank in front stays in front. -/
theorem trimEnd_append_of_dark (dark : ∀ c ∈ front, isBlank c = false) (cs : List Char) :
    trimEnd (front ++ cs) = front ++ trimEnd cs := by
  induction front with
  | nil => rfl
  | cons c front ih =>
      obtain ⟨here, dark⟩ := List.forall_mem_cons.mp dark
      have step (cs : List Char) : trimEnd (c :: cs) = c :: trimEnd cs := by
        rw [trimEnd, trimEnd, List.reverse_cons, List.dropWhile_append]
        split
        · rename_i gone
          rw [List.isEmpty_iff.mp gone, List.dropWhile_cons_of_neg (by simp [here])]
          rfl
        · rw [List.reverse_append]
          rfl
      rw [List.cons_append, step, ih dark, List.cons_append]

/-- Blanks around a text make no difference to what is left of it. -/
theorem trim_pad (before : Blanks left) (after : Blanks right) (cs : List Char) :
    trim (left ++ cs ++ right) = trim cs := by
  rw [trim, trim, List.append_assoc, trimStart_append before]
  by_cases gone : trimStart cs = []
  · have blanks : Blanks cs := List.dropWhile_eq_nil_iff.mp gone
    have all : trimStart (cs ++ right) = [] :=
      List.dropWhile_eq_nil_iff.mpr (blanks.append after)
    rw [gone, all]
  · have kept : trimStart (cs ++ right) = trimStart cs ++ right := by
      rw [trimStart, List.dropWhile_append, if_neg (by simpa [trimStart] using gone)]
      rfl
    rw [kept, trimEnd_append after]

/-- Trimming takes away blanks at the ends and nothing else. -/
theorem exists_trim_eq (cs : List Char) :
    ∃ left right, Blanks left ∧ Blanks right ∧ cs = left ++ trim cs ++ right := by
  have lead : Blanks (cs.takeWhile isBlank) := fun _ member => List.mem_takeWhile_imp member
  have tail : Blanks ((trimStart cs).reverse.takeWhile isBlank).reverse := by
    intro c member
    exact List.mem_takeWhile_imp (List.mem_reverse.mp member)
  refine ⟨_, _, lead, tail, ?_⟩
  have inner : trim cs ++ ((trimStart cs).reverse.takeWhile isBlank).reverse = trimStart cs := by
    rw [trim, trimEnd, ← List.reverse_append, List.takeWhile_append_dropWhile, List.reverse_reverse]
  rw [List.append_assoc, inner]
  exact List.takeWhile_append_dropWhile.symm

theorem trim_trim (cs : List Char) : trim (trim cs) = trim cs := by
  obtain ⟨left, right, before, after, split⟩ := exists_trim_eq cs
  have same := trim_pad before after (trim cs)
  rw [← split] at same
  exact same.symm

theorem mem_of_mem_trim {c : Char} (member : c ∈ trim cs) : c ∈ cs := by
  obtain ⟨left, right, -, -, split⟩ := exists_trim_eq cs
  rw [split]
  simp [member]

/-- Behind blanks, a text that begins with other characters keeps them. -/
theorem trim_of_dark (blanks : Blanks left) (dark : ∀ c ∈ front, isBlank c = false)
    (filled : front ≠ []) (rest : List Char) :
    trim (left ++ front ++ rest) = front ++ trimEnd rest := by
  have stops : trimStart (front ++ rest) = front ++ rest := by
    obtain ⟨c, front, rfl⟩ := List.exists_cons_of_ne_nil filled
    exact List.dropWhile_cons_of_neg (by simp [dark c List.mem_cons_self])
  rw [trim, List.append_assoc, trimStart_append blanks, stops, trimEnd_append_of_dark dark]

/-- A text without blanks at its ends is not trimmed. -/
theorem trim_eq_self (first : ∀ c ∈ cs.head?, isBlank c = false)
    (last : ∀ c ∈ cs.getLast?, isBlank c = false) : trim cs = cs := by
  have stays {cs : List Char} (first : ∀ c ∈ cs.head?, isBlank c = false) :
      cs.dropWhile isBlank = cs := by
    cases cs with
    | nil => rfl
    | cons c cs => exact List.dropWhile_cons_of_neg (by simp [first c rfl])
  rw [trim, trimStart, stays first, trimEnd, stays (by simpa using last), List.reverse_reverse]

end Text

namespace Declaration

open Text

/-! ## Lines that count -/

def commentMarks : List (List Char) :=
  [['@'], [';'], ['/', '/']]

/-- A line that declares nothing: it is blank, or a comment mark stands behind its blanks. -/
inductive Idle : List Char → Prop where
  | blank {line : List Char} (blanks : Blanks line) : Idle line
  | comment {left mark rest : List Char} (blanks : Blanks left) (marked : mark ∈ commentMarks) :
      Idle (left ++ mark ++ rest)

/-- Behind its blanks the line begins with the name, a word, and a colon. -/
structure Named (name line : List Char) : Prop where
  filled : name ≠ []
  worded : ∀ c ∈ name, isWord c = true
  written : ∃ left rest, Blanks left ∧ line = left ++ name ++ ':' :: rest

variable {line name : List Char}

/-- A word has no blank in it. -/
theorem dark_of_word (worded : ∀ c ∈ name, isWord c = true) : ∀ c ∈ name, isBlank c = false := by
  intro c member
  by_contra blank
  have outside := isWord_of_isBlank (by simpa using blank)
  rw [worded c member] at outside
  cases outside

/-- No comment mark can be trimmed away. -/
theorem dark_of_mark {mark : List Char} (marked : mark ∈ commentMarks) :
    mark ≠ [] ∧ ∀ c ∈ mark, isBlank c = false := by
  have each : commentMarks.all fun mark => !mark.isEmpty && mark.all (!isBlank ·) := by decide
  have here := List.all_eq_true.mp each mark marked
  simpa [List.isEmpty_iff] using here

theorem isComment_iff : isComment line = true ↔ ∃ mark ∈ commentMarks, mark <+: line := by
  simp [isComment, commentMarks, or_assoc]

theorem nameOf?_eq_some :
    nameOf? line = some name ↔
      name ≠ [] ∧ (∀ c ∈ name, isWord c = true) ∧ ∃ rest, line = name ++ ':' :: rest := by
  constructor
  · intro found
    obtain ⟨split, worded⟩ := spanWord_spec line
    simp only [nameOf?] at found
    split at found
    · rename_i closed
      obtain rfl : (spanWord line).1 = name := by simpa using found
      simp only [Bool.and_eq_true, Bool.not_eq_true', List.isEmpty_eq_false_iff, beq_iff_eq]
        at closed
      obtain ⟨rest, tail⟩ := List.head?_eq_some_iff.mp closed.2
      exact ⟨closed.1, worded, rest, by rw [← tail, ← split]⟩
    · cases found
  · rintro ⟨filled, worded, rest, rfl⟩
    simp [nameOf?, spanWord_append worded isWord_colon, filled]

def counts (line : List Char) : Bool :=
  !(trim line).isEmpty && !isComment (trim line)

/-- The lines that declare nothing are those that are passed over. -/
theorem idle_iff : Idle line ↔ counts line = false := by
  constructor
  · intro idle
    cases idle with
    | blank blanks =>
        rw [counts, trim_eq_nil blanks]
        rfl
    | @comment left mark rest blanks marked =>
        obtain ⟨filled, dark⟩ := dark_of_mark marked
        have comment : isComment (mark ++ trimEnd rest) = true :=
          isComment_iff.mpr ⟨mark, marked, List.prefix_append _ _⟩
        rw [counts, trim_of_dark blanks dark filled, comment, Bool.not_true, Bool.and_false]
  · intro skipped
    obtain ⟨left, right, before, after, split⟩ := exists_trim_eq line
    by_cases empty : trim line = []
    · rw [empty, List.append_nil] at split
      exact .blank (split ▸ before.append after)
    · have comment : isComment (trim line) = true := by simpa [counts, empty] using skipped
      obtain ⟨mark, marked, rest, same⟩ := isComment_iff.mp comment
      rw [split, ← same, ← List.append_assoc, List.append_assoc _ rest]
      exact .comment before marked

theorem counts_iff : counts line = true ↔ ¬ Idle line := by
  rw [idle_iff, Bool.not_eq_false]

theorem named_iff : Named name line ↔ nameOf? (trim line) = some name := by
  rw [nameOf?_eq_some]
  constructor
  · rintro ⟨filled, worded, left, rest, blanks, rfl⟩
    have dark : ∀ c ∈ name ++ [':'], isBlank c = false := by
      intro c member
      rcases List.mem_append.mp member with inside | colon
      · exact dark_of_word worded c inside
      · rw [List.mem_singleton.mp colon]
        decide
    refine ⟨filled, worded, trimEnd rest, ?_⟩
    have kept := trim_of_dark blanks dark (by simp) rest
    simpa using kept
  · rintro ⟨filled, worded, rest, same⟩
    obtain ⟨left, right, before, -, split⟩ := exists_trim_eq line
    refine ⟨filled, worded, left, rest ++ right, before, ?_⟩
    rw [split, same]
    simp

/-- No declaration is taken for a comment. -/
theorem Named.not_idle (named : Named name line) : ¬ Idle line := by
  obtain ⟨filled, worded, rest, same⟩ := nameOf?_eq_some.mp (named_iff.mp named)
  have marks : commentMarks.all fun mark => mark.head?.any (!isWord ·) := by decide
  rw [idle_iff, counts, same]
  intro skipped
  have comment : isComment (name ++ ':' :: rest) = true := by simpa using skipped
  obtain ⟨mark, marked, starts⟩ := isComment_iff.mp comment
  have outside := List.all_eq_true.mp marks mark marked
  obtain ⟨c, name, rfl⟩ := List.exists_cons_of_ne_nil filled
  obtain ⟨d, mark, rfl⟩ := List.exists_cons_of_ne_nil (dark_of_mark marked).1
  obtain rfl : d = c := (List.cons_prefix_cons.mp starts).1
  simp [worded d List.mem_cons_self] at outside

/-! ## Reading -/

theorem linesOf_eq (body : List Char) :
    linesOf body = ((splitLines body).filter counts).map trim :=
  List.filter_map

/-- A body is read line by line, idle lines left out. -/
theorem readBody_eq (origin body : String) :
    readBody origin body =
      ((splitLines body.toList).filter counts).mapM (fun line => ofLine origin (trim line)) := by
  rw [readBody, linesOf_eq, List.mapM_map]
  rfl

/-- What a line declares: the name in front of its colon, and the line without blanks around it. -/
structure Declares (line : List Char) (declaration : Declaration) : Prop where
  named : Named declaration.name.toList line
  text : declaration.text.toList = trim line

theorem declares_of_ofLine {origin : String} {declaration : Declaration}
    (read : ofLine origin (trim line) = .ok declaration) : Declares line declaration := by
  unfold ofLine at read
  split at read
  · rename_i name found
    cases read
    exact ⟨by simpa using named_iff.mpr found, by simp⟩
  · cases read

theorem exists_ofLine_iff {origin : String} :
    (∃ declaration, ofLine origin (trim line) = .ok declaration) ↔ ∃ name, Named name line := by
  simp only [named_iff]
  unfold ofLine
  cases nameOf? (trim line) <;> simp

def unnamed (origin : String) (line : List Char) : Fault :=
  { cause := .unnamedDeclaration (String.ofList line)
    origin := some origin
    mode := some Mode.append.name
    hint := some "declare variables as 'name: <asm>'" }

theorem ofLine_eq_error_iff {origin : String} {fault : Fault} :
    ofLine origin (trim line) = .error fault ↔
      (¬ ∃ name, Named name line) ∧ fault = unnamed origin (trim line) := by
  simp only [named_iff]
  unfold ofLine
  cases nameOf? (trim line) <;> simp [unnamed, eq_comm]

/-- A body gives one declaration for each line that counts. -/
theorem forall₂_declares {origin body : String} {declarations : List Declaration}
    (read : readBody origin body = .ok declarations) :
    List.Forall₂ Declares ((splitLines body.toList).filter counts) declarations := by
  rw [readBody_eq] at read
  exact (forall₂_of_mapM_ok read).imp fun _ _ => declares_of_ofLine

/-- A body cannot be read if some line that counts has no name, and the first of them is told. -/
theorem readBody_eq_error_iff {origin body : String} {fault : Fault} :
    readBody origin body = .error fault ↔
      ∃ before line after, splitLines body.toList = before ++ line :: after ∧
        (∀ earlier ∈ before, Idle earlier ∨ ∃ name, Named name earlier) ∧
        ¬ Idle line ∧ (¬ ∃ name, Named name line) ∧ fault = unnamed origin (trim line) := by
  rw [readBody_eq, mapM_eq_error_iff]
  constructor
  · rintro ⟨front, line, back, split, read, failed⟩
    obtain ⟨before, rest, lines, rfl, counted⟩ := List.filter_eq_append_iff.mp split
    obtain ⟨skipped, after, rfl, idles, here, -⟩ := List.filter_eq_cons_iff.mp counted
    obtain ⟨bare, told⟩ := ofLine_eq_error_iff.mp failed
    refine ⟨before ++ skipped, line, after, by simp [lines], ?_, counts_iff.mp here, bare, told⟩
    intro earlier member
    by_cases idle : Idle earlier
    · exact .inl idle
    · have counted := counts_iff.mpr idle
      rcases List.mem_append.mp member with early | late
      · exact .inr (exists_ofLine_iff.mp (read _ (List.mem_filter.mpr ⟨early, counted⟩)))
      · exact absurd counted (idles earlier late)
  · rintro ⟨before, line, after, lines, earlier, here, bare, rfl⟩
    refine ⟨before.filter counts, line, after.filter counts, ?_, ?_,
      ofLine_eq_error_iff.mpr ⟨bare, rfl⟩⟩
    · rw [lines, List.filter_append, List.filter_cons_of_pos (counts_iff.mpr here)]
    · intro other member
      obtain ⟨inside, counted⟩ := List.mem_filter.mp member
      exact exists_ofLine_iff.mpr ((earlier other inside).resolve_left (counts_iff.mp counted))

/-! ## Edits -/

/-- An edit of a body, said of its lines: a line that declares nothing is put in, or blanks are
added or taken away at the ends of a line. -/
inductive Edit : List (List Char) → List (List Char) → Prop where
  | insert {before after : List (List Char)} {line : List Char} (idle : Idle line) :
      Edit (before ++ after) (before ++ line :: after)
  | widen {before after : List (List Char)} {line left right : List Char} (start : Blanks left)
      (stop : Blanks right) :
      Edit (before ++ line :: after) (before ++ (left ++ line ++ right) :: after)
  | narrow {before after : List (List Char)} {line left right : List Char} (start : Blanks left)
      (stop : Blanks right) :
      Edit (before ++ (left ++ line ++ right) :: after) (before ++ line :: after)

/-- A body becomes another one by any number of edits. -/
def Edited : String → String → Prop :=
  Relation.ReflTransGen fun body body' =>
    Edit (splitLines body.toList) (splitLines body'.toList)

theorem map_trim_pad {left right : List Char} (start : Blanks left) (stop : Blanks right)
    (line : List Char) (after : List (List Char)) :
    (((left ++ line ++ right) :: after).filter counts).map trim =
      ((line :: after).filter counts).map trim := by
  have same := trim_pad start stop line
  have decided : counts (left ++ line ++ right) = counts line := by rw [counts, counts, same]
  rw [List.filter_cons, List.filter_cons, decided]
  split
  · rw [List.map_cons, List.map_cons, same]
  · rfl

/-- The lines that count are the same after an edit, up to the blanks around them. -/
theorem map_trim_edit {lines lines' : List (List Char)} (edit : Edit lines lines') :
    (lines'.filter counts).map trim = (lines.filter counts).map trim := by
  cases edit with
  | insert idle =>
      rw [List.filter_append, List.filter_append,
        List.filter_cons_of_neg (by simp [idle_iff.mp idle])]
  | widen start stop | narrow start stop =>
      rw [List.filter_append, List.filter_append, List.map_append, List.map_append,
        map_trim_pad start stop]

/-- Edits do not show in what is read. -/
theorem readBody_congr {origin body body' : String} (edited : Edited body body') :
    readBody origin body' = readBody origin body := by
  induction edited with
  | refl => rfl
  | tail _ edit ih =>
      rw [← ih, readBody, readBody, linesOf_eq, linesOf_eq, map_trim_edit edit]

/-! ## Texts of declarations -/

/-- The lines that count, written below each other, are the lines that count. -/
theorem linesOf_joinLines (body : List Char) :
    linesOf (joinLines (linesOf body)) = linesOf body := by
  have kept : ∀ text ∈ linesOf body, '\n' ∉ text ∧ trim text = text ∧ counts text = true := by
    intro text member
    rw [linesOf_eq] at member
    obtain ⟨line, inside, rfl⟩ := List.mem_map.mp member
    obtain ⟨inside, counted⟩ := List.mem_filter.mp inside
    refine ⟨fun feed => not_mem_splitLines inside (mem_of_mem_trim feed), trim_trim line, ?_⟩
    rwa [counts, trim_trim]
  by_cases none : linesOf body = []
  · rw [none]
    rfl
  · rw [linesOf_eq, splitLines_joinLines none fun text member => (kept text member).1,
      List.filter_eq_self.mpr fun text member => (kept text member).2.2]
    rw [List.map_congr_left fun text member => (kept text member).2.1, List.map_id']

/-- A body that can be read gives one declaration for each line that is neither blank nor a comment,
and these are the lines that begin with a word and a colon. However often lines that declare nothing
are put in and blanks at the ends of lines are added or taken away, it gives the same declarations,
and so do their own texts written below each other. A body that cannot be read is refused for its
first line that is neither blank nor a comment and does not begin so, and the message quotes that
line without the blanks around it. -/
theorem readBody_edited (origin body : String) :
    (∀ declarations, readBody origin body = .ok declarations →
      (∀ line ∈ splitLines body.toList, (counts line = false ↔ Idle line) ∧
        (counts line = true ↔ ∃ name, Named name line)) ∧
      List.Forall₂ Declares ((splitLines body.toList).filter counts) declarations ∧
      (∀ body', Edited body body' → readBody origin body' = .ok declarations) ∧
      readBody origin (String.intercalate "\n" (declarations.map (·.text))) = .ok declarations) ∧
    ∀ fault, readBody origin body = .error fault →
      ∃ before line after, splitLines body.toList = before ++ line :: after ∧
        (∀ earlier ∈ before, Idle earlier ∨ ∃ name, Named name earlier) ∧
        ¬ Idle line ∧ (¬ ∃ name, Named name line) ∧
        fault.cause.message =
          "append line without a variable name: '" ++ String.ofList (trim line) ++ "'" := by
  refine ⟨fun declarations read => ⟨fun line member => ⟨idle_iff.symm, fun counted => ?_, ?_⟩,
    forall₂_declares read, fun body' edited => ?_, ?_⟩, fun fault failed => ?_⟩
  · have listed := List.mem_filter.mpr ⟨member, counted⟩
    obtain ⟨declaration, -, declares⟩ := exists_of_forall₂ (forall₂_declares read).flip listed
    exact ⟨_, declares.named⟩
  · rintro ⟨name, named⟩
    exact counts_iff.mpr named.not_idle
  · rw [readBody_congr edited, read]
  · have texts : declarations.map (·.text.toList) = linesOf body.toList := by
      rw [linesOf_eq]
      exact (map_eq_of_forall₂ (forall₂_declares read) fun _ _ declares => declares.text.symm).symm
    have joined : (String.intercalate "\n" (declarations.map (·.text))).toList =
        joinLines (linesOf body.toList) := by
      rw [toList_intercalate_lines, List.map_map, ← texts]
      rfl
    rw [readBody, joined, linesOf_joinLines]
    exact read
  · obtain ⟨before, line, after, lines, earlier, counts, bare, rfl⟩ :=
      readBody_eq_error_iff.mp failed
    exact ⟨before, line, after, lines, earlier, counts, bare, rfl⟩

/-- A body with a blank in front of an alias, and what becomes of it with a comment that looks like
a declaration put in and the blank taken away. -/
def spacedBody : String := "a: 7\n p: [a]"

def tidyBody : String := "a: 7\n\t// p:\np: [a]"

theorem edited_tidyBody : Edited spacedBody tidyBody := by
  have tab : Blanks ['\t'] := by simp [Blanks]; decide
  have space : Blanks [' '] := by simp [Blanks]; decide
  have comment : Idle ['\t', '/', '/', ' ', 'p', ':'] :=
    @Idle.comment ['\t'] ['/', '/'] [' ', 'p', ':'] tab (by decide)
  have inserted : Edit (splitLines spacedBody.toList)
      (splitLines "a: 7\n\t// p:\n p: [a]".toList) :=
    @Edit.insert ["a: 7".toList] [" p: [a]".toList] _ comment
  have narrowed : Edit (splitLines "a: 7\n\t// p:\n p: [a]".toList)
      (splitLines tidyBody.toList) :=
    @Edit.narrow ["a: 7".toList, "\t// p:".toList] [] "p: [a]".toList [' '] [] space
      (by simp [Blanks])
  exact .tail (.single inserted) narrowed

/-- A comment that looks like a declaration is put in, and a blank taken away. -/
theorem readBody_edited_tidy :
    readBody "menu" tidyBody = .ok
        [{ name := "a", text := "a: 7" }, { name := "p", text := "p: [a]", references := ["a"] }] ∧
      ∃ fault line, readBody "menu" "a: 7\n; b: 8\n\tnop \nb" = .error fault ∧ ¬ Idle line ∧
        fault.cause.message =
          "append line without a variable name: '" ++ String.ofList (trim line) ++ "'" := by
  have read : readBody "menu" spacedBody = .ok
      [{ name := "a", text := "a: 7" },
        { name := "p", text := "p: [a]", references := ["a"] }] := by
    decide +kernel
  have failed : readBody "menu" "a: 7\n; b: 8\n\tnop \nb" =
      .error (unnamed "menu" "nop".toList) := by decide +kernel
  refine ⟨((readBody_edited "menu" spacedBody).1 _ read).2.2.1 _ edited_tidyBody, ?_⟩
  obtain ⟨-, line, -, -, -, counted, -, told⟩ :=
    (readBody_edited "menu" "a: 7\n; b: 8\n\tnop \nb").2 _ failed
  exact ⟨_, line, failed, counted, told⟩

end Declaration

end OverlayPatch
