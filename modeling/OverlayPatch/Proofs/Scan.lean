import OverlayPatch.Text.Scan
import Mathlib

/-!
# What a scan finds

`scan` counts down the characters that a find covers. `Cuts` says the same without counting: at
each place the pattern finds nothing and one character is set aside, or it finds something and the
scan goes on behind it. The two agree (`scan_eq_iff`), so scans are reasoned about by the cases of
`Cuts`, and a scan is known as soon as its cuts are.

Two properties of a pattern decide what a scan can miss:

* *literal*: what the pattern finds is spelled out where it is found. Then the text before the
  first find and the sections behind it, written one after the other, are the text again
  (`Cuts.written`);
* *apart*: no find starts inside another. Then going from left to right misses nothing, and every
  place at which the pattern finds something heads a section (`Cuts.exists_section`). Listed by
  their positions, the finds are all occurrences (`Cuts.places_eq`).

A pattern that is *free* looks ahead only, so a scan goes on behind a find as it would begin there.
-/

namespace OverlayPatch.Text

set_option autoImplicit false

variable {α : Type} {pattern : Pattern α}

/-! ## Cuts -/

@[simp] theorem finds_nil : finds ([] : List (Piece α)) = [] := rfl

@[simp] theorem finds_plain (c : Char) (pieces : List (Piece α)) :
    finds (.plain c :: pieces) = finds pieces := rfl

@[simp] theorem finds_find (value : α) (covers : List Char) (pieces : List (Piece α)) :
    finds (.find value covers :: pieces) = value :: finds pieces := rfl

/-- The pattern covers some of the text whenever it finds something. -/
def Pattern.Covers (pattern : Pattern α) : Prop :=
  ∀ before cs value size, pattern before cs = some (value, size) → 0 < size ∧ size ≤ cs.length

/-- The character before a place, `run` being the text read since `before`. -/
def behind (before : Option Char) (run : List Char) : Option Char :=
  run.getLast?.or before

@[simp] theorem behind_nil (before : Option Char) : behind before [] = before := rfl

@[simp] theorem behind_none (run : List Char) : behind none run = run.getLast? :=
  Option.or_none

theorem behind_append (before : Option Char) (run more : List Char) :
    behind before (run ++ more) = behind (behind before run) more := by
  simp [behind, Option.or_assoc]

theorem behind_cons (before : Option Char) (c : Char) (run : List Char) :
    behind before (c :: run) = behind (some c) run :=
  behind_append before [c] run

theorem behind_of_ne_nil {run : List Char} (filled : run ≠ []) (before : Option Char) :
    behind before run = run.getLast? := by
  cases run with
  | nil => contradiction
  | cons c run => simp [behind, List.getLast?_cons]

/-- A scan that goes on at `cs` behind `before` cuts it into the pieces. -/
inductive Cuts (pattern : Pattern α) : Option Char → List Char → List (Piece α) → Prop where
  | done {before : Option Char} : Cuts pattern before [] []
  | plain {before : Option Char} {c : Char} {cs : List Char} {pieces : List (Piece α)}
      (nothing : pattern before (c :: cs) = none) (rest : Cuts pattern (some c) cs pieces) :
      Cuts pattern before (c :: cs) (.plain c :: pieces)
  | find {before : Option Char} {covers cs : List Char} {value : α} {pieces : List (Piece α)}
      (filled : covers ≠ []) (here : pattern before (covers ++ cs) = some (value, covers.length))
      (rest : Cuts pattern (behind before covers) cs pieces) :
      Cuts pattern before (covers ++ cs) (.find value covers :: pieces)

theorem scanFrom_skip (pattern : Pattern α) (run : List Char) (before : Option Char)
    (cs : List Char) :
    scanFrom pattern run.length before (run ++ cs) = scanFrom pattern 0 (behind before run) cs := by
  induction run generalizing before with
  | nil => rfl
  | cons c run ih => rw [List.length_cons, List.cons_append, scanFrom, ih, behind_cons]

theorem scanFrom_plain {before : Option Char} {c : Char} {cs : List Char}
    (nothing : pattern before (c :: cs) = none) :
    scanFrom pattern 0 before (c :: cs) = .plain c :: scanFrom pattern 0 (some c) cs := by
  rw [scanFrom, nothing]

theorem scanFrom_find {before : Option Char} {covers cs : List Char} {value : α}
    (filled : covers ≠ []) (here : pattern before (covers ++ cs) = some (value, covers.length)) :
    scanFrom pattern 0 before (covers ++ cs) =
      .find value covers :: scanFrom pattern 0 (behind before covers) cs := by
  obtain ⟨c, run, rfl⟩ := List.exists_cons_of_ne_nil filled
  rw [List.cons_append] at here ⊢
  rw [scanFrom, here, behind_cons, ← scanFrom_skip]
  simp

/-- A way to cut a text is the one that a scan takes. -/
theorem scanFrom_of_cuts {before : Option Char} {cs : List Char} {pieces : List (Piece α)}
    (cuts : Cuts pattern before cs pieces) : scanFrom pattern 0 before cs = pieces := by
  induction cuts with
  | done => rfl
  | plain nothing _ ih => rw [scanFrom_plain nothing, ih]
  | find filled here _ ih => rw [scanFrom_find filled here, ih]

/-- A scan cuts the text. -/
theorem cuts_scanFrom (covers : pattern.Covers) (before : Option Char) (cs : List Char) :
    Cuts pattern before cs (scanFrom pattern 0 before cs) := by
  -- A find takes any number of characters, so the induction is on what is left.
  induction left : cs.length using Nat.strongRecOn generalizing before cs with
  | ind n ih =>
      subst left
      cases cs with
      | nil => exact .done
      | cons c cs =>
          cases found : pattern before (c :: cs) with
          | none =>
              rw [scanFrom_plain found]
              exact .plain found (ih _ (by simp) _ _ rfl)
          | some find =>
              obtain ⟨value, size⟩ := find
              obtain ⟨positive, within⟩ := covers _ _ _ _ found
              have length : ((c :: cs).take size).length = size := by simpa using within
              have filled : (c :: cs).take size ≠ [] := List.ne_nil_of_length_pos (by omega)
              have here : pattern before ((c :: cs).take size ++ (c :: cs).drop size) =
                  some (value, ((c :: cs).take size).length) := by
                rw [List.take_append_drop, found, length]
              have step := scanFrom_find filled here
              rw [List.take_append_drop] at step
              have rest := Cuts.find filled here
                (ih _ (by rw [List.length_drop]; omega) _ _ rfl)
              rwa [List.take_append_drop, ← step] at rest

/-- A scan is the one way to cut a text. -/
theorem scan_eq_iff (covers : pattern.Covers) {cs : List Char} {pieces : List (Piece α)} :
    scan pattern cs = pieces ↔ Cuts pattern none cs pieces :=
  ⟨fun same => same ▸ cuts_scanFrom covers none cs, scanFrom_of_cuts⟩

/-- A stretch in which the pattern finds nothing is cut into its characters. -/
theorem Cuts.append_plain {before : Option Char} {run cs : List Char} {pieces : List (Piece α)}
    (nothing : ∀ x y, run = x ++ y → y ≠ [] → pattern (behind before x) (y ++ cs) = none)
    (rest : Cuts pattern (behind before run) cs pieces) :
    Cuts pattern before (run ++ cs) (run.map .plain ++ pieces) := by
  induction run generalizing before with
  | nil => exact rest
  | cons c run ih =>
      refine .plain (nothing [] (c :: run) rfl (by simp)) (ih ?_ (behind_cons before c run ▸ rest))
      intro x y split filled
      have here := nothing (c :: x) y (by rw [split, List.cons_append]) filled
      rwa [behind_cons] at here

/-- Where a scan finds nothing, there is nothing to find. -/
theorem Cuts.eq_none_of_finds_nil {before : Option Char} {cs : List Char}
    {pieces : List (Piece α)} (cuts : Cuts pattern before cs pieces) (empty : finds pieces = [])
    {x y : List Char} (split : cs = x ++ y) (filled : y ≠ []) :
    pattern (behind before x) y = none := by
  induction cuts generalizing x with
  | done =>
      rw [List.nil_eq_append_iff] at split
      exact absurd split.2 filled
  | @plain before c cs pieces nothing _ ih =>
      cases x with
      | nil =>
          obtain rfl : c :: cs = y := split
          exact nothing
      | cons d x =>
          obtain ⟨rfl, split'⟩ := List.cons.inj split
          rw [behind_cons]
          exact ih empty split'
  | find => simp at empty

/-- What a scan lists as found was found somewhere. -/
theorem Cuts.found {before : Option Char} {cs : List Char} {pieces : List (Piece α)}
    (cuts : Cuts pattern before cs pieces) {value : α} (member : value ∈ finds pieces) :
    ∃ before cs size, pattern before cs = some (value, size) := by
  induction cuts with
  | done => simp at member
  | plain _ _ ih => exact ih member
  | find _ here _ ih =>
      rcases List.mem_cons.mp member with rfl | later
      · exact ⟨_, _, _, here⟩
      · exact ih later

theorem map_fst_sections (pieces : List (Piece α)) :
    (sections pieces).2.map Prod.fst = finds pieces := by
  induction pieces with
  | nil => rfl
  | cons piece pieces ih =>
      cases piece with
      | plain c => simpa [sections] using ih
      | find value covers => simpa [sections] using ih

/-! ## Literal patterns -/

/-- What the pattern finds is spelled out where it is found, and covers just that. -/
structure Pattern.Literal (pattern : Pattern α) (spelling : α → List Char) : Prop where
  ne_nil : ∀ value, spelling value ≠ []
  spelled : ∀ {before cs value size}, pattern before cs = some (value, size) →
    (∃ rest, cs = spelling value ++ rest) ∧ size = (spelling value).length

theorem Pattern.Literal.covers {spelling : α → List Char} (literal : pattern.Literal spelling) :
    pattern.Covers := by
  intro before cs value size found
  obtain ⟨⟨rest, rfl⟩, rfl⟩ := literal.spelled found
  have positive := List.length_pos_of_ne_nil (literal.ne_nil value)
  exact ⟨positive, by simp⟩

theorem Pattern.Literal.covers_eq {spelling : α → List Char} (literal : pattern.Literal spelling)
    {before : Option Char} {covers cs : List Char} {value : α}
    (here : pattern before (covers ++ cs) = some (value, covers.length)) :
    covers = spelling value := by
  obtain ⟨⟨rest, same⟩, length⟩ := literal.spelled here
  exact (List.append_inj same length).1

/-- A section as it stands in the text: its head and what is below. -/
def sectionText (spelling : α → List Char) (section_ : α × List Char) : List Char :=
  spelling section_.1 ++ section_.2

/-- Nothing of the text is lost, and nothing is there twice. -/
theorem Cuts.written {spelling : α → List Char} (literal : pattern.Literal spelling)
    {before : Option Char} {cs : List Char} {pieces : List (Piece α)}
    (cuts : Cuts pattern before cs pieces) :
    cs = (sections pieces).1 ++ (sections pieces).2.flatMap (sectionText spelling) := by
  induction cuts with
  | done => rfl
  | plain _ _ ih => simpa [sections] using ih
  | find _ here _ ih =>
      have spelled := literal.covers_eq here
      simpa [sections, sectionText, ← spelled] using ih

/-- In the stretches between the finds the pattern finds nothing. -/
theorem Cuts.nothing_between {spelling : α → List Char} (literal : pattern.Literal spelling)
    {before : Option Char} {cs : List Char} {pieces : List (Piece α)}
    (cuts : Cuts pattern before cs pieces) {x y : List Char} (filled : y ≠ []) :
    ((sections pieces).1 = x ++ y → ∃ rest before, pattern before (y ++ rest) = none) ∧
      ∀ part ∈ (sections pieces).2, part.2 = x ++ y →
        ∃ rest before, pattern before (y ++ rest) = none := by
  induction cuts generalizing x with
  | done => simp [sections, filled]
  | @plain before c cs pieces nothing rest ih =>
      refine ⟨fun split => ?_, fun part member => (ih (x := x)).2 part member⟩
      cases x with
      | nil =>
          have whole := (Cuts.plain nothing rest).written literal
          rw [split] at whole
          exact ⟨_, before, whole ▸ nothing⟩
      | cons d x => exact ih.1 (List.cons.inj split).2
  | @find before covers cs value pieces _ _ _ ih =>
      refine ⟨fun split => absurd (List.nil_eq_append_iff.mp split).2 filled, ?_⟩
      intro part member split
      rcases List.mem_cons.mp member with rfl | later
      · exact ih.1 split
      · exact ih.2 part later split

/-! ## Sections that were written -/

def sectionPieces (spelling : α → List Char) (section_ : α × List Char) : List (Piece α) :=
  .find section_.1 (spelling section_.1) :: section_.2.map .plain

theorem sections_plain (run : List Char) (pieces : List (Piece α)) :
    sections (run.map .plain ++ pieces) = (run ++ (sections pieces).1, (sections pieces).2) := by
  induction run with
  | nil => rfl
  | cons c run ih => simp [sections, ih]

/-- Sections are read back from their pieces. -/
theorem sections_sectionPieces (spelling : α → List Char) (parts : List (α × List Char)) :
    sections (parts.flatMap (sectionPieces spelling)) = ([], parts) := by
  induction parts with
  | nil => rfl
  | cons part parts ih => simp [sectionPieces, sections, sections_plain, ih]

/-! ## Patterns whose finds stay apart -/

/-- No find starts inside another. -/
def Pattern.Apart (pattern : Pattern α) : Prop :=
  ∀ before x y cs value, pattern before (x ++ y ++ cs) = some (value, (x ++ y).length) →
    x ≠ [] → y ≠ [] → pattern (behind before x) (y ++ cs) = none

/-- A place in a text is behind a first part of it, or some of that part is still to come. -/
theorem behind_or_inside {first cs x y : List Char} (split : first ++ cs = x ++ y) :
    (∃ x', x = first ++ x' ∧ cs = x' ++ y) ∨
      ∃ y', y' ≠ [] ∧ first = x ++ y' ∧ y = y' ++ cs := by
  rcases List.append_eq_append_iff.mp split with ⟨x', same, rest⟩ | ⟨y', same, rest⟩
  · exact .inl ⟨x', same, rest⟩
  · by_cases empty : y' = []
    · subst empty
      exact .inl ⟨[], by simpa using same.symm, by simpa using rest.symm⟩
    · exact .inr ⟨y', empty, same, rest⟩

/-- Every place at which the pattern finds something is the head of a section. -/
theorem Cuts.exists_section {spelling : α → List Char} (literal : pattern.Literal spelling)
    (apart : pattern.Apart) {before : Option Char} {cs : List Char} {pieces : List (Piece α)}
    (cuts : Cuts pattern before cs pieces) {x y : List Char} {value : α} {size : Nat}
    (split : cs = x ++ y) (found : pattern (behind before x) y = some (value, size)) :
    ∃ earlier body later, (sections pieces).2 = earlier ++ (value, body) :: later ∧
      x = (sections pieces).1 ++ earlier.flatMap (sectionText spelling) := by
  have filled : y ≠ [] := by
    rintro rfl
    have room := literal.covers _ _ _ _ found
    simp only [List.length_nil] at room
    omega
  induction cuts generalizing x with
  | done =>
      rw [List.nil_eq_append_iff] at split
      exact absurd split.2 filled
  | @plain before c cs pieces nothing _ ih =>
      cases x with
      | nil =>
          obtain rfl : c :: cs = y := split
          rw [behind_nil, nothing] at found
          cases found
      | cons d x =>
          obtain ⟨rfl, split'⟩ := List.cons.inj split
          rw [behind_cons] at found
          obtain ⟨earlier, body, later, listed, rfl⟩ := ih split' found
          exact ⟨earlier, body, later, listed, rfl⟩
  | @find before covers cs first pieces _ here _ ih =>
      have spelled := literal.covers_eq here
      rcases behind_or_inside split with ⟨x', rfl, rest⟩ | ⟨y', inside, rfl, rfl⟩
      · rw [behind_append] at found
        obtain ⟨earlier, body, later, listed, rfl⟩ := ih rest found
        refine ⟨(first, (sections pieces).1) :: earlier, body, later, ?_, ?_⟩
        · simp [sections, listed]
        · simp [sections, sectionText, ← spelled]
      · by_cases start : x = []
        · subst start
          have same : some (first, y'.length) = some (value, size) := here.symm.trans found
          cases same
          exact ⟨[], (sections pieces).1, (sections pieces).2, rfl, rfl⟩
        · rw [apart _ _ _ _ _ here start inside] at found
          cases found

/-- The finds, each with the number of characters before it. -/
def placesFrom : Nat → List (Piece α) → List (Nat × α)
  | _, [] => []
  | n, .plain _ :: pieces => placesFrom (n + 1) pieces
  | n, .find value covers :: pieces => (n, value) :: placesFrom (n + covers.length) pieces

def places (pieces : List (Piece α)) : List (Nat × α) :=
  placesFrom 0 pieces

theorem map_snd_placesFrom (n : Nat) (pieces : List (Piece α)) :
    (placesFrom n pieces).map Prod.snd = finds pieces := by
  induction pieces generalizing n with
  | nil => rfl
  | cons piece pieces ih => cases piece <;> simp [placesFrom, ih]

theorem mem_finds_of_placesFrom {n : Nat} {pieces : List (Piece α)} {place : Nat × α}
    (member : place ∈ placesFrom n pieces) : place.2 ∈ finds pieces := by
  rw [← map_snd_placesFrom n]
  exact List.mem_map_of_mem member

/-- What the pattern finds at any place at all, the place given by the characters before it. -/
def occurrencesFrom (pattern : Pattern α) : Nat → Option Char → List Char → List (Nat × α)
  | _, _, [] => []
  | n, before, c :: cs =>
      match pattern before (c :: cs) with
      | none => occurrencesFrom pattern (n + 1) (some c) cs
      | some (value, _) => (n, value) :: occurrencesFrom pattern (n + 1) (some c) cs

theorem occurrencesFrom_append {before : Option Char} {run cs : List Char}
    (nothing : ∀ x y, run = x ++ y → y ≠ [] → pattern (behind before x) (y ++ cs) = none)
    (n : Nat) :
    occurrencesFrom pattern n before (run ++ cs) =
      occurrencesFrom pattern (n + run.length) (behind before run) cs := by
  induction run generalizing before n with
  | nil => rfl
  | cons c run ih =>
      have here : pattern before (c :: (run ++ cs)) = none :=
        nothing [] (c :: run) rfl (by simp)
      have later : ∀ x y, run = x ++ y → y ≠ [] →
          pattern (behind (some c) x) (y ++ cs) = none := by
        intro x y split filled
        have here := nothing (c :: x) y (by rw [split, List.cons_append]) filled
        rwa [behind_cons] at here
      rw [List.cons_append, occurrencesFrom, here, behind_cons]
      simp only
      rw [ih later, List.length_cons, Nat.add_assoc, Nat.add_comm 1]

/-- The places of the finds are all places at which the pattern finds something. -/
theorem Cuts.places_eq (apart : pattern.Apart) {before : Option Char} {cs : List Char}
    {pieces : List (Piece α)} (cuts : Cuts pattern before cs pieces) (n : Nat) :
    placesFrom n pieces = occurrencesFrom pattern n before cs := by
  induction cuts generalizing n with
  | done => rfl
  | plain nothing _ ih => rw [placesFrom, ih, occurrencesFrom, nothing]
  | @find before covers cs value pieces filled here _ ih =>
      obtain ⟨c, run, rfl⟩ := List.exists_cons_of_ne_nil filled
      have nothing : ∀ x y, run = x ++ y → y ≠ [] →
          pattern (behind (some c) x) (y ++ cs) = none := by
        rintro x y rfl filled
        rw [← behind_cons before]
        exact apart before (c :: x) y cs value here (by simp) filled
      rw [placesFrom, ih]
      rw [List.cons_append] at here ⊢
      rw [occurrencesFrom, here]
      simp only
      rw [occurrencesFrom_append nothing, behind_cons, List.length_cons, Nat.add_assoc,
        Nat.add_comm 1]

/-- If finds stay apart, a scan misses none. -/
theorem finds_scan_eq (covers : pattern.Covers) (apart : pattern.Apart) (n : Nat)
    (cs : List Char) :
    finds (scan pattern cs) = (occurrencesFrom pattern n none cs).map Prod.snd := by
  rw [← (cuts_scanFrom covers none cs).places_eq apart n, map_snd_placesFrom, scan]

/-! ## Patterns that look ahead only -/

/-- The pattern does not look at the character before a place. -/
def Pattern.Free (pattern : Pattern α) : Prop :=
  ∀ before cs, pattern before cs = pattern none cs

/-- A scan may start anywhere. -/
theorem Pattern.Free.scanFrom_eq (free : pattern.Free) (before : Option Char) (cs : List Char) :
    scanFrom pattern 0 before cs = scan pattern cs := by
  cases cs with
  | nil => rfl
  | cons c cs => rw [scan, scanFrom, scanFrom, free before]

theorem Pattern.Free.scan_plain (free : pattern.Free) {c : Char} {cs : List Char}
    (nothing : pattern none (c :: cs) = none) :
    scan pattern (c :: cs) = .plain c :: scan pattern cs := by
  rw [scan, scanFrom_plain nothing, free.scanFrom_eq]

theorem Pattern.Free.scan_find (free : pattern.Free) {covers cs : List Char} {value : α}
    (filled : covers ≠ []) (here : pattern none (covers ++ cs) = some (value, covers.length)) :
    scan pattern (covers ++ cs) = .find value covers :: scan pattern cs := by
  rw [scan, scanFrom_find filled here, free.scanFrom_eq]

theorem Pattern.Free.occurrencesFrom_eq (free : pattern.Free) (n : Nat) (before : Option Char)
    (cs : List Char) :
    occurrencesFrom pattern n before cs = occurrencesFrom pattern n none cs := by
  cases cs with
  | nil => rfl
  | cons c cs => rw [occurrencesFrom, occurrencesFrom, free before]

/-- An occurrence is a place at which the pattern finds something. -/
theorem mem_occurrencesFrom (free : pattern.Free) (covers : pattern.Covers) {n start : Nat}
    {value : α} {before : Option Char} {cs : List Char} :
    (n, value) ∈ occurrencesFrom pattern start before cs ↔
      ∃ i size, n = start + i ∧ pattern none (cs.drop i) = some (value, size) := by
  have nothing : ∀ size, pattern none [] ≠ some (value, size) := by
    intro size found
    have room := covers _ _ _ _ found
    rw [List.length_nil] at room
    omega
  induction cs generalizing start before with
  | nil => simp [occurrencesFrom, nothing]
  | cons c cs ih =>
      have step : (n, value) ∈ occurrencesFrom pattern start before (c :: cs) ↔
          (n = start ∧ ∃ size, pattern none (c :: cs) = some (value, size)) ∨
            (n, value) ∈ occurrencesFrom pattern (start + 1) (some c) cs := by
        rw [occurrencesFrom, free]
        cases pattern none (c :: cs) with
        | none => simp
        | some find =>
            obtain ⟨first, size⟩ := find
            simp [eq_comm]
      have later : (n, value) ∈ occurrencesFrom pattern (start + 1) (some c) cs ↔
          ∃ i size, n = start + 1 + i ∧ pattern none (cs.drop i) = some (value, size) := ih
      rw [step, later]
      constructor
      · rintro (⟨rfl, size, here⟩ | ⟨i, size, rfl, there⟩)
        · exact ⟨0, size, rfl, here⟩
        · exact ⟨i + 1, size, by omega, there⟩
      · rintro ⟨i, size, rfl, there⟩
        cases i with
        | zero => exact .inl ⟨rfl, size, there⟩
        | succ i => exact .inr ⟨i, size, by omega, there⟩

/-! ## Replacing finds -/

@[simp] theorem replace_nil (f : α → List Char) : replace f [] = [] := rfl

@[simp] theorem replace_plain (f : α → List Char) (c : Char) (pieces : List (Piece α)) :
    replace f (.plain c :: pieces) = c :: replace f pieces := rfl

@[simp] theorem replace_find (f : α → List Char) (value : α) (covers : List Char)
    (pieces : List (Piece α)) :
    replace f (.find value covers :: pieces) = f value ++ replace f pieces := rfl

/-- A replacement writes the sections anew, what stands between the finds as it is. -/
theorem replace_eq_sections (f : α → List Char) (pieces : List (Piece α)) :
    replace f pieces = (sections pieces).1 ++ (sections pieces).2.flatMap (sectionText f) := by
  induction pieces with
  | nil => rfl
  | cons piece pieces ih =>
      cases piece with
      | plain c => rw [replace_plain, ih]; rfl
      | find value covers => rw [replace_find, ih]; simp [sections, sectionText]

/-- A replacement hangs on what it makes of the finds that there are. -/
theorem replace_congr {f g : α → List Char} {pieces : List (Piece α)}
    (same : ∀ value ∈ finds pieces, f value = g value) : replace f pieces = replace g pieces := by
  induction pieces with
  | nil => rfl
  | cons piece pieces ih =>
      cases piece with
      | plain c => rw [replace_plain, replace_plain, ih same]
      | find value covers =>
          rw [finds_find, List.forall_mem_cons] at same
          rw [replace_find, replace_find, same.1, ih same.2]

/-- Without a find a replacement is the text itself. -/
theorem Cuts.replace_of_finds_nil {before : Option Char} {cs : List Char}
    {pieces : List (Piece α)} (cuts : Cuts pattern before cs pieces) (empty : finds pieces = [])
    (f : α → List Char) : replace f pieces = cs := by
  induction cuts with
  | done => rfl
  | plain _ _ ih => rw [replace_plain, ih empty]
  | find => cases empty

/-- With one find a replacement is the text with that find replaced. -/
theorem Cuts.replace_of_single {before : Option Char} {cs : List Char}
    {pieces : List (Piece α)} (cuts : Cuts pattern before cs pieces) {n m : Nat} {value : α}
    (single : placesFrom n pieces = [(m, value)]) (f : α → List Char) :
    ∃ x covers y, cs = x ++ covers ++ y ∧ m = n + x.length ∧
      pattern (behind before x) (covers ++ y) = some (value, covers.length) ∧
      replace f pieces = x ++ f value ++ y := by
  induction cuts generalizing n with
  | done => cases single
  | @plain before c cs pieces _ _ ih =>
      obtain ⟨x, covers, y, rfl, rfl, here, written⟩ := ih single
      refine ⟨c :: x, covers, y, rfl, by rw [List.length_cons]; omega, ?_, ?_⟩
      · rwa [behind_cons]
      · rw [replace_plain, written]
        rfl
  | @find before covers cs first pieces _ here rest _ =>
      obtain ⟨same, none⟩ := List.cons.inj single
      cases same
      have empty : finds pieces = [] := by rw [← map_snd_placesFrom, none, List.map_nil]
      refine ⟨[], covers, cs, rfl, rfl, here, ?_⟩
      rw [replace_find, rest.replace_of_finds_nil empty, List.nil_append]

variable {β : Type}

def Piece.map (g : α → β) : Piece α → Piece β
  | .plain c => .plain c
  | .find value covers => .find (g value) covers

/-- Patterns that find different values at the same places cut a text in the same way. -/
theorem scan_map {other : Pattern β} {g : α → β}
    (same : ∀ before cs, other before cs = (pattern before cs).map fun find => (g find.1, find.2))
    (cs : List Char) : scan other cs = (scan pattern cs).map (Piece.map g) := by
  have all : ∀ skip before, scanFrom other skip before cs =
      (scanFrom pattern skip before cs).map (Piece.map g) := by
    induction cs with
    | nil => intro skip before; cases skip <;> rfl
    | cons c cs ih =>
        intro skip before
        cases skip with
        | succ skip => exact ih skip (some c)
        | zero =>
            rw [scanFrom, scanFrom, same]
            cases pattern before (c :: cs) with
            | none => simp [Piece.map, ih]
            | some find => simp [Piece.map, ih]
  exact all 0 none

theorem finds_map (g : α → β) (pieces : List (Piece α)) :
    finds (pieces.map (Piece.map g)) = (finds pieces).map g := by
  induction pieces with
  | nil => rfl
  | cons piece pieces ih => cases piece <;> simp [Piece.map, ih]

theorem replace_map (f : β → List Char) (g : α → β) (pieces : List (Piece α)) :
    replace f (pieces.map (Piece.map g)) = replace (f ∘ g) pieces := by
  induction pieces with
  | nil => rfl
  | cons piece pieces ih => cases piece <;> simp [Piece.map, ih]

end OverlayPatch.Text
