import OverlayPatch.Proofs.Faults
import OverlayPatch.Proofs.Markers
import Mathlib

/-!
# Markers line by line

A hook has its markers resolved line by line, a line feed standing in for the blank behind a marker
at the end of a line. A replacement is scanned as a whole. The two see the same markers: no marker
reaches over a line feed (`marked_line`), so those of a text are those of its lines, one after the
other (`occurrencesFrom_joinLines`), and each stands in one line (`inLine_joinLines`).

What is done to a line hangs on how many markers it has (`resolveHookLine_cases`). The hits that are
counted come variable by variable, and are the markers in another order (`hits_perm`). The lines of
a hook are then known from the markers of the whole text: `resolveHook_lines`.
-/

namespace OverlayPatch

set_option autoImplicit false

namespace Text

/-! ## Lines -/

theorem consLine_ne_nil (c : Char) (lines : List (List Char)) : consLine c lines ≠ [] := by
  cases lines <;> simp [consLine]

theorem splitLines_ne_nil (cs : List Char) : splitLines cs ≠ [] := by
  cases cs with
  | nil => simp [splitLines, splitOn]
  | cons c cs =>
      rw [splitLines, splitOn]
      split
      · simp
      · exact consLine_ne_nil c _

theorem joinLines_consLine (c : Char) {lines : List (List Char)} (filled : lines ≠ []) :
    joinLines (consLine c lines) = c :: joinLines lines := by
  obtain ⟨line, lines, rfl⟩ := List.exists_cons_of_ne_nil filled
  cases lines <;> rfl

theorem joinLines_cons (line : List Char) {lines : List (List Char)} (filled : lines ≠ []) :
    joinLines (line :: lines) = line ++ '\n' :: joinLines lines := by
  obtain ⟨next, lines, rfl⟩ := List.exists_cons_of_ne_nil filled
  rfl

/-- The lines of a text joined again are the text. -/
theorem joinLines_splitLines (cs : List Char) : joinLines (splitLines cs) = cs := by
  induction cs with
  | nil => rfl
  | cons c cs ih =>
      have rest := splitLines_ne_nil cs
      rw [splitLines] at ih rest ⊢
      rw [splitOn]
      split
      · rename_i feed
        rw [joinLines_cons [] rest, ih, feed, List.nil_append]
      · rw [joinLines_consLine c rest, ih]

theorem not_mem_splitLines {cs line : List Char} (member : line ∈ splitLines cs) :
    '\n' ∉ line := by
  induction cs generalizing line with
  | nil =>
      obtain rfl : line = [] := by simpa [splitLines, splitOn] using member
      simp
  | cons c cs ih =>
      obtain ⟨first, lines, split⟩ := List.exists_cons_of_ne_nil (splitLines_ne_nil cs)
      rw [split] at ih
      rw [splitLines] at member split
      rw [splitOn, split] at member
      split at member
      · rcases List.mem_cons.mp member with rfl | later
        · simp
        · exact ih later
      · rename_i other
        rcases List.mem_cons.mp member with rfl | later
        · rw [List.mem_cons, not_or]
          exact ⟨Ne.symm other, ih List.mem_cons_self⟩
        · exact ih (List.mem_cons_of_mem _ later)

theorem splitLines_append {line : List Char} (whole : '\n' ∉ line) (cs : List Char) :
    splitLines (line ++ '\n' :: cs) = line :: splitLines cs := by
  induction line with
  | nil => simp [splitLines, splitOn]
  | cons c line ih =>
      rw [List.mem_cons, not_or] at whole
      have rest := ih whole.2
      rw [splitLines] at rest ⊢
      rw [List.cons_append, splitOn, if_neg (Ne.symm whole.1), rest]
      rfl

theorem splitLines_of_not_mem {line : List Char} (whole : '\n' ∉ line) :
    splitLines line = [line] := by
  induction line with
  | nil => rfl
  | cons c line ih =>
      rw [List.mem_cons, not_or] at whole
      have rest := ih whole.2
      rw [splitLines] at rest ⊢
      rw [splitOn, if_neg (Ne.symm whole.1), rest]
      rfl

/-- Lines without line feeds are read back from the text they make. -/
theorem splitLines_joinLines {lines : List (List Char)} (filled : lines ≠ [])
    (whole : ∀ line ∈ lines, '\n' ∉ line) : splitLines (joinLines lines) = lines := by
  induction lines with
  | nil => contradiction
  | cons line lines ih =>
      rw [List.forall_mem_cons] at whole
      by_cases last : lines = []
      · subst last
        exact splitLines_of_not_mem whole.1
      · rw [joinLines_cons line last, splitLines_append whole.1, ih last whole.2]

theorem toList_intercalate_lines (lines : List String) :
    (String.intercalate "\n" lines).toList = joinLines (lines.map String.toList) := by
  rw [String.toList_intercalate]
  induction lines with
  | nil => rfl
  | cons line lines ih =>
      cases lines with
      | nil => simp [joinLines]
      | cons next lines =>
          simp only [List.map_cons] at ih ⊢
          rw [List.intercalate_cons_cons, ih, joinLines]
          simp

theorem foldNewlines_of_no_pair {cs : List Char} (plain : ¬ ['\r', '\n'] <:+: cs) :
    foldNewlines cs = cs := by
  induction cs using foldNewlines.induct with
  | case1 => rfl
  | case2 cs _ => exact absurd ⟨[], cs, rfl⟩ plain
  | case3 c cs apart ih =>
      have later : ¬ ['\r', '\n'] <:+: cs := fun pair => plain (List.infix_cons pair)
      rw [foldNewlines, ih later]
      exact apart

/-- The lines, each with the number of characters before it in the text that they make. -/
def linesFrom : Nat → List (List Char) → List (Nat × List Char)
  | _, [] => []
  | n, line :: lines => (n, line) :: linesFrom (n + line.length + 1) lines

theorem map_snd_linesFrom (n : Nat) (lines : List (List Char)) :
    (linesFrom n lines).map Prod.snd = lines := by
  induction lines generalizing n with
  | nil => rfl
  | cons line lines ih => rw [linesFrom, List.map_cons, ih]

/-- The marks that stand in a line, a mark being known by the number of characters before it. -/
def inLine {α : Type} (line : Nat × List Char) (marks : List (Nat × α)) : List (Nat × α) :=
  marks.filter fun mark => line.1 ≤ mark.1 ∧ mark.1 < line.1 + line.2.length

theorem inLine_append {α : Type} (line : Nat × List Char) (first later : List (Nat × α)) :
    inLine line (first ++ later) = inLine line first ++ inLine line later :=
  List.filter_append first later

theorem inLine_eq_nil {α : Type} {line : Nat × List Char} {marks : List (Nat × α)}
    (outside : ∀ mark ∈ marks, mark.1 < line.1 ∨ line.1 + line.2.length ≤ mark.1) :
    inLine line marks = [] := by
  rw [inLine, List.filter_eq_nil_iff]
  intro mark member
  have here := outside mark member
  rw [decide_eq_true_eq]
  omega

end Text

namespace Marker

open Text

variable {vars : List Variable} {v : Variable} {before : Option Char} {word line rest : List Char}

/-! ## Markers of a line -/

/-- What follows a line, given whether a line feed does. -/
def ending (ended : Bool) : List Char :=
  if ended then ['\n'] else []

/-- A line feed keeps a marker before it from reaching further. -/
theorem marked_line (worded : ∀ c ∈ word, isWord c = true) :
    Marked word (line ++ '\n' :: rest) ↔ Marked word (line ++ ['\n']) := by
  constructor
  · rintro ⟨b, after, split, blank⟩
    rw [← List.cons_append] at split
    rcases behind_or_inside split with ⟨gap, marker, below⟩ | ⟨gap, filled, rfl, same⟩
    · cases gap with
      | nil =>
          obtain ⟨rfl, -⟩ := List.cons.inj below
          rw [List.append_nil] at marker
          exact ⟨'\n', [], by rw [← marker]; rfl, blank⟩
      | cons c gap =>
          -- The marker would hold the line feed, and no word does.
          obtain ⟨rfl, -⟩ := List.cons.inj below
          have inside : '\n' ∈ '=' :: word := by simp [marker]
          rcases List.mem_cons.mp inside with wrong | wrong
          · cases wrong
          · cases worded _ wrong
    · obtain ⟨c, gap, rfl⟩ := List.exists_cons_of_ne_nil filled
      obtain ⟨rfl, -⟩ := List.cons.inj same
      exact ⟨b, gap ++ ['\n'], by simp, blank⟩
  · rintro ⟨b, after, split, blank⟩
    refine ⟨b, after ++ rest, ?_, blank⟩
    rw [List.append_cons, split]
    simp

/-- What follows a line feed does not matter to a marker before it. -/
theorem anyPattern_line (vars : List Variable) (before : Option Char) (line rest : List Char) :
    anyPattern vars before (line ++ '\n' :: rest) = anyPattern vars before (line ++ ['\n']) := by
  refine Option.ext fun find => ?_
  obtain ⟨v, size⟩ := find
  simp only [anyPattern_eq_some]
  refine exists_congr fun word => and_congr_right fun worded => ?_
  rw [marked_line worded]

/-- The markers of a text are those of its first line and those behind it. -/
theorem occurrencesFrom_line (vars : List Variable) (n : Nat) (before : Option Char)
    (line rest : List Char) :
    occurrencesFrom (anyPattern vars) n before (line ++ '\n' :: rest) =
      occurrencesFrom (anyPattern vars) n before (line ++ ['\n']) ++
        occurrencesFrom (anyPattern vars) (n + line.length + 1) none rest := by
  induction line generalizing n before with
  | nil =>
      have feed : ∀ cs, anyPattern vars before ('\n' :: cs) = none :=
        fun cs => anyPattern_of_ne (by decide)
      rw [List.nil_append, List.nil_append, occurrencesFrom, occurrencesFrom, feed, feed]
      exact (free_anyPattern vars).occurrencesFrom_eq _ _ _
  | cons c line ih =>
      have here := anyPattern_line vars before (c :: line) rest
      rw [List.cons_append, List.cons_append] at here
      rw [List.cons_append, List.cons_append, occurrencesFrom, occurrencesFrom, here, ih,
        List.length_cons, Nat.add_right_comm n 1, Nat.add_assoc n line.length 1]
      cases anyPattern vars before (c :: (line ++ ['\n'])) <;> rfl

/-- The markers of lines are those of the first and those of the others. -/
theorem occurrencesFrom_joinLines (vars : List Variable) (n : Nat) (line : List Char)
    (lines : List (List Char)) :
    occurrencesFrom (anyPattern vars) n none (joinLines (line :: lines)) =
      occurrencesFrom (anyPattern vars) n none (line ++ ending (!lines.isEmpty)) ++
        occurrencesFrom (anyPattern vars) (n + line.length + 1) none (joinLines lines) := by
  cases lines with
  | nil => simp [joinLines, ending, occurrencesFrom]
  | cons next lines => exact occurrencesFrom_line vars n none line (joinLines (next :: lines))

theorem le_of_mem_occurrencesFrom {n : Nat} {cs : List Char} {mark : Nat × Variable}
    (member : mark ∈ occurrencesFrom (anyPattern vars) n before cs) : n ≤ mark.1 := by
  obtain ⟨i, -, here, -⟩ :=
    (mem_occurrencesFrom (free_anyPattern vars) (covers_anyPattern vars)).mp member
  omega

theorem mem_of_mem_occurrencesFrom {n : Nat} {cs : List Char} {mark : Nat × Variable}
    (member : mark ∈ occurrencesFrom (anyPattern vars) n before cs) : mark.2 ∈ vars := by
  obtain ⟨i, size, -, found⟩ :=
    (mem_occurrencesFrom (free_anyPattern vars) (covers_anyPattern vars)).mp member
  obtain ⟨word, -, -, known, -⟩ := anyPattern_eq_some.mp found
  exact List.mem_of_find?_eq_some known

/-- A marker starts within its line, before what follows. -/
theorem lt_of_mem_occurrencesFrom {n : Nat} {ended : Bool} {mark : Nat × Variable}
    (member : mark ∈ occurrencesFrom (anyPattern vars) n before (line ++ ending ended)) :
    mark.1 < n + line.length := by
  obtain ⟨i, size, here, found⟩ :=
    (mem_occurrencesFrom (free_anyPattern vars) (covers_anyPattern vars)).mp member
  by_contra past
  have beyond : line.drop i = [] := List.drop_eq_nil_of_le (by omega)
  rw [List.drop_append, beyond, List.nil_append] at found
  obtain ⟨word, -, ⟨b, after, marked, -⟩, -, -⟩ := anyPattern_eq_some.mp found
  have equals : '=' ∈ ending ended := List.mem_of_mem_drop (marked ▸ List.mem_cons_self)
  cases ended <;> simp [ending] at equals

/-- The markers that stand in a line of a text are those of the line by itself. -/
theorem inLine_eq {n : Nat} {ended : Bool} {early late : List (Nat × Variable)}
    (above : ∀ mark ∈ early, mark.1 < n) (below : ∀ mark ∈ late, n + line.length ≤ mark.1) :
    inLine (n, line)
        (early ++ (occurrencesFrom (anyPattern vars) n none (line ++ ending ended) ++ late)) =
      occurrencesFrom (anyPattern vars) n none (line ++ ending ended) := by
  have all : inLine (n, line) (occurrencesFrom (anyPattern vars) n none (line ++ ending ended)) =
      occurrencesFrom (anyPattern vars) n none (line ++ ending ended) := by
    rw [inLine, List.filter_eq_self]
    intro mark member
    rw [decide_eq_true_eq]
    exact ⟨le_of_mem_occurrencesFrom member, lt_of_mem_occurrencesFrom member⟩
  rw [inLine_append, inLine_append, all,
    inLine_eq_nil fun mark member => .inl (above mark member),
    inLine_eq_nil fun mark member => .inr (below mark member), List.nil_append, List.append_nil]

/-! ## Hits -/

/-- The markers of one variable are those of all that are its own. -/
theorem anyPattern_singleton (distinct : (vars.map (·.name)).Nodup) (member : v ∈ vars)
    (before : Option Char) (cs : List Char) :
    anyPattern [v] before cs = (anyPattern vars before cs).filter (·.1 = v) := by
  have single : ([v].map (·.name)).Nodup := by simp
  refine Option.ext fun find => ?_
  obtain ⟨w, size⟩ := find
  rw [Option.filter_eq_some_iff, decide_eq_true_eq, anyPattern_eq_some, anyPattern_eq_some]
  simp only [find?_eq_some_iff distinct, find?_eq_some_iff single, List.mem_singleton]
  constructor
  · rintro ⟨word, worded, marked, ⟨rfl, named⟩, sized⟩
    exact ⟨⟨word, worded, marked, ⟨member, named⟩, sized⟩, rfl⟩
  · rintro ⟨⟨word, worded, marked, ⟨-, named⟩, sized⟩, rfl⟩
    exact ⟨word, worded, marked, ⟨rfl, named⟩, sized⟩

/-- The markers of one variable are some of all. -/
theorem occurrencesFrom_singleton (distinct : (vars.map (·.name)).Nodup) (member : v ∈ vars)
    (n : Nat) (before : Option Char) (cs : List Char) :
    occurrencesFrom (anyPattern [v]) n before cs =
      (occurrencesFrom (anyPattern vars) n before cs).filter (·.2 = v) := by
  induction cs generalizing n before with
  | nil => rfl
  | cons c cs ih =>
      rw [occurrencesFrom, occurrencesFrom, anyPattern_singleton distinct member, ih]
      cases anyPattern vars before (c :: cs) with
      | none => rfl
      | some find =>
          obtain ⟨w, size⟩ := find
          by_cases same : w = v
          · simp [Option.filter, same]
          · simp [Option.filter, same]

theorem flatMap_filter_perm {us : List Variable} (distinct : us.Nodup) (found : List Variable) :
    (us.flatMap fun v => found.filter (· = v)).Perm (found.filter (· ∈ us)) := by
  induction us with
  | nil => simp
  | cons u us ih =>
      rw [List.nodup_cons] at distinct
      rw [List.flatMap_cons]
      have parts := List.filter_append_perm (· = u) (found.filter (· ∈ u :: us))
      rw [List.filter_filter, List.filter_filter] at parts
      refine List.Perm.trans (List.Perm.append ?_ (List.Perm.trans (ih distinct.2) ?_)) parts
      · refine List.Perm.of_eq (List.filter_congr fun w _ => ?_)
        by_cases same : w = u <;> simp [same]
      · refine List.Perm.of_eq (List.filter_congr fun w _ => ?_)
        by_cases same : w = u
        · simp [same, distinct.1]
        · simp [same]

/-- The hits of a line are the variables of its markers, in some order. -/
theorem hits_perm (worded : ∀ v ∈ vars, ∀ c ∈ v.name.toList, isWord c = true)
    (distinct : (vars.map (·.name)).Nodup) (n : Nat) (cs : List Char) :
    (hits vars cs).Perm ((occurrencesFrom (anyPattern vars) n none cs).map Prod.snd) := by
  have each : ∀ v ∈ vars, ((finds (scan v.name cs)).map fun _ => v) =
      ((occurrencesFrom (anyPattern vars) n none cs).map Prod.snd).filter (· = v) := by
    intro v member
    have alone : ∀ w ∈ finds (Text.scan (anyPattern [v]) cs), v = w :=
      fun w found => (eq_of_mem_finds found).symm
    calc (finds (scan v.name cs)).map (fun _ => v)
        = (finds (Text.scan (anyPattern [v]) cs)).map fun _ => v := by
          rw [scan_eq (worded v member), finds_map, List.map_map]
          rfl
      _ = (finds (Text.scan (anyPattern [v]) cs)).map id := List.map_congr_left alone
      _ = (occurrencesFrom (anyPattern [v]) n none cs).map Prod.snd := by
          rw [List.map_id, finds_scan_eq (covers_anyPattern [v]) (apart_anyPattern [v]) n]
      _ = _ := by
          rw [occurrencesFrom_singleton distinct member, List.filter_map]
          rfl
  rw [hits, List.flatMap_congr each]
  refine (flatMap_filter_perm (List.Nodup.of_map _ distinct) _).trans (List.Perm.of_eq ?_)
  rw [List.filter_eq_self]
  intro v listed
  obtain ⟨mark, member, rfl⟩ := List.mem_map.mp listed
  exact decide_eq_true (mem_of_mem_occurrencesFrom member)

/-! ## Lines of a hook -/

theorem dropLineEnd_append {cs : List Char} (whole : '\n' ∉ cs) (ended : Bool) :
    dropLineEnd (cs ++ ending ended) = cs := by
  have last : cs.reverse.dropWhile (· = '\n') = cs.reverse := by
    cases reversed : cs.reverse with
    | nil => rfl
    | cons c rest =>
        refine List.dropWhile_cons_of_neg ?_
        rw [decide_eq_true_eq]
        rintro rfl
        exact whole (List.mem_reverse.mp (reversed ▸ List.mem_cons_self))
  unfold dropLineEnd ending
  split
  · rw [List.reverse_append, List.reverse_singleton, List.singleton_append,
      List.dropWhile_cons_of_pos (by decide), last, List.reverse_reverse]
  · rw [List.append_nil, last, List.reverse_reverse]

def throughScratch : List Char :=
  ['[', 'l', 'r', ']']

/-- The pass for one variable goes by the pattern of all variables. -/
theorem replaceBy_eq (worded : ∀ c ∈ v.name.toList, isWord c = true) (cs : List Char) :
    replaceBy v.name (throughScratch.map .char) cs =
      Text.replace (fun _ => throughScratch) (Text.scan (anyPattern [v]) cs) := by
  rw [replaceBy, scan_eq worded, replace_map]
  rfl

/-- Where a line has a single marker, just that gives way to the operand. -/
theorem dropLineEnd_replaceBy (worded : ∀ v ∈ vars, ∀ c ∈ v.name.toList, isWord c = true)
    (distinct : (vars.map (·.name)).Nodup) {n m : Nat} {ended : Bool} (whole : '\n' ∉ line)
    (single : occurrencesFrom (anyPattern vars) n none (line ++ ending ended) = [(m, v)]) :
    dropLineEnd (replaceBy v.name (throughScratch.map .char) (line ++ ending ended)) =
      line.take (m - n) ++ throughScratch ++ line.drop (m - n + (v.name.toList.length + 1)) := by
  have listed : (m, v) ∈ occurrencesFrom (anyPattern vars) n none (line ++ ending ended) := by
    rw [single]
    exact List.mem_singleton_self _
  have member : v ∈ vars := mem_of_mem_occurrencesFrom listed
  have alone : placesFrom n (Text.scan (anyPattern [v]) (line ++ ending ended)) = [(m, v)] := by
    rw [Text.scan, (cuts_scanFrom (covers_anyPattern [v]) none _).places_eq (apart_anyPattern [v]),
      occurrencesFrom_singleton distinct member, single]
    simp
  obtain ⟨x, covers, y, split, rfl, here, written⟩ :=
    (cuts_scanFrom (covers_anyPattern [v]) none _).replace_of_single alone fun _ => throughScratch
  obtain ⟨word, -, -, known, size⟩ := anyPattern_eq_some.mp here
  obtain ⟨-, b, after, -, behind, -, -⟩ := exists_word_of_find here
  have named : v.name.toList = word := by simpa using List.find?_some known
  rw [← named] at size
  -- The blank behind the marker is in the line or is the line feed, so the marker is in the line.
  obtain ⟨y', rfl, rfl⟩ : ∃ y', line = x ++ covers ++ y' ∧ y = y' ++ ending ended := by
    rcases List.append_eq_append_iff.mp split with ⟨z, same, rest⟩ | ⟨z, same, rest⟩
    · cases z with
      | nil => exact ⟨[], by simpa using same.symm, by simpa using rest.symm⟩
      | cons d z =>
          rw [behind] at rest
          cases ended <;> simp [ending] at rest
    · exact ⟨z, same, rest⟩
  rw [replaceBy_eq (worded v member), Text.scan, written, ← List.append_assoc, dropLineEnd_append]
  · have place : n + x.length - n = x.length := by omega
    have front : (x ++ covers ++ y').take x.length = x := by rw [List.append_assoc, List.take_left]
    have back : (x ++ covers ++ y').drop (x.length + covers.length) = y' := by
      rw [← List.length_append, List.drop_left]
    rw [place, front, ← size, back]
  · simp only [List.mem_append, not_or] at whole ⊢
    exact ⟨⟨whole.1.1, by decide⟩, whole.2⟩

/-- The four lines around an instruction that reads a variable. -/
theorem arm_hookSequence_eq (text : List Char) (location : Int) :
    Architecture.arm.hookSequence (String.ofList text) location = .ok
      ["push \x7blr\x7d", String.ofList ("ldr lr, =0x".toList ++ Number.hex 8 location),
        String.ofList text, "pop \x7blr\x7d"] := by
  have reg : Architecture.arm.scratch = "lr" := rfl
  have save : Architecture.fill Architecture.arm.save [("reg", .text "lr")] =
      .ok "push \x7blr\x7d" := by decide +kernel
  have restore : Architecture.fill Architecture.arm.restore [("reg", .text "lr")] =
      .ok "pop \x7blr\x7d" := by decide +kernel
  have load : Architecture.fill Architecture.arm.load
      [("reg", .text "lr"), ("address", .number location)] =
      .ok (String.ofList ("ldr lr, =0x".toList ++ Number.hex 8 location)) := by
    show Except.ok (String.ofList ("ldr ".toList ++ ("lr".toList ++ (", =0x".toList ++
      (Number.hex 8 location ++ []))))) = _
    rw [List.append_nil]
    rfl
  rw [Architecture.hookSequence, reg, save, load, restore]
  rfl

/-- What a hook has in the place of a line with these markers. -/
def wrapped (line : Nat × List Char) : List (Nat × Variable) → List (List Char)
  | [(m, v)] =>
      ["push \x7blr\x7d".toList,
        "ldr lr, =0x".toList ++ Number.hex 8 v.location,
        line.2.take (m - line.1) ++ "[lr]".toList ++
          line.2.drop (m - line.1 + ('=' :: v.name.toList).length),
        "pop \x7blr\x7d".toList]
  | _ => [line.2]

theorem not_mem_hex (location : Int) : '\n' ∉ Number.hex 8 location := by
  intro member
  have digit : '\n' ∉ Number.hexAlphabet := by decide
  unfold Number.hex Number.padSigned at member
  split at member
  · rcases List.mem_cons.mp member with wrong | inside
    · cases wrong
    · exact digit (Number.padZeros_facts inside).1
  · exact digit (Number.padZeros_facts member).1

/-- A line without line feeds gives lines without line feeds. -/
theorem not_mem_wrapped {n : Nat} (whole : '\n' ∉ line) (marks : List (Nat × Variable))
    {text : List Char} (member : text ∈ wrapped (n, line) marks) : '\n' ∉ text := by
  unfold wrapped at member
  split at member
  · rename_i m v
    simp only [List.mem_cons, List.not_mem_nil, or_false] at member
    rcases member with rfl | rfl | rfl | rfl
    · decide
    · rw [List.mem_append, not_or]
      exact ⟨by decide, not_mem_hex _⟩
    · simp only [List.mem_append, not_or]
      exact ⟨⟨fun inside => whole (List.mem_of_mem_take inside), by decide⟩,
        fun inside => whole (List.mem_of_mem_drop inside)⟩
    · decide
  · rw [List.mem_singleton.mp member]
    exact whole

/-- A marker adds three lines. -/
theorem length_wrapped (line : Nat × List Char) {marks : List (Nat × Variable)}
    (few : marks.length ≤ 1) : (wrapped line marks).length = 1 + 3 * marks.length := by
  match marks, few with
  | [], _ => rfl
  | [_], _ => rfl

/-- A line of a hook is at fault if it has several markers, and is wrapped otherwise. -/
theorem resolveHookLine_cases (worded : ∀ v ∈ vars, ∀ c ∈ v.name.toList, isWord c = true)
    (distinct : (vars.map (·.name)).Nodup) (context : Context) (ended : Bool) (n : Nat)
    (whole : '\n' ∉ line) :
    let marks := occurrencesFrom (anyPattern vars) n none (line ++ ending ended)
    (2 ≤ marks.length ∧ ∃ fault, resolveHookLine .arm vars context ended line =
      .error (.fault fault) ∧ fault.cause.kind = .source) ∨
    (marks.length ≤ 1 ∧ ∃ written, resolveHookLine .arm vars context ended line = .ok written ∧
      written.map String.toList = wrapped (n, line) marks) := by
  have scanned : (if ended = true then line ++ ['\n'] else line) = line ++ ending ended := by
    cases ended <;> simp [ending]
  have same := hits_perm worded distinct n (line ++ ending ended)
  rw [resolveHookLine, scanned]
  dsimp only
  generalize marked : occurrencesFrom (anyPattern vars) n none (line ++ ending ended) = marks
    at same ⊢
  match marks with
  | [] =>
      rw [List.perm_nil.mp same]
      exact .inr ⟨by simp, _, rfl, by simp [wrapped]⟩
  | [(m, v)] =>
      have operand : Text.Replacement.read "[lr]" = .ok (throughScratch.map .char) := by
        decide +kernel
      have replaced := dropLineEnd_replaceBy worded distinct whole marked
      rw [List.map_singleton] at same
      rw [List.perm_singleton.mp same, Architecture.arm_derefOperand]
      simp only [bind, Except.bind, operand, Except.mapError, replaced, arm_hookSequence_eq]
      exact .inr ⟨by simp, _, rfl, by simp [wrapped, throughScratch]⟩
  | first :: second :: others =>
      have several := same.length_eq
      match hits vars (line ++ ending ended), several with
      | v :: w :: crowd, _ => exact .inl ⟨by simp, _, rfl, rfl⟩

/-! ## Bodies of hooks -/

/-- Going on to the next line: the first has the markers it has by itself, and all others are
behind it. -/
theorem inLine_joinLines {lines : List (List Char)} {n : Nat} {early marks : List (Nat × Variable)}
    (above : ∀ mark ∈ early, mark.1 < n)
    (all : marks = early ++ occurrencesFrom (anyPattern vars) n none (joinLines (line :: lines))) :
    inLine (n, line) marks =
      occurrencesFrom (anyPattern vars) n none (line ++ ending (!lines.isEmpty)) ∧
    ∃ early', (∀ mark ∈ early', mark.1 < n + line.length + 1) ∧
      marks = early' ++
        occurrencesFrom (anyPattern vars) (n + line.length + 1) none (joinLines lines) := by
  rw [occurrencesFrom_joinLines] at all
  subst all
  refine ⟨inLine_eq above fun mark member => ?_, _, ?_, (List.append_assoc _ _ _).symm⟩
  · have behind := le_of_mem_occurrencesFrom member
    omega
  · intro mark member
    rcases List.mem_append.mp member with earlier | inside
    · have before := above mark earlier
      omega
    · have within := lt_of_mem_occurrencesFrom inside
      omega

/-- Line by line, a hook is at fault if some line holds several of the markers `marks` of the whole
text, and otherwise every line is wrapped. The markers above the lines are those in `early`. -/
theorem resolveHookLines_cases (worded : ∀ v ∈ vars, ∀ c ∈ v.name.toList, isWord c = true)
    (distinct : (vars.map (·.name)).Nodup) (context : Context) {lines : List (List Char)}
    (whole : ∀ line ∈ lines, '\n' ∉ line) {n : Nat} {early marks : List (Nat × Variable)}
    (above : ∀ mark ∈ early, mark.1 < n)
    (all : marks = early ++ occurrencesFrom (anyPattern vars) n none (joinLines lines)) :
    ((∃ line ∈ linesFrom n lines, 2 ≤ (inLine line marks).length) ∧
      ∃ fault, resolveHookLines .arm vars context lines = .error (.fault fault) ∧
        fault.cause.kind = .source) ∨
    ((∀ line ∈ linesFrom n lines, (inLine line marks).length ≤ 1) ∧
      ∃ written, resolveHookLines .arm vars context lines = .ok written ∧
        written.map String.toList =
          (linesFrom n lines).flatMap fun line => wrapped line (inLine line marks)) := by
  induction lines generalizing n early with
  | nil => exact .inr ⟨by simp [linesFrom], [], rfl, rfl⟩
  | cons line lines ih =>
      rw [List.forall_mem_cons] at whole
      obtain ⟨here, early', above', all'⟩ := inLine_joinLines above all
      have first := resolveHookLine_cases worded distinct context (!lines.isEmpty) n whole.1
      rw [← here] at first
      rw [linesFrom, resolveHookLines]
      simp only [List.exists_mem_cons_iff, List.forall_mem_cons, List.flatMap_cons]
      rcases first with ⟨several, fault, failed, kind⟩ | ⟨few, written, wrote, same⟩
      · rw [failed]
        exact .inl ⟨.inl several, fault, rfl, kind⟩
      · rw [wrote]
        rcases ih whole.2 above' all' with
          ⟨crowded, fault, failed, kind⟩ | ⟨fewer, others, wrote', same'⟩
        · rw [failed]
          exact .inl ⟨.inr crowded, fault, rfl, kind⟩
        · rw [wrote']
          refine .inr ⟨⟨few, fewer⟩, written ++ others, rfl, ?_⟩
          rw [List.map_append, same, same']

/-- Every marker of a text stands in one of its lines. -/
theorem flatMap_inLine {lines : List (List Char)} {n : Nat} {early marks : List (Nat × Variable)}
    (above : ∀ mark ∈ early, mark.1 < n)
    (all : marks = early ++ occurrencesFrom (anyPattern vars) n none (joinLines lines)) :
    (linesFrom n lines).flatMap (fun line => inLine line marks) =
      occurrencesFrom (anyPattern vars) n none (joinLines lines) := by
  induction lines generalizing n early with
  | nil => rfl
  | cons line lines ih =>
      obtain ⟨here, early', above', all'⟩ := inLine_joinLines above all
      rw [linesFrom, List.flatMap_cons, here, ih above' all', occurrencesFrom_joinLines]

/-- A body grows by three lines for each marker. -/
theorem length_flatMap_wrapped {lines : List (Nat × List Char)} {marks : List (Nat × Variable)}
    (few : ∀ line ∈ lines, (inLine line marks).length ≤ 1) :
    (lines.flatMap fun line => wrapped line (inLine line marks)).length =
      lines.length + 3 * (lines.flatMap fun line => inLine line marks).length := by
  induction lines with
  | nil => rfl
  | cons line lines ih =>
      rw [List.forall_mem_cons] at few
      simp only [List.flatMap_cons, List.length_append, List.length_cons, ih few.2,
        length_wrapped line few.1]
      omega

/-- Markers come in the order in which they stand. -/
theorem pairwise_occurrencesFrom (vars : List Variable) (n : Nat) (before : Option Char)
    (cs : List Char) :
    (occurrencesFrom (anyPattern vars) n before cs).Pairwise (·.1 < ·.1) := by
  induction cs generalizing n before with
  | nil => exact .nil
  | cons c cs ih =>
      rw [occurrencesFrom]
      split
      · exact ih _ _
      · exact .cons (fun mark member => le_of_mem_occurrencesFrom member) (ih _ _)

/-- A body is at fault or has its lines wrapped, by the markers of the whole body. -/
theorem resolveHook_cases (worded : ∀ v ∈ vars, ∀ c ∈ v.name.toList, isWord c = true)
    (distinct : (vars.map (·.name)).Nodup) (origin : Option String) (point : Option Int)
    {body : String} (plain : ¬ ['\r', '\n'] <:+: body.toList) :
    let marks := occurrencesFrom (anyPattern vars) 0 none body.toList
    let lines := linesFrom 0 (splitLines body.toList)
    ((∃ line ∈ lines, 2 ≤ (inLine line marks).length) ∧
      ∃ fault, resolveHook .arm vars origin point body = .error (.fault fault) ∧
        fault.cause.kind = .source) ∨
    ((∀ line ∈ lines, (inLine line marks).length ≤ 1) ∧
      ∃ out, resolveHook .arm vars origin point body = .ok out ∧
        splitLines out.toList = lines.flatMap fun line => wrapped line (inLine line marks)) := by
  intro marks lines
  have whole : ∀ line ∈ splitLines body.toList, '\n' ∉ line := fun line => not_mem_splitLines
  have all : marks = [] ++ occurrencesFrom (anyPattern vars) 0 none
      (joinLines (splitLines body.toList)) := by rw [joinLines_splitLines, List.nil_append]
  rw [resolveHook, foldNewlines_of_no_pair plain]
  rcases resolveHookLines_cases worded distinct
      { origin, mode := some Mode.hook.name, address := point } whole (by simp) all with
    ⟨crowded, fault, failed, kind⟩ | ⟨few, written, wrote, same⟩
  · exact .inl ⟨crowded, fault, by rw [failed]; rfl, kind⟩
  · refine .inr ⟨few, String.intercalate "\n" written, by rw [wrote]; rfl, ?_⟩
    rw [toList_intercalate_lines, same]
    refine splitLines_joinLines ?_ fun text member => ?_
    · have some := List.length_pos_of_ne_nil (splitLines_ne_nil body.toList)
      rw [← map_snd_linesFrom 0 (splitLines body.toList), List.length_map] at some
      refine List.ne_nil_of_length_pos ?_
      rw [length_flatMap_wrapped few]
      omega
    · obtain ⟨line, listed, inside⟩ := List.mem_flatMap.mp member
      have listed' : line.2 ∈ (linesFrom 0 (splitLines body.toList)).map Prod.snd :=
        List.mem_map_of_mem listed
      rw [map_snd_linesFrom] at listed'
      exact not_mem_wrapped (whole _ listed') _ inside

/-- With `marks` the markers of a body, those that a replacement would resolve, a hook is at fault
just if a line holds several of them. Otherwise a line with a marker becomes four, in which the
marker gives way to the operand and nothing else changes, and every other line stays as it is. -/
theorem resolveHook_lines (worded : ∀ v ∈ vars, ∀ c ∈ v.name.toList, isWord c = true)
    (distinct : (vars.map (·.name)).Nodup) (origin : Option String) (point : Option Int)
    (body : String) (plain : ¬ ['\r', '\n'] <:+: body.toList) :
    let marks := places (Text.scan (anyPattern vars) body.toList)
    let lines := linesFrom 0 (splitLines body.toList)
    (∀ n v, (n, v) ∈ marks ↔ v ∈ vars ∧ Marked v.name.toList (body.toList.drop n)) ∧
    marks.Pairwise (·.1 < ·.1) ∧
    (∀ arch place, (resolveReplacement arch vars place body).toList =
      Text.replace (fun v => (pcOffset (arch.pcRelative v.location place)).toList)
        (Text.scan (anyPattern vars) body.toList)) ∧
    ((∃ fault, resolveHook .arm vars origin point body = .error (.fault fault) ∧
      fault.cause.kind = .source) ↔ ∃ line ∈ lines, 2 ≤ (inLine line marks).length) ∧
    ((∀ line ∈ lines, (inLine line marks).length ≤ 1) →
      ∃ out, resolveHook .arm vars origin point body = .ok out ∧
        splitLines out.toList = (lines.flatMap fun line => wrapped line (inLine line marks)) ∧
        (splitLines out.toList).length = (splitLines body.toList).length + 3 * marks.length ∧
        (marks = [] → out = body)) := by
  intro marks lines
  have cuts := cuts_scanFrom (covers_anyPattern vars) none body.toList
  have listed : marks = occurrencesFrom (anyPattern vars) 0 none body.toList :=
    cuts.places_eq (apart_anyPattern vars) 0
  have cases := resolveHook_cases worded distinct origin point plain
  rw [← listed] at cases
  refine ⟨fun n v => mem_places_iff worded distinct,
    listed ▸ pairwise_occurrencesFrom vars 0 none body.toList,
    fun arch place => toList_resolveReplacement arch worded place body, ?_, ?_⟩
  · rcases cases with ⟨crowded, failed⟩ | ⟨few, out, wrote, -⟩
    · exact iff_of_true failed crowded
    · refine iff_of_false ?_ ?_
      · rintro ⟨fault, failed, -⟩
        rw [wrote] at failed
        cases failed
      · rintro ⟨line, member, several⟩
        have := few line member
        omega
  · intro few
    rcases cases with ⟨⟨line, member, several⟩, -⟩ | ⟨-, out, wrote, same⟩
    · have := few line member
      omega
    · have whole : (lines.flatMap fun line => inLine line marks) = marks := by
        have all : marks = [] ++ occurrencesFrom (anyPattern vars) 0 none
            (joinLines (splitLines body.toList)) := by
          rw [joinLines_splitLines, List.nil_append, listed]
        exact (flatMap_inLine (by simp) all).trans all.symm
      refine ⟨out, wrote, same, ?_, ?_⟩
      · rw [same, length_flatMap_wrapped few, whole, ← List.length_map Prod.snd, map_snd_linesFrom]
      · intro none
        have kept : (lines.flatMap fun line => wrapped line (inLine line marks)) =
            lines.map Prod.snd := by
          rw [none]
          exact List.map_eq_flatMap.symm
        rw [kept, map_snd_linesFrom] at same
        rw [← String.toList_inj, ← joinLines_splitLines out.toList, same, joinLines_splitLines]

/-- A marker at the end of a line, one in front of blanks and one at the end of the body, where none
is found. -/
theorem resolveHook_lines_nested :
    (∃ out, resolveHook .arm nestedNames none none "ldr r0, =buffer\nnop\nstr r0,=buf \t\n=buf" =
        .ok out ∧
      splitLines out.toList = ["push \x7blr\x7d", "ldr lr, =0x01FFFFF0", "ldr r0, [lr]",
        "pop \x7blr\x7d", "nop", "push \x7blr\x7d", "ldr lr, =0x02000010", "str r0,[lr] \t",
        "pop \x7blr\x7d", "=buf"].map String.toList) ∧
    ∃ fault, resolveHook .arm nestedNames none none "nop\nstm =buffer =buf\n" =
        .error (.fault fault) ∧ fault.cause.kind = .source := by
  constructor
  · obtain ⟨-, -, -, -, wraps⟩ := resolveHook_lines worded_nestedNames distinct_nestedNames none
      none "ldr r0, =buffer\nnop\nstr r0,=buf \t\n=buf" (by decide +kernel)
    obtain ⟨out, wrote, same, -⟩ := wraps (by decide +kernel)
    exact ⟨out, wrote, same.trans (by decide +kernel)⟩
  · obtain ⟨-, -, -, fails, -⟩ := resolveHook_lines worded_nestedNames distinct_nestedNames none
      none "nop\nstm =buffer =buf\n" (by decide +kernel)
    exact fails.mpr (by decide +kernel)

end Marker

end OverlayPatch
