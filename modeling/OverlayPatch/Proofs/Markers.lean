import OverlayPatch.Marker
import OverlayPatch.Proofs.Headers
import Mathlib

/-!
# Markers of all variables at once

A replacement has its markers resolved by one pass for each variable. A pass could undo the work of
another: an operand may bring in a blank that completes a marker, and one name may begin with
another. `replaceAll` is the plain way, a single pass that reads the whole word behind an equals
sign and looks it up. Passes add up (`replaceAll_replaceAll`): two of them are one with the
variables of both. What an operand needs for that is little (`Inert`), and operands relative to the
program counter have it.

Everything about replacements follows from this law. Going through the variables one by one is one
pass (`foldl_replace`), a second pass changes nothing (`replaceAll_idem`), and since each find takes
an equals sign away (`count_replaceAll`), there is then nothing left to find.
-/

namespace OverlayPatch

set_option autoImplicit false

namespace Text

/-- No blank is part of a word. -/
theorem isWord_of_isBlank {c : Char} (blank : isBlank c = true) : isWord c = false := by
  have outside := of_isBlank (fun c => !isWord c) (by decide +kernel) blank
  simpa using outside

end Text

namespace Marker

open Text

/-! ## Marked words -/

/-- The text starts with an equals sign, the word and a blank. -/
def Marked (word cs : List Char) : Prop :=
  ∃ b rest, cs = '=' :: (word ++ b :: rest) ∧ isBlank b = true

/-- Markers of any of the variables: an equals sign and a whole word that is the name of one, with
a blank behind it. -/
def anyPattern (vars : List Variable) : Pattern Variable := fun _ cs =>
  match cs with
  | '=' :: rest =>
      let (word, after) := spanWord rest
      if after.head?.any isBlank then
        (vars.find? (·.name.toList = word)).map (·, word.length + 1)
      else none
  | _ => none

/-- The markers of all variables replaced in one pass. -/
def replaceAll (operand : Variable → List Char) (vars : List Variable) (cs : List Char) :
    List Char :=
  Text.replace operand (Text.scan (anyPattern vars) cs)

variable {vars us vs : List Variable} {v : Variable} {before : Option Char}
  {word cs : List Char} {size : Nat}

theorem isWord_equals : isWord '=' = false := by decide

theorem free_anyPattern (vars : List Variable) : (anyPattern vars).Free :=
  fun _ _ => rfl

theorem anyPattern_of_ne {c : Char} (other : c ≠ '=') :
    anyPattern vars before (c :: cs) = none := by
  unfold anyPattern
  split
  · rename_i rest same
    exact absurd (List.cons.inj same).1 other
  · rfl

/-- At a marked word the variables are looked up by their names. -/
theorem anyPattern_of_marked (worded : ∀ c ∈ word, isWord c = true) (marked : Marked word cs) :
    anyPattern vars before cs =
      (vars.find? (·.name.toList = word)).map (·, word.length + 1) := by
  obtain ⟨b, rest, rfl, blank⟩ := marked
  simp only [anyPattern, spanWord_append worded (isWord_of_isBlank blank), List.head?_cons,
    Option.any_some, blank, if_true]

/-- Whatever is found is the variable of a marked word. -/
theorem anyPattern_eq_some :
    anyPattern vars before cs = some (v, size) ↔
      ∃ word, (∀ c ∈ word, isWord c = true) ∧ Marked word cs ∧
        vars.find? (·.name.toList = word) = some v ∧ size = word.length + 1 := by
  constructor
  · intro found
    unfold anyPattern at found
    split at found
    · rename_i rest
      dsimp only at found
      split at found
      · rename_i ends
        obtain ⟨split, worded⟩ := spanWord_spec rest
        obtain ⟨w, known, same⟩ := Option.map_eq_some_iff.mp found
        obtain ⟨rfl, rfl⟩ : w = v ∧ (spanWord rest).1.length + 1 = size := by simpa using same
        cases head : (spanWord rest).2.head? with
        | none => simp [head] at ends
        | some b =>
            obtain ⟨after, tail⟩ := List.head?_eq_some_iff.mp head
            have blank : isBlank b = true := by simpa [head] using ends
            exact ⟨_, worded, ⟨b, after, by rw [← tail, ← split], blank⟩, known, rfl⟩
      · cases found
    · cases found
  · rintro ⟨word, worded, marked, known, rfl⟩
    rw [anyPattern_of_marked worded marked, known, Option.map_some]

theorem covers_anyPattern (vars : List Variable) : (anyPattern vars).Covers := by
  intro before cs v size found
  obtain ⟨word, -, ⟨b, rest, rfl, -⟩, -, rfl⟩ := anyPattern_eq_some.mp found
  simp

/-- A find is an equals sign and a word, and what follows begins with a blank. -/
theorem exists_word_of_find {covers : List Char}
    (here : anyPattern vars before (covers ++ cs) = some (v, covers.length)) :
    ∃ word b rest, covers = '=' :: word ∧ cs = b :: rest ∧ (∀ c ∈ word, isWord c = true) ∧
      isBlank b = true := by
  obtain ⟨word, worded, ⟨b, rest, same, blank⟩, -, size⟩ := anyPattern_eq_some.mp here
  rw [← List.cons_append] at same
  obtain ⟨rfl, rfl⟩ := List.append_inj same size
  exact ⟨word, b, rest, rfl, rfl, worded, blank⟩

theorem not_mem_of_worded (worded : ∀ c ∈ word, isWord c = true) : '=' ∉ word := by
  intro member
  have wrong := worded _ member
  rw [isWord_equals] at wrong
  cases wrong

/-- Nothing is found inside a marker. -/
theorem apart_anyPattern (vars : List Variable) : (anyPattern vars).Apart := by
  intro before x y cs v found some filled
  obtain ⟨word, -, -, split, -, worded, -⟩ := exists_word_of_find found
  obtain ⟨c, x, rfl⟩ := List.exists_cons_of_ne_nil some
  obtain ⟨d, y, rfl⟩ := List.exists_cons_of_ne_nil filled
  refine anyPattern_of_ne ?_
  rintro rfl
  refine not_mem_of_worded worded ?_
  rw [← (List.cons.inj split).2]
  simp

/-! ## Operands -/

/-- What takes a marker's place cannot become part of a marker: it holds no equals sign, and where
it begins, a word in front of it ends without a blank. -/
structure Inert (operand : List Char) : Prop where
  unmarked : '=' ∉ operand
  closed : ∃ c cs, operand = c :: cs ∧ isWord c = false ∧ isBlank c = false

variable {operand : Variable → List Char}

theorem replaceAll_plain {c : Char} (nothing : anyPattern vars none (c :: cs) = none) :
    replaceAll operand vars (c :: cs) = c :: replaceAll operand vars cs := by
  rw [replaceAll, (free_anyPattern vars).scan_plain nothing, replace_plain, replaceAll]

theorem replaceAll_find {covers : List Char} (filled : covers ≠ [])
    (here : anyPattern vars none (covers ++ cs) = some (v, covers.length)) :
    replaceAll operand vars (covers ++ cs) = operand v ++ replaceAll operand vars cs := by
  rw [replaceAll, (free_anyPattern vars).scan_find filled here, replace_find, replaceAll]

theorem replaceAll_run {run : List Char} (unmarked : '=' ∉ run) (cs : List Char) :
    replaceAll operand vars (run ++ cs) = run ++ replaceAll operand vars cs := by
  induction run with
  | nil => rfl
  | cons c run ih =>
      rw [List.mem_cons, not_or] at unmarked
      rw [List.cons_append, replaceAll_plain (anyPattern_of_ne (Ne.symm unmarked.1)),
        ih unmarked.2, List.cons_append]

theorem replaceAll_cons (operand : Variable → List Char) (vars : List Variable) (c : Char)
    (cs : List Char) :
    replaceAll operand vars (c :: cs) = c :: replaceAll operand vars cs ∨
      ∃ v rest, replaceAll operand vars (c :: cs) = operand v ++ rest := by
  cases found : anyPattern vars none (c :: cs) with
  | none => exact .inl (replaceAll_plain found)
  | some find =>
      obtain ⟨v, size⟩ := find
      obtain ⟨word, -, ⟨b, rest, same, -⟩, -, rfl⟩ := anyPattern_eq_some.mp found
      rw [same, ← List.cons_append] at found ⊢
      exact .inr ⟨v, _, replaceAll_find (List.cons_ne_nil _ _) found⟩

/-- A word and a blank in front of a text with its markers replaced were there before. -/
theorem exists_of_replaceAll (inert : ∀ v, Inert (operand v))
    (worded : ∀ c ∈ word, isWord c = true) {b : Char} (blank : isBlank b = true)
    {rest : List Char} (same : replaceAll operand vars cs = word ++ b :: rest) :
    ∃ rest', cs = word ++ b :: rest' := by
  induction word generalizing cs with
  | nil =>
      cases cs with
      | nil => cases same
      | cons c cs =>
          obtain plain | ⟨v, rest', there⟩ := replaceAll_cons operand vars c cs
          · obtain ⟨rfl, -⟩ := List.cons.inj (plain.symm.trans same)
            exact ⟨cs, rfl⟩
          · obtain ⟨o, os, starts, -, dark⟩ := (inert v).closed
            rw [starts] at there
            obtain ⟨rfl, -⟩ := List.cons.inj (there.symm.trans same)
            rw [blank] at dark
            cases dark
  | cons d word ih =>
      rw [List.forall_mem_cons] at worded
      cases cs with
      | nil => cases same
      | cons c cs =>
          obtain plain | ⟨v, rest', there⟩ := replaceAll_cons operand vars c cs
          · obtain ⟨rfl, same'⟩ := List.cons.inj (plain.symm.trans same)
            obtain ⟨rest', rfl⟩ := ih worded.2 same'
            exact ⟨rest', rfl⟩
          · obtain ⟨o, os, starts, dark, -⟩ := (inert v).closed
            rw [starts] at there
            obtain ⟨rfl, -⟩ := List.cons.inj (there.symm.trans same)
            rw [worded.1] at dark
            cases dark

/-! ## Passes -/

theorem anyPattern_append (vs us : List Variable) (before : Option Char) (cs : List Char) :
    anyPattern (vs ++ us) before cs = (anyPattern vs before cs).or (anyPattern us before cs) := by
  unfold anyPattern
  split
  · dsimp only
    split
    · rw [List.find?_append, Option.map_or]
    · rfl
  · rfl

/-- A pass makes no marker where there was none. -/
theorem anyPattern_replaceAll (inert : ∀ v, Inert (operand v)) {c : Char}
    (nothing : anyPattern us none (c :: cs) = none) :
    anyPattern us none (c :: replaceAll operand vs cs) = none := by
  rw [Option.eq_none_iff_forall_ne_some]
  rintro ⟨u, size⟩ found
  obtain ⟨word, worded, ⟨b, rest, same, blank⟩, known, -⟩ := anyPattern_eq_some.mp found
  obtain ⟨rfl, replaced⟩ := List.cons.inj same
  obtain ⟨rest', rfl⟩ := exists_of_replaceAll inert worded blank replaced
  rw [anyPattern_of_marked worded ⟨b, rest', rfl, blank⟩, known] at nothing
  cases nothing

/-- Two passes, one after the other, are one pass with the variables of both. -/
theorem replaceAll_replaceAll (inert : ∀ v, Inert (operand v)) (vs us : List Variable)
    (cs : List Char) :
    replaceAll operand us (replaceAll operand vs cs) = replaceAll operand (vs ++ us) cs := by
  have cuts := cuts_scanFrom (covers_anyPattern (vs ++ us)) none cs
  generalize scanFrom (anyPattern (vs ++ us)) 0 none cs = pieces at cuts
  generalize (none : Option Char) = start at cuts
  induction cuts with
  | done => rfl
  | @plain before c cs pieces nothing _ ih =>
      have both := nothing
      rw [anyPattern_append, Option.or_eq_none_iff] at both
      rw [replaceAll_plain both.1, replaceAll_plain (anyPattern_replaceAll inert both.2), ih,
        replaceAll_plain nothing]
  | @find before covers cs v pieces filled here _ ih =>
      obtain ⟨word, b, rest, rfl, rfl, worded, blank⟩ := exists_word_of_find here
      rw [replaceAll_find filled here]
      have either := here
      rw [anyPattern_append] at either
      cases first : anyPattern vs before ('=' :: word ++ b :: rest) with
      | some find =>
          -- The first pass replaces the marker, and the second finds nothing in the operand.
          rw [first, Option.some_or] at either
          cases either
          rw [replaceAll_find filled first, replaceAll_run (inert v).unmarked, ih]
      | none =>
          -- The first pass leaves the marker as it is, the blank behind it included.
          rw [first, Option.none_or] at either
          have dark : b ≠ '=' := by
            rintro rfl
            cases blank
          have kept : replaceAll operand vs ('=' :: word ++ b :: rest) =
              '=' :: word ++ replaceAll operand vs (b :: rest) := by
            rw [List.cons_append, replaceAll_plain first,
              replaceAll_run (not_mem_of_worded worded), List.cons_append]
          have there : replaceAll operand vs (b :: rest) = b :: replaceAll operand vs rest :=
            replaceAll_plain (anyPattern_of_ne dark)
          have again : anyPattern us none ('=' :: word ++ b :: replaceAll operand vs rest) =
              some (v, ('=' :: word).length) := by
            rw [← either, List.cons_append, List.cons_append,
              anyPattern_of_marked worded ⟨b, rest, rfl, blank⟩,
              anyPattern_of_marked worded ⟨b, _, rfl, blank⟩]
          rw [kept, ← ih, there, replaceAll_find filled again]

/-- A pass leaves nothing for another with the same variables. -/
theorem replaceAll_idem (inert : ∀ v, Inert (operand v)) (vars : List Variable) (cs : List Char) :
    replaceAll operand vars (replaceAll operand vars cs) = replaceAll operand vars cs := by
  have same : anyPattern (vars ++ vars) = anyPattern vars := by
    funext before cs
    rw [anyPattern_append, Option.or_self]
  rw [replaceAll_replaceAll inert, replaceAll, same, replaceAll]

/-- Every find takes one equals sign out of the text. -/
theorem count_replaceAll (inert : ∀ v, Inert (operand v)) (vars : List Variable) (cs : List Char) :
    (replaceAll operand vars cs).count '=' + (finds (Text.scan (anyPattern vars) cs)).length =
      cs.count '=' := by
  have cuts := cuts_scanFrom (covers_anyPattern vars) none cs
  rw [replaceAll, Text.scan]
  generalize scanFrom (anyPattern vars) 0 none cs = pieces at cuts ⊢
  generalize (none : Option Char) = start at cuts
  induction cuts with
  | done => rfl
  | @plain before c cs pieces _ _ ih =>
      simp only [replace_plain, finds_plain, List.count_cons]
      omega
  | @find before covers cs v pieces _ here _ ih =>
      obtain ⟨word, b, rest, rfl, rfl, worded, -⟩ := exists_word_of_find here
      have word_count := List.count_eq_zero_of_not_mem (not_mem_of_worded worded)
      have operand_count := List.count_eq_zero_of_not_mem (inert v).unmarked
      simp only [replace_find, finds_find, List.count_append, List.count_cons_self,
        List.length_cons, word_count, operand_count]
      omega

/-- No marker is left behind a pass. -/
theorem anyPattern_drop_replaceAll (inert : ∀ v, Inert (operand v)) (vars : List Variable)
    (cs : List Char) (n : Nat) :
    anyPattern vars none ((replaceAll operand vars cs).drop n) = none := by
  have counted := count_replaceAll inert vars (replaceAll operand vars cs)
  rw [replaceAll_idem inert] at counted
  have empty : finds (Text.scan (anyPattern vars) (replaceAll operand vars cs)) = [] :=
    List.length_eq_zero_iff.mp (by omega)
  by_cases past : (replaceAll operand vars cs).drop n = []
  · rw [past]
    rfl
  · have cuts := cuts_scanFrom (covers_anyPattern vars) none (replaceAll operand vars cs)
    exact cuts.eq_none_of_finds_nil empty (List.take_append_drop n _).symm past

/-! ## One variable after the other -/

theorem pattern_eq_some {name : String} :
    pattern name before cs = some ((), size) ↔
      Marked name.toList cs ∧ size = name.toList.length + 1 := by
  unfold pattern
  dsimp only
  constructor
  · intro found
    split at found
    · rename_i here
      rw [Bool.and_eq_true] at here
      obtain ⟨rest, rfl⟩ := List.isPrefixOf_iff_prefix.mp here.1
      have blank := here.2
      rw [List.drop_left] at blank
      cases rest with
      | nil => cases blank
      | cons b rest =>
          refine ⟨⟨b, rest, rfl, by simpa using blank⟩, ?_⟩
          simpa using found.symm
    · cases found
  · rintro ⟨⟨b, rest, rfl, blank⟩, rfl⟩
    rw [← List.cons_append, if_pos]
    · rfl
    · rw [Bool.and_eq_true, List.drop_left]
      exact ⟨List.isPrefixOf_iff_prefix.mpr (List.prefix_append _ _), by simpa using blank⟩

/-- The markers of one name are those of a variable of that name alone. -/
theorem pattern_eq (worded : ∀ c ∈ v.name.toList, isWord c = true) (before : Option Char)
    (cs : List Char) :
    pattern v.name before cs = (anyPattern [v] before cs).map fun find => ((), find.2) := by
  by_cases marked : Marked v.name.toList cs
  · rw [pattern_eq_some.mpr ⟨marked, rfl⟩, anyPattern_of_marked worded marked]
    simp
  · have none : anyPattern [v] before cs = none := by
      rw [Option.eq_none_iff_forall_ne_some]
      rintro ⟨w, size⟩ found
      obtain ⟨word, -, here, known, -⟩ := anyPattern_eq_some.mp found
      have same : v.name.toList = word := by
        obtain ⟨named, -⟩ : v.name.toList = word ∧ v = w := by simpa using known
        exact named
      exact marked (same ▸ here)
    rw [none, Option.map_none, Option.eq_none_iff_forall_ne_some]
    rintro ⟨⟨⟩, size⟩ found
    exact marked (pattern_eq_some.mp found).1

theorem scan_eq (worded : ∀ c ∈ v.name.toList, isWord c = true) (cs : List Char) :
    scan v.name cs = (Text.scan (anyPattern [v]) cs).map (Piece.map fun _ => ()) :=
  scan_map (pattern_eq worded) cs

theorem eq_of_mem_finds {w : Variable} (member : w ∈ finds (Text.scan (anyPattern [v]) cs)) :
    w = v := by
  have cuts := cuts_scanFrom (covers_anyPattern [v]) none cs
  obtain ⟨before, cs, size, found⟩ := cuts.found member
  obtain ⟨word, -, -, known, -⟩ := anyPattern_eq_some.mp found
  have listed := List.mem_of_find?_eq_some known
  simpa using listed

/-- A pass for one variable is a pass for all of them, with that one alone. -/
theorem replace_eq (text : Variable → String) (worded : ∀ c ∈ v.name.toList, isWord c = true)
    (cs : List Char) :
    replace v.name (text v) cs = replaceAll (fun v => (text v).toList) [v] cs := by
  rw [replace, scan_eq worded, replace_map, replaceAll]
  refine replace_congr fun w member => ?_
  rw [eq_of_mem_finds member]
  rfl

theorem replaceAll_no_vars (cs : List Char) : replaceAll operand [] cs = cs := by
  induction cs with
  | nil => rfl
  | cons c cs ih =>
      have nothing : anyPattern [] none (c :: cs) = none := by
        rw [Option.eq_none_iff_forall_ne_some]
        rintro ⟨v, size⟩ found
        obtain ⟨word, -, -, known, -⟩ := anyPattern_eq_some.mp found
        cases known
      rw [replaceAll_plain nothing, ih]

/-- Passes for single variables add up to one for all. -/
theorem foldl_replace {text : Variable → String} (inert : ∀ v, Inert (text v).toList)
    (worded : ∀ v ∈ vars, ∀ c ∈ v.name.toList, isWord c = true) (cs : List Char) :
    vars.foldl (fun cs v => replace v.name (text v) cs) cs =
      replaceAll (fun v => (text v).toList) vars cs := by
  induction vars generalizing cs with
  | nil => exact (replaceAll_no_vars cs).symm
  | cons v vars ih =>
      rw [List.forall_mem_cons] at worded
      rw [List.foldl_cons, ih worded.2, replace_eq text worded.1, replaceAll_replaceAll inert]
      rfl

/-! ## The order of variables -/

theorem find?_eq_some_iff (distinct : (vars.map (·.name)).Nodup) :
    vars.find? (·.name.toList = word) = some v ↔ v ∈ vars ∧ v.name.toList = word := by
  constructor
  · intro known
    exact ⟨List.mem_of_find?_eq_some known, by simpa using List.find?_some known⟩
  · rintro ⟨member, named⟩
    cases known : vars.find? (·.name.toList = word) with
    | none => exact absurd named (by simpa using List.find?_eq_none.mp known v member)
    | some w =>
        have named' : w.name.toList = word := by simpa using List.find?_some known
        have same : w.name = v.name := String.toList_inj.mp (named'.trans named.symm)
        rw [List.inj_on_of_nodup_map distinct (List.mem_of_find?_eq_some known) member same]

/-- The order of variables does not matter. -/
theorem anyPattern_perm (distinct : (vars.map (·.name)).Nodup) {order : List Variable}
    (all : order.Perm vars) : anyPattern order = anyPattern vars := by
  have distinct' : (order.map (·.name)).Nodup := (all.map _).nodup_iff.mpr distinct
  funext before cs
  refine Option.ext fun find => ?_
  obtain ⟨v, size⟩ := find
  simp only [anyPattern_eq_some, find?_eq_some_iff distinct,
    find?_eq_some_iff distinct', all.mem_iff]

/-- With names that are words and distinct, a variable is found where its name is marked. -/
theorem exists_anyPattern_iff (worded : ∀ v ∈ vars, ∀ c ∈ v.name.toList, isWord c = true)
    (distinct : (vars.map (·.name)).Nodup) :
    (∃ size, anyPattern vars before cs = some (v, size)) ↔
      v ∈ vars ∧ Marked v.name.toList cs := by
  simp only [anyPattern_eq_some, find?_eq_some_iff distinct]
  constructor
  · rintro ⟨-, word, -, marked, ⟨member, rfl⟩, -⟩
    exact ⟨member, marked⟩
  · rintro ⟨member, marked⟩
    exact ⟨_, _, worded v member, marked, ⟨member, rfl⟩, rfl⟩

/-! ## Operands relative to the program counter -/

def offsetText (displacement : Int) : String :=
  String.ofList ((if displacement < 0 then ['-'] else []) ++
    '0' :: 'x' :: Number.hex 3 displacement.natAbs)

theorem pcOffset_eq (displacement : Int) :
    pcOffset displacement = "[pc, #" ++ offsetText displacement ++ "]" := by
  rw [← String.toList_inj]
  unfold pcOffset offsetText
  dsimp only
  generalize Number.hex 3 _ = digits
  split
  · show ("[pc, #-0x" ++ String.ofList digits ++ "]").toList = _
    simp
  · show ("[pc, #0x" ++ String.ofList digits ++ "]").toList = _
    simp

/-- The number in an operand is read back as the displacement. -/
theorem readInt_offsetText (displacement : Int) :
    Number.readInt .any (offsetText displacement) = .ok displacement := by
  obtain ⟨hex, filled, value⟩ := Number.hex_natCast_facts 3 displacement.natAbs
  have unsigned := Number.unsigned_hex hex filled
  rw [value] at unsigned
  have signed : offsetText displacement = String.ofList (if displacement < 0 then
      '-' :: '0' :: 'x' :: Number.hex 3 displacement.natAbs
      else '0' :: 'x' :: Number.hex 3 displacement.natAbs) := by
    by_cases negative : displacement < 0 <;> simp [offsetText, negative]
  rw [signed]
  exact unsigned.signed.read

/-- No operand relative to the program counter becomes part of a marker. -/
theorem inert_pcOffset (displacement : Int) : Inert (pcOffset displacement).toList where
  unmarked := by
    have digits := (Number.hex_natCast_facts 3 displacement.natAbs).1
    have plain : '=' ∉ Number.hex 3 (displacement.natAbs : Int) := by
      intro member
      have wrong := Number.of_hexAlphabet (· != '=') (by decide) (digits _ member)
      cases wrong
    rw [pcOffset_eq, offsetText]
    generalize Number.hex 3 _ = digits at plain
    split <;> simp [plain]
  closed := by
    rw [pcOffset_eq]
    exact ⟨'[', _, by simp [String.toList_append]; rfl, by decide, by decide⟩

/-! ## Replacements -/

/-- A text without markers stays as it is. -/
theorem replaceAll_of_unmarked (operand : Variable → List Char)
    (nothing : ∀ n, anyPattern vars none (cs.drop n) = none) : replaceAll operand vars cs = cs := by
  induction cs with
  | nil => rfl
  | cons c cs ih =>
      rw [replaceAll_plain (nothing 0), ih fun n => nothing (n + 1)]

/-- The places at which a pass replaces something are those of all markers. -/
theorem mem_places_iff (worded : ∀ v ∈ vars, ∀ c ∈ v.name.toList, isWord c = true)
    (distinct : (vars.map (·.name)).Nodup) {n : Nat} :
    (n, v) ∈ places (Text.scan (anyPattern vars) cs) ↔
      v ∈ vars ∧ Marked v.name.toList (cs.drop n) := by
  have cuts := cuts_scanFrom (covers_anyPattern vars) none cs
  rw [places, Text.scan, cuts.places_eq (apart_anyPattern vars),
    mem_occurrencesFrom (free_anyPattern vars) (covers_anyPattern vars)]
  simp only [Nat.zero_add, exists_and_left, exists_eq_left']
  exact exists_anyPattern_iff worded distinct

/-- A replacement is resolved in one pass. -/
theorem toList_resolveReplacement (arch : Architecture)
    (worded : ∀ v ∈ vars, ∀ c ∈ v.name.toList, isWord c = true) (point : Int) (body : String) :
    (resolveReplacement arch vars point body).toList =
      replaceAll (fun v => (pcOffset (arch.pcRelative v.location point)).toList) vars
        body.toList := by
  rw [resolveReplacement, String.toList_ofList]
  exact foldl_replace (fun v => inert_pcOffset _) worded body.toList

/-- Resolving the markers of a replacement one variable after the other is a single pass, in which
every marker gives way to its operand and nothing else changes. So the order of the variables does
not show, no marker is left, and doing it again changes nothing, whatever the place. The number in
an operand leads from the program counter to the variable. -/
theorem resolveReplacement_at_once (arch : Architecture)
    (worded : ∀ v ∈ vars, ∀ c ∈ v.name.toList, isWord c = true)
    (distinct : (vars.map (·.name)).Nodup) (point : Int) (body : String) :
    let operand := fun v : Variable => pcOffset (arch.pcRelative v.location point)
    let resolved := resolveReplacement arch vars point body
    (∀ n v, (n, v) ∈ places (Text.scan (anyPattern vars) body.toList) ↔
      v ∈ vars ∧ Marked v.name.toList (body.toList.drop n)) ∧
    resolved.toList = replaceAll (fun v => (operand v).toList) vars body.toList ∧
    (∀ order : List Variable, order.Perm vars →
      resolveReplacement arch order point body = resolved) ∧
    (∀ v ∈ vars, ∀ n, ¬ Marked v.name.toList (resolved.toList.drop n)) ∧
    (∀ arch' point', resolveReplacement arch' vars point' resolved = resolved) ∧
    ∀ v ∈ vars, ∃ number d, operand v = "[pc, #" ++ number ++ "]" ∧
      Number.readInt .any number = .ok d ∧ point + arch.pipelineOffset + d = v.location := by
  intro operand resolved
  have once : resolved.toList = replaceAll (fun v => (operand v).toList) vars body.toList :=
    toList_resolveReplacement arch worded point body
  have left : ∀ n, anyPattern vars none (resolved.toList.drop n) = none := by
    rw [once]
    exact anyPattern_drop_replaceAll (fun v => inert_pcOffset _) vars body.toList
  refine ⟨fun n v => mem_places_iff worded distinct, once, ?_, ?_, ?_, ?_⟩
  · intro order all
    have worded' : ∀ v ∈ order, ∀ c ∈ v.name.toList, isWord c = true :=
      fun v member => worded v (all.mem_iff.mp member)
    rw [← String.toList_inj, once, toList_resolveReplacement arch worded', replaceAll, replaceAll,
      anyPattern_perm distinct all]
  · intro v member n marked
    obtain ⟨size, found⟩ := (exists_anyPattern_iff worded distinct).mpr ⟨member, marked⟩
    rw [left n] at found
    cases found
  · intro arch' point'
    rw [← String.toList_inj, toList_resolveReplacement arch' worded, replaceAll_of_unmarked _ left]
  · intro v _
    refine ⟨_, _, pcOffset_eq _, readInt_offsetText _, ?_⟩
    rw [Architecture.pcRelative]
    omega

def nestedNames : List Variable :=
  [{ name := "buf", location := 0x02000010, value := [] },
    { name := "buffer", location := 0x01FFFFF0, value := [] }]

theorem worded_nestedNames : ∀ v ∈ nestedNames, ∀ c ∈ v.name.toList, isWord c = true := by
  have each : nestedNames.all (·.name.toList.all isWord) = true := by decide
  exact fun v member => List.all_eq_true.mp (List.all_eq_true.mp each v member)

theorem distinct_nestedNames : (nestedNames.map (·.name)).Nodup := by decide

/-- One name begins another, and an operand comes to stand behind an equals sign and a name. -/
theorem resolveReplacement_at_once_nested :
    (nestedNames.map (·.name)).Nodup ∧
      resolveReplacement .arm nestedNames 0x02000000 "stm =buffer =buf=buf =buffers \n" =
        "stm [pc, #-0x018] =buf[pc, #0x008] =buffers \n" ∧
      resolveReplacement .arm nestedNames.reverse 0x02000000 "stm =buffer =buf=buf =buffers \n" =
        "stm [pc, #-0x018] =buf[pc, #0x008] =buffers \n" := by
  have first : resolveReplacement .arm nestedNames 0x02000000 "stm =buffer =buf=buf =buffers \n" =
      "stm [pc, #-0x018] =buf[pc, #0x008] =buffers \n" := by decide +kernel
  obtain ⟨-, -, any, -⟩ := resolveReplacement_at_once .arm worded_nestedNames distinct_nestedNames
    0x02000000 "stm =buffer =buf=buf =buffers \n"
  exact ⟨distinct_nestedNames, first, (any _ (List.reverse_perm _)).trans first⟩

end Marker

end OverlayPatch
