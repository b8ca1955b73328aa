import Mathlib
import OverlayPatch.Proofs.Headers
import OverlayPatch.Proofs.Hexadecimal
import OverlayPatch.Proofs.Resolution

/-!
# What is encoded for an alias

The references of a line are listed when it is read and replaced when it is placed, by two scans far
apart. Both find the same brackets, because a line can be split at words in brackets in one way
only (`splits_iff`): a bracket is no part of a word, so no reference begins inside another one, and
what stands between two of them cannot complete either.

While variables are placed, an address that was given away never changes (`HandedFor.push`). So the
text that the encoder got for an alias holds the addresses of the finished allocation, and
`ofDeclarations_texts` can tell all texts from there.
-/

namespace OverlayPatch

set_option autoImplicit false

namespace Declaration

open Text

/-! ## Words in brackets -/

/-- A reference as it stands in a line. -/
def bracketed (name : String) : List Char :=
  '[' :: (name.toList ++ [']'])

def IsName (name : String) : Prop :=
  name.toList ≠ [] ∧ ∀ c ∈ name.toList, isWord c = true

variable {before : Option Char} {line lead cs : List Char} {name : String} {size : Nat}
  {parts : List (String × List Char)}

theorem isWord_open : isWord '[' = false := by decide

theorem isWord_close : isWord ']' = false := by decide

theorem bracketed_ne_nil (name : String) : bracketed name ≠ [] :=
  List.cons_ne_nil _ _

/-- Whatever is found is a word in brackets, and every word in brackets is found. -/
theorem referencePattern_eq_some :
    referencePattern before cs = some (name, size) ↔
      IsName name ∧ (∃ rest, cs = bracketed name ++ rest) ∧ size = (bracketed name).length := by
  constructor
  · intro found
    obtain ⟨word, read, same⟩ := Option.map_eq_some_iff.mp found
    obtain ⟨rfl, rfl⟩ : String.ofList word = name ∧ word.length + 2 = size := by simpa using same
    unfold readReference? at read
    split at read
    · rename_i rest
      dsimp only at read
      split at read
      · rename_i closed
        obtain ⟨split, worded⟩ := spanWord_spec rest
        obtain rfl : (spanWord rest).1 = word := by simpa using read
        simp only [Bool.and_eq_true, Bool.not_eq_true', List.isEmpty_eq_false_iff, beq_iff_eq]
          at closed
        obtain ⟨after, tail⟩ := List.head?_eq_some_iff.mp closed.2
        refine ⟨⟨by simpa using closed.1, by simpa using worded⟩, ⟨after, ?_⟩, by simp [bracketed]⟩
        rw [bracketed, String.toList_ofList, List.cons_append, List.append_assoc,
          List.singleton_append, ← tail, ← split]
      · cases read
    · cases read
  · rintro ⟨⟨filled, worded⟩, ⟨rest, rfl⟩, rfl⟩
    have spans : spanWord (name.toList ++ [']'] ++ rest) = (name.toList, ']' :: rest) := by
      rw [List.append_assoc]
      exact spanWord_append worded isWord_close rest
    have read : readReference? (bracketed name ++ rest) = some name.toList := by
      rw [bracketed, List.cons_append, readReference?, spans]
      simp [filled]
    rw [referencePattern, read]
    simp [bracketed]

theorem literal_referencePattern : referencePattern.Literal bracketed where
  ne_nil := bracketed_ne_nil
  spelled found := (referencePattern_eq_some.mp found).2

/-! ## Splitting a line -/

/-- The stretch holds no word in brackets. -/
def Plain (cs : List Char) : Prop :=
  ∀ name, IsName name → ¬ bracketed name <:+: cs

/-- The line is what stands before its first reference, and then each reference with the stretch
behind it. No stretch holds a word in brackets. -/
structure Splits (line lead : List Char) (parts : List (String × List Char)) : Prop where
  written : line = lead ++ parts.flatMap (sectionText bracketed)
  names : ∀ part ∈ parts, IsName part.1
  first : Plain lead
  others : ∀ part ∈ parts, Plain part.2

theorem plain_of_nothing (nothing : ∀ x y, cs = x ++ y → y ≠ [] →
    ∃ rest before, referencePattern before (y ++ rest) = none) : Plain cs := by
  rintro name good ⟨x, y, rfl⟩
  obtain ⟨rest, before, none⟩ := nothing x (bracketed name ++ y) (List.append_assoc _ _ _)
    (by simp [bracketed])
  rw [referencePattern_eq_some.mpr ⟨good, ⟨y ++ rest, List.append_assoc _ _ _⟩, rfl⟩] at none
  cases none

/-- A bracket that opens stands at the start of a reference and nowhere else in it. -/
theorem not_mem_of_bracketed (good : IsName name) {x y : List Char}
    (split : bracketed name = x ++ y) (filled : x ≠ []) : '[' ∉ y := by
  obtain ⟨c, x, rfl⟩ := List.exists_cons_of_ne_nil filled
  obtain ⟨-, tail⟩ := List.cons.inj split
  intro member
  have inside : '[' ∈ name.toList ++ [']'] := tail ▸ List.mem_append_right x member
  rcases List.mem_append.mp inside with word | close
  · have wrong := good.2 _ word
    rw [isWord_open] at wrong
    cases wrong
  · exact absurd (List.mem_singleton.mp close) (by decide)

/-- In a plain stretch nothing is found, also with a reference right behind it. -/
theorem nothing_of_plain {run : List Char} (plain : Plain run)
    (next : ∀ c rest, cs = c :: rest → c = '[') :
    ∀ x y, run = x ++ y → y ≠ [] → referencePattern before (y ++ cs) = none := by
  rintro x y rfl filled
  rw [Option.eq_none_iff_forall_ne_some]
  rintro ⟨name, size⟩ found
  obtain ⟨good, ⟨rest, same⟩, -⟩ := referencePattern_eq_some.mp found
  rcases behind_or_inside same.symm with ⟨y', rfl, -⟩ | ⟨tail, more, cut, rfl⟩
  · exact plain name good ⟨x, y', List.append_assoc _ _ _⟩
  · obtain ⟨c, tail, rfl⟩ := List.exists_cons_of_ne_nil more
    obtain rfl := next c (tail ++ rest) rfl
    exact not_mem_of_bracketed good cut filled List.mem_cons_self

theorem head_parts (parts : List (String × List Char)) :
    ∀ c rest, parts.flatMap (sectionText bracketed) = c :: rest → c = '[' := by
  intro c rest same
  cases parts with
  | nil => cases same
  | cons part parts => exact (List.cons.inj same).1.symm

/-- References written one after the other with stretches between them are found as they were
written. -/
theorem cuts_parts (names : ∀ part ∈ parts, IsName part.1)
    (others : ∀ part ∈ parts, Plain part.2) :
    Cuts referencePattern before (parts.flatMap (sectionText bracketed))
      (parts.flatMap (sectionPieces bracketed)) := by
  induction parts generalizing before with
  | nil => exact .done
  | cons part parts ih =>
      have rest (after : Option Char) :
          Cuts referencePattern after (parts.flatMap (sectionText bracketed))
            (parts.flatMap (sectionPieces bracketed)) :=
        ih (fun part member => names part (List.mem_cons_of_mem _ member))
          (fun part member => others part (List.mem_cons_of_mem _ member))
      have stretch : Cuts referencePattern (behind before (bracketed part.1))
          (part.2 ++ parts.flatMap (sectionText bracketed))
          (part.2.map .plain ++ parts.flatMap (sectionPieces bracketed)) :=
        Cuts.append_plain
          (fun x y => nothing_of_plain (others part List.mem_cons_self) (head_parts parts) x y)
          (rest _)
      simp only [List.flatMap_cons, sectionText, sectionPieces, List.append_assoc]
      exact .find (bracketed_ne_nil part.1) (referencePattern_eq_some.mpr
        ⟨names part List.mem_cons_self, ⟨_, rfl⟩, rfl⟩) stretch

/-- A line splits in just one way, that of the scan for its references. -/
theorem splits_iff :
    Splits line lead parts ↔ sections (scan referencePattern line) = (lead, parts) := by
  constructor
  · rintro ⟨rfl, names, first, others⟩
    have cuts : scan referencePattern (lead ++ parts.flatMap (sectionText bracketed)) =
        lead.map .plain ++ parts.flatMap (sectionPieces bracketed) :=
      (scan_eq_iff literal_referencePattern.covers).mpr
        (Cuts.append_plain (fun x y => nothing_of_plain first (head_parts parts) x y)
          (cuts_parts names others))
    rw [cuts, sections_plain, sections_sectionPieces, List.append_nil]
  · intro same
    have cuts := (scan_eq_iff literal_referencePattern.covers).mp
      (rfl : scan referencePattern line = _)
    have written := cuts.written literal_referencePattern
    have between {x y : List Char} (filled : y ≠ []) :=
      cuts.nothing_between literal_referencePattern (x := x) filled
    simp only [same] at written between
    refine ⟨written, fun part member => ?_, ?_, fun part member => ?_⟩
    · have listed : part.1 ∈ finds (scan referencePattern line) := by
        rw [← map_fst_sections, same]
        exact List.mem_map_of_mem member
      obtain ⟨_, _, _, found⟩ := cuts.found listed
      exact (referencePattern_eq_some.mp found).1
    · exact plain_of_nothing fun x y split filled => (between filled).1 split
    · exact plain_of_nothing fun x y split filled => (between filled).2 part member split

/-! ## Replacing references -/

def locationDigits (locations : Locations) (name : String) : List Char :=
  (locations.lookup name).elim [] (Number.hex 8)

/-- A line with its references replaced, by how it was split. -/
def writeParts (digits : String → List Char) (lead : List Char)
    (parts : List (String × List Char)) : String :=
  String.ofList (lead ++ parts.flatMap (sectionText fun name => '0' :: 'x' :: digits name))

/-- Substitution goes by how the line was split: stretches stay, references become digits. -/
theorem substitute_eq_ok {locations : Locations} {text written : String}
    (splits : Splits text.toList lead parts) (found : substitute locations text = .ok written) :
    written = writeParts (locationDigits locations) lead parts := by
  obtain ⟨pieces, each, rfl⟩ := map_ok found
  have same : (scan referencePattern text.toList).map
      (Piece.write fun name => '0' :: 'x' :: locationDigits locations name) = pieces.map id := by
    refine map_eq_of_forall₂ (forall₂_of_mapM_ok each) ?_
    intro piece characters here
    cases piece with
    | plain c =>
        cases here
        rfl
    | find name covers =>
        cases known : locations.lookup name with
        | none => simp [writePiece, known] at here
        | some location =>
            simpa [writePiece, known, Number.address, Piece.write, locationDigits] using here
  rw [List.map_id] at same
  rw [← same, ← List.flatMap_def, writeParts]
  show String.ofList (replace _ _) = _
  rw [replace_eq_sections, splits_iff.mp splits]

end Declaration

namespace Allocation

open Declaration Text

variable {σ : Type} {encoder : Encoder σ} {start : Int} {first bench later : Bench σ}
  {done : List Declaration} {allocation next : Allocation} {declaration : Declaration}
  {text : String}

/-- What is handed over for a declaration: its line as it is, or for an alias the line with each
reference replaced by the location of the variable that it names. From a start that is an address,
a location is written with at least eight upper-case digits of base sixteen. -/
inductive HandedFor (start : Int) (allocation : Allocation) (declaration : Declaration) :
    String → Prop where
  | direct (stands : declaration.isAlias = false) :
      HandedFor start allocation declaration declaration.text
  | referring {lead : List Char} {parts : List (String × List Char)} {digits : String → List Char}
      (refers : declaration.isAlias = true) (splits : Splits declaration.text.toList lead parts)
      (each : ∀ part ∈ parts, ∃ v, allocation.find? part.1 = some v ∧
        (0 ≤ start → 8 ≤ (digits part.1).length ∧ Number.Spells (digits part.1) v.location)) :
      HandedFor start allocation declaration (writeParts digits lead parts)

/-- What was placed is found as long as more is placed. -/
theorem find?_push {name : String} {v : Variable} (found : allocation.find? name = some v)
    (w : Variable) : (allocation.push w).find? name = some v := by
  rw [find?] at found ⊢
  rw [push, List.find?_append, found, Option.some_or]

theorem HandedFor.push (handed : HandedFor start allocation declaration text) (w : Variable) :
    HandedFor start (allocation.push w) declaration text := by
  cases handed with
  | direct stands => exact .direct stands
  | referring refers splits each =>
      refine .referring refers splits fun part member => ?_
      obtain ⟨v, found, spelled⟩ := each part member
      exact ⟨v, find?_push found w, spelled⟩

/-! ## Both passes -/

/-- While declarations are placed: for each that is `done` one text was handed over, and nothing
lies below the start. -/
structure Told (encoder : Encoder σ) (start : Int) (first bench : Bench σ)
    (done : List Declaration) (allocation : Allocation) : Prop where
  handed : ∃ texts, Handed encoder first bench texts ∧
    List.Forall₂ (HandedFor start allocation) done texts
  cursor : start ≤ allocation.cursor
  low : ∀ v ∈ allocation.vars, start ≤ v.location

theorem told_start (encoder : Encoder σ) (start : Int) (bench : Bench σ) :
    Told encoder start bench bench [] (Allocation.start start) where
  handed := ⟨[], .refl encoder bench, .nil⟩
  cursor := le_rfl
  low := by simp [Allocation.start]

theorem Told.step (told : Told encoder start first bench done allocation)
    (places : Places encoder declaration text bench later allocation next)
    (here : HandedFor start allocation declaration text) :
    Told encoder start first later (done ++ [declaration]) next := by
  obtain ⟨texts, before, each⟩ := told.handed
  obtain ⟨handed, rfl, -⟩ := places
  have cursor := told.cursor
  refine ⟨⟨texts ++ [text], before.trans handed, ?_⟩, ?_, ?_⟩
  · exact List.rel_append (each.imp fun _ _ handed => handed.push _)
      (.cons (here.push _) .nil)
  · simp only [push, Variable.limit]
    omega
  · intro v member
    rcases List.mem_append.mp member with old | new
    · exact told.low v old
    · obtain rfl := List.mem_singleton.mp new
      exact cursor

/-- At its turn an alias gets the addresses of what it refers to. -/
theorem handedFor_alias (told : Told encoder start first bench done allocation)
    (faithful : declaration.Faithful) (refers : declaration.isAlias = true) {locations : Locations}
    (known : ∀ reference ∈ declaration.references, ∃ target,
      allocation.find? reference = some target ∧
      locations.lookup reference = some target.location)
    (written : substitute locations declaration.text = .ok text) :
    HandedFor start allocation declaration text := by
  rcases split : sections (scan referencePattern declaration.text.toList) with ⟨lead, parts⟩
  have splits := splits_iff.mpr split
  have names : parts.map Prod.fst = declaration.references := by
    rw [faithful, referencesOf, ← map_fst_sections, split]
  rw [substitute_eq_ok splits written]
  refine .referring refers splits fun part member => ?_
  obtain ⟨target, found, located⟩ := known part.1 (names ▸ List.mem_map_of_mem member)
  have digits : locationDigits locations part.1 = Number.hex 8 target.location := by
    simp [locationDigits, located]
  have low := told.low target (List.mem_of_find?_eq_some found)
  refine ⟨target, found, fun positive => ?_⟩
  rw [digits]
  exact (Number.spells_hex 8 (positive.trans low)).symm

theorem direct_told (encoder : Encoder σ) (origin : Option String) (start : Int)
    (declarations : List Declaration) (bench : Bench σ) :
    ((declarations.filter (!·.isAlias)).foldlM (fun allocation declaration =>
        place encoder origin declaration declaration.text allocation)
        (Allocation.start start)).Ends bench
      (fun allocation later => Told encoder start bench later
        (declarations.filter (!·.isAlias)) allocation) (fun _ _ => True) := by
  refine ExceptT.ends_foldlM (fun done allocation later =>
    Told encoder start bench later done allocation) (told_start encoder start bench) ?_
  intro done declaration rest allocation middle split told
  have member : declaration ∈ declarations.filter (!·.isAlias) := by simp [split]
  have direct : declaration.isAlias = false := by simpa using (List.mem_filter.mp member).2
  refine (place_ends encoder origin declaration declaration.text allocation middle).mono ?_
    fun _ _ _ => trivial
  intro next later places
  exact told.step places (.direct direct)

theorem aliases_told (encoder : Encoder σ) (origin : Option String) (start : Int)
    {declarations : List Declaration} (faithful : ∀ d ∈ declarations, d.Faithful)
    {direct : Allocation} {first bench : Bench σ}
    (placed : Told encoder start first bench (declarations.filter (!·.isAlias)) direct) :
    ((declarations.filter (·.isAlias)).foldlM
        (placeAlias encoder declarations origin) direct).Ends bench
      (fun allocation later => Told encoder start first later (placingOrder declarations)
        allocation) (fun _ _ => True) := by
  refine ExceptT.ends_foldlM (fun done allocation later => Told encoder start first later
    (placedBefore declarations done) allocation) (by simpa [placedBefore] using placed) ?_
  intro done referrer rest allocation middle split told
  have member : referrer ∈ declarations.filter (·.isAlias) := by simp [split]
  obtain ⟨declared, isAlias⟩ := List.mem_filter.mp member
  refine (placeAlias_ends encoder declarations origin allocation (faithful referrer declared)
    middle).mono ?_ fun _ _ _ => trivial
  rintro next later ⟨locations, text, known, written, places⟩
  have here := handedFor_alias told (faithful referrer declared) isAlias known written
  simpa [placedBefore] using told.step places here

/-- The run of both loops: one text for each declaration, in the order of placing. -/
theorem ofDeclarations_told (encoder : Encoder σ) (origin : Option String) (start : Int)
    {declarations : List Declaration} (faithful : ∀ d ∈ declarations, d.Faithful)
    (bench : Bench σ) :
    (ofDeclarations encoder origin start declarations).Ends bench
      (fun allocation later => Told encoder start bench later (placingOrder declarations)
        allocation) (fun _ _ => True) := by
  unfold ofDeclarations
  cases firstRepeated? [] declarations with
  | some name => exact Work.ends_fail trivial
  | none =>
      apply ExceptT.ends_bind
      refine (direct_told encoder origin start declarations bench).mono ?_ fun _ _ bad => bad
      intro direct middle placed
      exact aliases_told encoder origin start faithful placed

/-- A line that was read splits in one way into its references and stretches without a word in
brackets. If variables of such lines are all placed, the encoder has been handed one text for each
of them, in the order in which they are placed: lines that stand on their own as they are, and
aliases with every reference replaced by the location that the allocation holds for what it
names. -/
theorem ofDeclarations_texts (encoder : Encoder σ) (origin : Option String) (start : Int)
    {declarations : List Declaration}
    (read : ∀ d ∈ declarations, ∃ name body all, readBody name body = .ok all ∧ d ∈ all) :
    (∀ d ∈ declarations, ∃ lead parts, parts.map Prod.fst = d.references ∧
      Splits d.text.toList lead parts ∧
      ∀ lead' parts', Splits d.text.toList lead' parts' → lead' = lead ∧ parts' = parts) ∧
    ∀ bench later allocation,
      (ofDeclarations encoder origin start declarations).run bench = (.ok allocation, later) →
      (allocation.vars.map (·.name)).Nodup ∧
      allocation.vars.map (·.name) = (placingOrder declarations).map (·.name) ∧
      ∃ texts, later.calls = bench.calls ++ texts ∧
        List.Forall₂ (HandedFor start allocation) (placingOrder declarations) texts := by
  have faithful : ∀ d ∈ declarations, d.Faithful := by
    intro d member
    obtain ⟨name, body, all, found, inside⟩ := read d member
    exact readBody_faithful found d inside
  refine ⟨fun d member => ?_, fun bench later allocation ran => ?_⟩
  · rcases split : sections (scan referencePattern d.text.toList) with ⟨lead, parts⟩
    refine ⟨lead, parts, ?_, splits_iff.mpr split, fun lead' parts' splits => ?_⟩
    · rw [faithful d member, referencesOf, ← map_fst_sections, split]
    · have same := (splits_iff.mp splits).symm.trans split
      exact Prod.mk.inj same
  · obtain ⟨distinct, -, progress⟩ :=
      (ofDeclarations_ends encoder origin start faithful bench).of_ok ran
    have told := (ofDeclarations_told encoder origin start faithful bench).of_ok ran
    have names : allocation.vars.map (·.name) = (placingOrder declarations).map (·.name) := by
      simpa [Function.comp_def] using congrArg (List.map Prod.fst) progress.declared
    have order : (placingOrder declarations).Perm declarations :=
      List.perm_append_comm.trans (List.filter_append_perm _ _)
    obtain ⟨texts, handed, each⟩ := told.handed
    refine ⟨?_, names, texts, handed.calls, each⟩
    rw [names]
    exact (order.map _).nodup_iff.mpr distinct

/-- An alias with brackets in brackets, a name that repeats and a reference in its comment. -/
def table : Declaration :=
  { name := "table", text := "table: .word [[b]], [b] @ [p]", references := ["b", "b", "p"] }

/-- That alias, between an alias that it refers to and the variable that both refer to. -/
def tabled : List Declaration :=
  [{ name := "p", text := "p: .word [b]", references := ["b"] }, table,
    { name := "b", text := "b: .word 7" }]

def tabledRun : Except Failure Allocation × Bench Unit :=
  (ofDeclarations (.constant [1, 2, 3, 4]) (some "menu") 100 tabled).run { state := () }

/-- Brackets in brackets, a repeated reference and one in a comment are all replaced. -/
theorem ofDeclarations_texts_nested :
    ∃ allocation, tabledRun.1 = .ok allocation ∧
      tabledRun.2.calls = ["b: .word 7", "p: .word 0x00000064",
        "table: .word [0x00000064], 0x00000064 @ 0x00000068"] ∧
      HandedFor 100 allocation table "table: .word [0x00000064], 0x00000064 @ 0x00000068" := by
  have read : readBody "menu" "p: .word [b]\ntable: .word [[b]], [b] @ [p]\nb: .word 7" =
      .ok tabled := by decide +kernel
  have calls : tabledRun.2.calls = ["b: .word 7", "p: .word 0x00000064",
      "table: .word [0x00000064], 0x00000064 @ 0x00000068"] := by decide +kernel
  have names : tabledRun.1.map (·.names) = .ok ["b", "p", "table"] := by decide +kernel
  obtain ⟨allocation, placed, -⟩ := map_ok names
  have ran := (Prod.eta tabledRun).symm
  rw [placed] at ran
  obtain ⟨-, -, texts, handed, each⟩ := (ofDeclarations_texts (.constant [1, 2, 3, 4]) (some "menu")
    100 (fun _ member => ⟨_, _, _, read, member⟩)).2 { state := () } tabledRun.2 allocation ran
  have same : tabledRun.2.calls = texts := handed
  have order : placingOrder tabled =
      [{ name := "b", text := "b: .word 7" },
        { name := "p", text := "p: .word [b]", references := ["b"] }, table] := by decide
  rw [← same, calls, order] at each
  rcases each with _ | ⟨-, _ | ⟨-, _ | ⟨last, -⟩⟩⟩
  exact ⟨allocation, placed, calls, last⟩

end Allocation

end OverlayPatch
