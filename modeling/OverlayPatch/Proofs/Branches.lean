import Mathlib
import OverlayPatch.Proofs.Hexadecimal
import OverlayPatch.Proofs.Relinking

/-!
# How far a linking gets, and where its branches lead

Linking works on the routines in place and may fail at two points of each step: before the hook at
hand is changed, if its branch cannot be had, and after, if its body runs past the last address. So
the routines fall in two parts. Those of the front have been gone through (`Advances`): every hook
in it lies behind the hooks before it and has the branch that the encoder gave for it at its turn.
The others are as they were. `EndsAt` says where the two parts meet, by what the linking came to,
and `link_frame` that this is all that ever happens to the routines.

What a linking gives to the hooks hangs on the code of the routines alone (`link_given`); what
they were given by an earlier one does not count. For ARM a branch is written as a displacement of
32 bits, which leads from the insertion point to the hook in either direction
(`armBranch_branchText`). `link_arm` puts this together.
-/

namespace OverlayPatch

set_option autoImplicit false

variable {σ : Type}

namespace Routine

variable {encoder : Encoder σ} {arch : Architecture} {origin : Option String} {cursor : Int}
  {state : σ} {first routine : Routine} {routines linked : List Routine} {texts vain : List String}
  {text : String} {k : Nat} {outcome : Except Failure Int} {bench later : Bench σ}

/-! ## The front -/

/-- From the cursor and a state of the encoder on, linking went through routines and made others of
them. Just the texts were handed over, one for each hook. -/
inductive Advances (encoder : Encoder σ) (arch : Architecture) :
    Int → σ → List Routine → List Routine → List String → Prop where
  | nil {cursor : Int} {state : σ} : Advances encoder arch cursor state [] [] []
  | replacement {cursor : Int} {state : σ} {routine : Routine} {routines linked : List Routine}
      {texts : List String} (stays : routine.isHook = false)
      (rest : Advances encoder arch cursor state routines linked texts) :
      Advances encoder arch cursor state (routine :: routines) (routine :: linked) texts
  | hook {cursor : Int} {state : σ} {routine : Routine} {routines linked : List Routine}
      {texts : List String} {text : String} {bytes : List UInt8} {remarks : List Entry}
      (moves : routine.isHook = true)
      (written : arch.branchText (cursor - routine.insertionPoint) = .ok text)
      (answer : (encoder.answer text state).1 = .accepted bytes remarks)
      (rest : Advances encoder arch (cursor + routine.data.length) (encoder.answer text state).2
        routines linked texts) :
      Advances encoder arch cursor state (routine :: routines)
        ({ routine with branch := some bytes, placement := some cursor } :: linked) (text :: texts)

/-- What the hook behind `before` is after a linking that got to it: it lies behind the hooks in
`before`, and its branch is what the encoder gave for it when its turn came. -/
structure Branched (encoder : Encoder σ) (arch : Architecture) (cursor : Int) (state : σ)
    (texts : List String) (before : List Routine) (hook after : Routine) : Prop where
  placed : after.placement = some (cursor + hookRoom before)
  branch : ∃ text bytes remarks,
    texts[before.countP (·.isHook)]? = some text ∧
    arch.branchText (cursor + hookRoom before - hook.insertionPoint) = .ok text ∧
    (encoder.answer text
      (encoder.stateAfter state (texts.take (before.countP (·.isHook))))).1 =
        .accepted bytes remarks ∧
    after.branch = some bytes

theorem hookRoom_hook_add (moves : first.isHook = true) (cursor : Int) (before : List Routine) :
    cursor + hookRoom (first :: before) = cursor + first.data.length + hookRoom before := by
  rw [hookRoom_hook moves]
  omega

theorem Branched.replacement {before : List Routine} {hook after : Routine}
    (branched : Branched encoder arch cursor state texts before hook after)
    (stays : first.isHook = false) :
    Branched encoder arch cursor state texts (first :: before) hook after := by
  have count : (first :: before).countP (·.isHook) = before.countP (·.isHook) :=
    List.countP_cons_of_neg (by simp [stays])
  have room := hookRoom_replacement stays before
  exact ⟨by rw [room]; exact branched.placed, by rw [room, count]; exact branched.branch⟩

theorem Branched.hook {before : List Routine} {hook after : Routine}
    (branched : Branched encoder arch (cursor + first.data.length) (encoder.answer text state).2
      texts before hook after) (moves : first.isHook = true) :
    Branched encoder arch cursor state (text :: texts) (first :: before) hook after := by
  have count : (first :: before).countP (·.isHook) = before.countP (·.isHook) + 1 :=
    List.countP_cons_of_pos moves
  have room := hookRoom_hook_add moves cursor before
  exact ⟨by rw [room]; exact branched.placed, by rw [room, count]; exact branched.branch⟩

/-- Every hook of the front has what this linking gave it. -/
theorem Advances.branched (advances : Advances encoder arch cursor state routines linked texts)
    {i : Nat} {hook : Routine} (there : routines[i]? = some hook) (moves : hook.isHook = true) :
    ∃ after, linked[i]? = some after ∧
      Branched encoder arch cursor state texts (routines.take i) hook after := by
  induction advances generalizing i with
  | nil => simp at there
  | @replacement cursor state first routines linked texts stays _ ih =>
      cases i with
      | zero =>
          obtain rfl : first = hook := by simpa using there
          simp [stays] at moves
      | succ i =>
          obtain ⟨after, here, branched⟩ := ih (by simpa using there)
          exact ⟨after, by simpa using here, branched.replacement stays⟩
  | @hook cursor state first routines linked texts text bytes remarks first_moves written answer _
      ih =>
      cases i with
      | zero =>
          obtain rfl : first = hook := by simpa using there
          exact ⟨_, rfl, by simp, text, bytes, remarks, rfl, by simpa using written, answer, rfl⟩
      | succ i =>
          obtain ⟨after, here, branched⟩ := ih (by simpa using there)
          exact ⟨after, by simpa using here, branched.hook first_moves⟩

theorem Advances.length_texts
    (advances : Advances encoder arch cursor state routines linked texts) :
    texts.length = routines.countP (·.isHook) := by
  induction advances with
  | nil => rfl
  | replacement stays _ ih => rw [ih, List.countP_cons_of_neg (by simp [stays])]
  | hook moves _ _ _ ih => rw [List.length_cons, ih, List.countP_cons_of_pos moves]

/-! ## The end -/

/-- Why the branch of a hook at the cursor cannot be had from the encoder in its state, and the
texts that were handed over in vain. -/
inductive Unbranched (encoder : Encoder σ) (arch : Architecture) (origin : Option String)
    (cursor : Int) (state : σ) (hook : Routine) : List String → Failure → Prop where
  | unwritten {failure : Failure}
      (failed : arch.branchText (cursor - hook.insertionPoint) = .error failure) :
      Unbranched encoder arch origin cursor state hook [] failure
  | rejected {text : String} {fault : Fault}
      (written : arch.branchText (cursor - hook.insertionPoint) = .ok text)
      (answer : (encoder.answer text state).1 = .rejected fault) :
      Unbranched encoder arch origin cursor state hook [text]
        (.fault (fault.amended fun fault => fault.within
          { origin, mode := some hook.mode.name, address := some hook.insertionPoint }))
  | crashed {text : String} {breakdown : Breakdown}
      (written : arch.branchText (cursor - hook.insertionPoint) = .ok text)
      (answer : (encoder.answer text state).1 = .crashed breakdown) :
      Unbranched encoder arch origin cursor state hook [text] (.crash breakdown)

/-- Where the front of a linking ends, and what the linking came to there: it got through, or there
is no branch for the hook behind the front, or the last hook of the front ends past the last
address. Besides `texts`, those of the front, some may have been handed over in vain. -/
inductive EndsAt (encoder : Encoder σ) (arch : Architecture) (origin : Option String)
    (cursor : Int) (state : σ) (routines : List Routine) (texts : List String) :
    Nat → Except Failure Int → List String → Prop where
  | finished {k : Nat} {limit : Int} (all : k = routines.length)
      (last : limit = cursor + hookRoom routines) :
      EndsAt encoder arch origin cursor state routines texts k (.ok limit) []
  | unbranched {k : Nat} {hook : Routine} {vain : List String} {failure : Failure}
      (there : routines[k]? = some hook) (moves : hook.isHook = true)
      (failed : Unbranched encoder arch origin (cursor + hookRoom (routines.take k))
        (encoder.stateAfter state texts) hook vain failure) :
      EndsAt encoder arch origin cursor state routines texts k (.error failure) vain
  | pastEnd {i : Nat} {hook : Routine} (there : routines[i]? = some hook)
      (moves : hook.isHook = true)
      (past : Number.addressLimit < cursor + hookRoom (routines.take i) + hook.data.length) :
      EndsAt encoder arch origin cursor state routines texts (i + 1)
        (.error (.fault
          { cause := .hooksPastEnd, origin, mode := some hook.mode.name
            address := some hook.insertionPoint })) []

/-- With one more routine in front, a linking ends where it did if the room in front and the state
of the encoder are the same. -/
theorem EndsAt.cons {cursor' : Int} {state' : σ} {texts' : List String}
    (ends : EndsAt encoder arch origin cursor' state' routines texts' k outcome vain)
    (room : ∀ front, cursor + hookRoom (first :: front) = cursor' + hookRoom front)
    (same : encoder.stateAfter state texts = encoder.stateAfter state' texts') :
    EndsAt encoder arch origin cursor state (first :: routines) texts (k + 1) outcome vain := by
  cases ends with
  | finished all last => exact .finished (by simp [all]) (by rw [room, last])
  | unbranched there moves failed =>
      refine .unbranched (by simpa using there) moves ?_
      rwa [List.take_succ_cons, room, same]
  | pastEnd there moves past =>
      refine .pastEnd (by simpa using there) moves ?_
      rwa [List.take_succ_cons, room]

theorem EndsAt.replacement
    (ends : EndsAt encoder arch origin cursor state routines texts k outcome vain)
    (stays : first.isHook = false) :
    EndsAt encoder arch origin cursor state (first :: routines) texts (k + 1) outcome vain :=
  ends.cons (fun front => by rw [hookRoom_replacement stays]) rfl

theorem EndsAt.hook
    (ends : EndsAt encoder arch origin (cursor + first.data.length) (encoder.answer text state).2
      routines texts k outcome vain) (moves : first.isHook = true) :
    EndsAt encoder arch origin cursor state (first :: routines) (text :: texts) (k + 1) outcome
      vain :=
  ends.cons (hookRoom_hook_add moves cursor) rfl

/-! ## One linking -/

/-- Where the branch of a hook cannot be had, nothing but the texts handed over in vain is left. -/
theorem branchWork_error {failure : Failure}
    (ran : (branchWork encoder arch origin cursor routine).run bench = (.error failure, later)) :
    ∃ vain, Unbranched encoder arch origin cursor bench.state routine vain failure ∧
      later.calls = bench.calls ++ vain := by
  unfold branchWork at ran
  cases written : arch.branchText (cursor - routine.insertionPoint) with
  | error failure' =>
      rw [written] at ran
      cases ran
      exact ⟨[], .unwritten written, by simp⟩
  | ok text =>
      rw [written] at ran
      have encoded : (encoder.encode _ text).run bench = (.error failure, later) := ran
      rw [Encoder.run_encode] at encoded
      cases answer : (encoder.answer text bench.state).1 with
      | accepted data remarks =>
          rw [answer] at encoded
          cases encoded
      | rejected fault =>
          rw [answer] at encoded
          cases encoded
          exact ⟨[text], .rejected written answer, rfl⟩
      | crashed breakdown =>
          rw [answer] at encoded
          cases encoded
          exact ⟨[text], .crashed written answer, rfl⟩

/-- A linking goes through the first `k` routines and leaves the others alone. -/
structure LinksUpTo (encoder : Encoder σ) (arch : Architecture) (origin : Option String)
    (cursor : Int) (routines : List Routine) (bench : Bench σ) (linked : List Routine)
    (outcome : Except Failure Int) (later : Bench σ) (k : Nat) (texts vain : List String) :
    Prop where
  advances : Advances encoder arch cursor bench.state (routines.take k) (linked.take k) texts
  untouched : linked.drop k = routines.drop k
  handed : later.calls = bench.calls ++ texts ++ vain
  ends : EndsAt encoder arch origin cursor bench.state routines texts k outcome vain

/-- Every run of the linker gets through the first routines up to some place. -/
theorem exists_linksUpTo
    (ran : (link encoder arch origin cursor routines).run bench = ((linked, outcome), later)) :
    ∃ k texts vain,
      LinksUpTo encoder arch origin cursor routines bench linked outcome later k texts vain := by
  induction routines generalizing cursor bench linked with
  | nil =>
      cases ran
      exact ⟨0, [], [], .nil, rfl, by simp, .finished rfl (by simp)⟩
  | cons routine routines ih =>
      rcases link_cons_cases ran with ⟨stays, others, rfl, rest⟩ |
        ⟨moves, ⟨failure, rfl, rfl, first⟩ | ⟨branch, middle, note, others, rfl, first, next⟩⟩
      · obtain ⟨k, texts, vain, upTo⟩ := ih rest
        exact ⟨k + 1, texts, vain, .replacement stays upTo.advances, upTo.untouched, upTo.handed,
          upTo.ends.replacement stays⟩
      · obtain ⟨vain, failed, handed⟩ := branchWork_error first
        exact ⟨0, [], vain, .nil, rfl, by simpa using handed,
          .unbranched rfl moves (by rwa [List.take_zero, hookRoom_nil, add_zero])⟩
      · obtain ⟨text, remarks, written, answer, handed⟩ :=
          (branchWork_ends encoder arch origin cursor routine bench).of_ok first
        rcases next with ⟨past, rfl, rfl, rfl⟩ | ⟨fits, rest⟩
        · have calls := (handed.note .debug note).calls
          exact ⟨1, [text], [], .hook moves written answer .nil, rfl, by simpa using calls,
            .pastEnd rfl moves (by simpa using past)⟩
        · obtain ⟨k, texts, vain, upTo⟩ := ih rest
          -- The encoder goes on from the state in which the branch of this hook left it.
          have next : (middle.note .debug note).state = (encoder.answer text bench.state).2 :=
            handed.state
          have calls : later.calls = bench.calls ++ [text] ++ texts ++ vain := by
            rw [upTo.handed, ← handed.calls]
            rfl
          have advances := upTo.advances
          have ends := upTo.ends
          rw [next] at advances ends
          exact ⟨k + 1, text :: texts, vain, .hook moves written answer advances, upTo.untouched,
            by simpa using calls, ends.hook moves⟩

/-- After a linking that got through, all routines are its front. -/
theorem LinksUpTo.finished {limit : Int}
    (upTo : LinksUpTo encoder arch origin cursor routines bench linked (.ok limit) later k texts
      vain) :
    Advances encoder arch cursor bench.state routines linked texts ∧
      limit = cursor + hookRoom routines ∧ later.calls = bench.calls ++ texts := by
  obtain ⟨advances, untouched, handed, ends⟩ := upTo
  cases ends with
  | finished all last =>
      subst all
      rw [List.drop_length, List.drop_eq_nil_iff] at untouched
      rw [List.take_length, List.take_of_length_le untouched] at advances
      exact ⟨advances, last, by rw [handed, List.append_nil]⟩

/-! ## What stays -/

/-- Two routines have the same code, wherever it was placed. -/
structure SameCode (routine other : Routine) : Prop where
  mode : other.mode = routine.mode
  insertionPoint : other.insertionPoint = routine.insertionPoint
  source : other.source = routine.source
  data : other.data = routine.data

theorem SameCode.refl (routine : Routine) : SameCode routine routine :=
  ⟨rfl, rfl, rfl, rfl⟩

/-- What no linking changes: all of a replacement, and the code of a hook. -/
structure Keeps (routine after : Routine) : Prop where
  replacement : routine.isHook = false → after = routine
  code : SameCode routine after

theorem Keeps.refl (routine : Routine) : Keeps routine routine :=
  ⟨fun _ => rfl, .refl routine⟩

/-- No linking changes the code of a routine. -/
theorem Links.keeps (links : Links encoder arch cursor routines bench linked outcome later) :
    List.Forall₂ Keeps routines linked := by
  have hook {routine : Routine} (moves : routine.isHook = true) (bytes : List UInt8)
      (placement : Int) :
      Keeps routine { routine with branch := some bytes, placement := some placement } :=
    ⟨by simp [moves], ⟨rfl, rfl, rfl, rfl⟩⟩
  have same (routines : List Routine) : List.Forall₂ Keeps routines routines :=
    List.forall₂_same.mpr fun routine _ => .refl routine
  induction links with
  | done => exact .nil
  | replacement _ _ ih => exact .cons (.refl _) ih
  | hook moves _ _ _ _ _ ih => exact .cons (hook moves _ _) ih
  | unwritten | unencoded => exact same _
  | pastEnd moves => exact .cons (hook moves _ _) (same _)

/-- Whatever a linking comes to, it has gone through the routines up to some index. Before that
index every hook lies behind the hooks before it and has the branch that the encoder gave for it in
this linking; from there on all routines are as they were. The index is the number of routines if
the linking got through, that of the hook without a branch if there was one, and one past that of
the hook that ends past the last address. Replacements and the code of hooks never change. -/
theorem link_frame (encoder : Encoder σ) (arch : Architecture) (origin : Option String)
    (cursor : Int) (routines : List Routine) (bench : Bench σ) :
    let run := (link encoder arch origin cursor routines).run bench
    ∃ k texts vain,
      (∀ i < k, ∀ hook, routines[i]? = some hook → hook.isHook = true →
        ∃ after, run.1.1[i]? = some after ∧
          Branched encoder arch cursor bench.state texts (routines.take i) hook after) ∧
      run.1.1.drop k = routines.drop k ∧
      texts.length = (routines.take k).countP (·.isHook) ∧
      run.2.calls = bench.calls ++ texts ++ vain ∧
      EndsAt encoder arch origin cursor bench.state routines texts k run.1.2 vain ∧
      List.Forall₂ Keeps routines run.1.1 := by
  intro run
  have ran : (link encoder arch origin cursor routines).run bench = ((run.1.1, run.1.2), run.2) :=
    rfl
  obtain ⟨k, texts, vain, upTo⟩ := exists_linksUpTo ran
  have keeps := (links_link encoder arch origin ran).keeps
  refine ⟨k, texts, vain, ?_, upTo.untouched, upTo.advances.length_texts, upTo.handed, upTo.ends,
    keeps⟩
  intro i front hook there moves
  have inside : (routines.take k)[i]? = some hook := by rw [List.getElem?_take_of_lt front, there]
  obtain ⟨after, here, branched⟩ := upTo.advances.branched inside moves
  rw [List.getElem?_take_of_lt front] at here
  rw [List.take_take, Nat.min_eq_left front.le] at branched
  exact ⟨after, here, branched⟩

/-- A replacement and two hooks that have been linked before. -/
def stale : List Routine :=
  [{ mode := .repl, insertionPoint := 0x180, source := "nop", data := [7, 7] },
    { mode := .hook, insertionPoint := 0x2100, source := "nop", data := [1, 2, 3, 4]
      placement := some 5, branch := some [9] },
    { mode := .hook, insertionPoint := 0x200, source := "nop", data := [8]
      placement := some 6, branch := some [9] }]

/-- They are linked again, and the encoder refuses the branch of the last one. -/
def staleRun : (List Routine × Except Failure Int) × Bench Unit :=
  (link shortSighted .arm none 0x2000 stale).run { state := () }

/-- The branch of the last hook is refused: the first hook is placed anew, the last keeps its old
placement. -/
theorem link_frame_refused :
    staleRun.1.1.map (·.placement) = [none, some 0x2000, some 6] ∧
      ∃ texts vain, EndsAt shortSighted .arm none 0x2000 () stale texts 2 staleRun.1.2 vain := by
  have placements : staleRun.1.1.map (·.placement) = [none, some 0x2000, some 6] := by
    decide +kernel
  obtain ⟨k, texts, vain, front, untouched, -, -, ends, -⟩ :=
    link_frame shortSighted .arm none 0x2000 stale { state := () }
  -- The second hook keeps its placement and the first does not, so the front ends between them.
  have most : k ≤ 2 := by
    by_contra further
    obtain ⟨after, here, branched⟩ := front 2 (by omega) _ rfl rfl
    have kept : (staleRun.1.1.map (·.placement))[2]? = some after.placement := by
      rw [List.getElem?_map]
      exact congrArg (Option.map _) here
    rw [placements, branched.placed] at kept
    revert kept
    decide
  have least : 2 ≤ k := by
    by_contra short
    have same := congrArg (List.map (·.placement)) untouched
    rw [List.map_drop, List.map_drop] at same
    have same' : [none, some 0x2000, some 6].drop k = (stale.map (·.placement)).drop k :=
      placements ▸ same
    have cases : k = 0 ∨ k = 1 := by omega
    rcases cases with rfl | rfl <;> revert same' <;> decide
  obtain rfl : k = 2 := by omega
  exact ⟨placements, texts, vain, ends⟩

/-! ## Earlier placements -/

/-- What a routine becomes by what a linking has for it: nothing, or a placement and a branch. -/
def give (routine : Routine) : Option (Int × List UInt8) → Routine
  | none => routine
  | some (placement, bytes) =>
      { routine with branch := some bytes, placement := some placement }

theorem zipWith_give_none (routines : List Routine) :
    List.zipWith give routines (List.replicate routines.length none) = routines := by
  induction routines with
  | nil => rfl
  | cons routine routines ih =>
      rw [List.length_cons, List.replicate_succ, List.zipWith_cons_cons, ih, give]

section SameCode

variable {other : Routine} (same : SameCode routine other)

include same

theorem SameCode.isHook : other.isHook = routine.isHook := by
  rw [Routine.isHook, Routine.isHook, same.mode]

theorem SameCode.branchWork : branchWork encoder arch origin cursor other =
    branchWork encoder arch origin cursor routine := by
  simp only [Routine.branchWork, same.mode, same.insertionPoint]

theorem SameCode.linkNote : linkNote cursor other = linkNote cursor routine := by
  simp only [Routine.linkNote, same.insertionPoint, same.data]

end SameCode

/-- What a linking has for the routines, what it comes to and the bench it leaves hang on the code
of the routines alone. -/
theorem link_given (encoder : Encoder σ) (arch : Architecture) (origin : Option String)
    (routines : List Routine) (cursor : Int) (bench : Bench σ) :
    ∃ given outcome later, ∀ others, List.Forall₂ SameCode routines others →
      (link encoder arch origin cursor others).run bench =
        ((List.zipWith give others given, outcome), later) := by
  induction routines generalizing cursor bench with
  | nil =>
      refine ⟨[], .ok cursor, bench, ?_⟩
      rintro _ ⟨⟩
      rfl
  | cons routine routines ih =>
      cases moves : routine.isHook with
      | false =>
          obtain ⟨given, outcome, later, known⟩ := ih cursor bench
          refine ⟨none :: given, outcome, later, ?_⟩
          rintro _ (_ | ⟨same, rest⟩)
          rw [run_link_replacement (same.isHook.trans moves), known _ rest]
          rfl
      | true =>
          rcases first : (branchWork encoder arch origin cursor routine).run bench with
            ⟨failure | bytes, middle⟩
          · refine ⟨List.replicate (routines.length + 1) none, .error failure, middle, ?_⟩
            rintro _ (_ | ⟨same, rest⟩)
            rw [run_link_hook (same.isHook.trans moves), same.branchWork, first,
              rest.length_eq, ← List.length_cons, zipWith_give_none]
          · by_cases past : Number.addressLimit < cursor + routine.data.length
            · refine ⟨some (cursor, bytes) :: List.replicate routines.length none,
                .error (.fault
                  { cause := .hooksPastEnd, origin, mode := some routine.mode.name
                    address := some routine.insertionPoint }),
                middle.note .debug (linkNote cursor routine), ?_⟩
              rintro _ (_ | ⟨same, rest⟩)
              rw [run_link_hook (same.isHook.trans moves), same.branchWork, first]
              simp only [same.data, past, if_true, same.mode, same.insertionPoint, same.linkNote,
                rest.length_eq, List.zipWith_cons_cons, zipWith_give_none, give]
            · obtain ⟨given, outcome, later, known⟩ :=
                ih (cursor + routine.data.length) (middle.note .debug (linkNote cursor routine))
              refine ⟨some (cursor, bytes) :: given, outcome, later, ?_⟩
              rintro _ (_ | ⟨same, rest⟩)
              rw [run_link_hook (same.isHook.trans moves), same.branchWork, first]
              simp only [same.data, past, if_false, same.linkNote, known _ rest,
                List.zipWith_cons_cons, give]

/-! ## Branches of ARM -/

/-- The text is a branch at one address that leads to another: eight upper-case digits of base
sixteen denote what has to be added to the one to get the other, modulo 2^32. -/
def ArmBranch (point target : Int) (text : String) : Prop :=
  ∃ digits value, text = String.ofList (['b', 'l', ' ', '0', 'x'] ++ digits) ∧
    digits.length = 8 ∧ Number.Spells digits value ∧ 0 ≤ value ∧ value < 2 ^ 32 ∧
    (point + value) % 2 ^ 32 = target % 2 ^ 32

theorem branchText_arm (displacement : Int) :
    Architecture.arm.branchText displacement =
      .ok (String.ofList (['b', 'l', ' ', '0', 'x'] ++
        Number.hex 8 (Architecture.displacementBits displacement))) := by
  simp [Architecture.branchText, Architecture.fill, Architecture.arm, Text.Template.fill,
    Text.Template.fillPart, Text.FieldValue.write, Text.NumberStyle.write, Number.hex,
    Except.mapError]
  rfl

/-- The displacement leads from the one address to the other. -/
theorem armBranch_branchText {point target : Int} {text : String}
    (written : Architecture.arm.branchText (target - point) = .ok text) :
    ArmBranch point target text := by
  have limit : Number.addressLimit = 2 ^ 32 := by decide
  have low : 0 ≤ Architecture.displacementBits (target - point) :=
    Int.emod_nonneg _ (by decide)
  have high : Architecture.displacementBits (target - point) < Number.addressLimit :=
    Int.emod_lt_of_pos _ (by decide)
  rw [branchText_arm, Except.ok.injEq] at written
  refine ⟨_, _, written.symm, (Number.hex_facts low high).1, (Number.spells_hex 8 low).1, low,
    limit ▸ high, ?_⟩
  rw [Architecture.displacementBits, limit]
  omega

/-- With an encoder that takes every text a branch can always be had. -/
theorem not_unbranched (accepting : ∀ text state, ∃ data remarks,
      (encoder.answer text state).1 = .accepted data remarks)
    {hook : Routine} {failure : Failure} :
    ¬ Unbranched encoder .arm origin cursor state hook vain failure := by
  rintro (failed | ⟨_, answer⟩ | ⟨_, answer⟩)
  · rw [branchText_arm] at failed
    cases failed
  all_goals
    obtain ⟨data, remarks, accepted⟩ := accepting _ _
    rw [accepted] at answer
    cases answer

theorem hookRoom_append (front back : List Routine) :
    hookRoom (front ++ back) = hookRoom front + hookRoom back := by
  simp [hookRoom]

/-- A hook ends no later than all hooks do. -/
theorem room_through_le {i : Nat} {hook : Routine} (there : routines[i]? = some hook)
    (moves : hook.isHook = true) :
    hookRoom (routines.take i) + hook.data.length ≤ hookRoom routines := by
  obtain ⟨inside, here⟩ := List.getElem?_eq_some_iff.mp there
  have split : hookRoom routines =
      hookRoom (routines.take i) + (hook.data.length + hookRoom (routines.drop (i + 1))) := by
    rw [← hookRoom_hook moves, ← hookRoom_append, ← here, ← List.drop_eq_getElem_cons inside,
      List.take_append_drop]
  have rest : 0 ≤ hookRoom (routines.drop (i + 1)) := Int.natCast_nonneg _
  omega

/-- With an encoder that takes every text, linking gets through or some hook ends past the last
address, but never both. -/
theorem link_of_accepting (accepting : ∀ text state, ∃ data remarks,
      (encoder.answer text state).1 = .accepted data remarks)
    (ran : (link encoder .arm origin cursor routines).run bench = ((linked, outcome), later)) :
    ((∃ limit, outcome = .ok limit) ∧ ∀ (i : Nat) (hook : Routine), routines[i]? = some hook →
      hook.isHook = true →
        cursor + hookRoom (routines.take i) + hook.data.length ≤ Number.addressLimit) ∨
    ((∃ fault, outcome = .error (.fault fault) ∧ fault.cause = .hooksPastEnd) ∧
      ∃ (i : Nat) (hook : Routine), routines[i]? = some hook ∧ hook.isHook = true ∧
        Number.addressLimit < cursor + hookRoom (routines.take i) + hook.data.length) := by
  obtain ⟨k, texts, vain, upTo⟩ := exists_linksUpTo ran
  have links := links_link encoder .arm origin ran
  cases upTo.ends with
  | @finished _ limit _ last =>
      refine .inl ⟨⟨limit, rfl⟩, fun i hook there moves => ?_⟩
      obtain ⟨after, inside, kept⟩ :=
        exists_of_forall₂ links.keeps.flip (List.mem_of_getElem? there)
      have fits := links.limit_le rfl (.inr ⟨after, inside, kept.code.isHook.trans moves⟩)
      have through := room_through_le there moves
      omega
  | unbranched _ _ failed => exact absurd failed (not_unbranched accepting)
  | pastEnd there moves past => exact .inr ⟨⟨_, rfl, rfl⟩, _, _, there, moves, past⟩

/-- A linking for ARM that gets through places every hook behind those before it and ends behind the
last one. It hands one text over for each hook, in their order: the branch from the insertion point
to the placement, forward or backward, and what comes back is the hook's branch. What the routines
were given before does not count, however the linking ends. With an encoder that takes every text
it fails just if the cursor gets past the last address behind some hook. -/
theorem link_arm (encoder : Encoder σ) (origin : Option String) (cursor : Int)
    (routines : List Routine) (bench : Bench σ) :
    let run := (link encoder .arm origin cursor routines).run bench
    (∀ limit, run.1.2 = .ok limit →
      limit = cursor + hookRoom routines ∧
      ∃ texts, run.2.calls = bench.calls ++ texts ∧
        texts.length = routines.countP (·.isHook) ∧
        ∀ (i : Nat) (hook : Routine), routines[i]? = some hook → hook.isHook = true →
          ∃ after text bytes remarks, run.1.1[i]? = some after ∧
            after.placement = some (cursor + hookRoom (routines.take i)) ∧
            texts[(routines.take i).countP (·.isHook)]? = some text ∧
            ArmBranch hook.insertionPoint (cursor + hookRoom (routines.take i)) text ∧
            (encoder.answer text (encoder.stateAfter bench.state
              (texts.take ((routines.take i).countP (·.isHook))))).1 = .accepted bytes remarks ∧
            after.branch = some bytes) ∧
    (∃ given, ∀ others, List.Forall₂ SameCode routines others →
      (link encoder .arm origin cursor others).run bench =
        ((List.zipWith give others given, run.1.2), run.2)) ∧
    ((∀ text state, ∃ data remarks, (encoder.answer text state).1 = .accepted data remarks) →
      ((∃ fault, run.1.2 = .error (.fault fault) ∧ fault.cause.kind = .range) ↔
        ∃ (i : Nat) (hook : Routine), routines[i]? = some hook ∧ hook.isHook = true ∧
          2 ^ 32 < cursor + hookRoom (routines.take i) + hook.data.length)) := by
  intro run
  have ran : (link encoder .arm origin cursor routines).run bench =
      ((run.1.1, run.1.2), run.2) := rfl
  refine ⟨?_, ?_, ?_⟩
  · intro limit finished
    rw [finished] at ran
    obtain ⟨k, texts, vain, upTo⟩ := exists_linksUpTo ran
    obtain ⟨advances, last, handed⟩ := upTo.finished
    refine ⟨last, texts, handed, advances.length_texts, fun i hook there moves => ?_⟩
    obtain ⟨after, here, placed, text, bytes, remarks, listed, written, answer, branch⟩ :=
      advances.branched there moves
    exact ⟨after, text, bytes, remarks, here, placed, listed, armBranch_branchText written, answer,
      branch⟩
  · obtain ⟨given, outcome, later, known⟩ := link_given encoder .arm origin routines cursor bench
    have here := known routines (List.forall₂_same.mpr fun routine _ => .refl routine)
    have same : run = ((List.zipWith give routines given, outcome), later) := here
    refine ⟨given, fun others code => ?_⟩
    rw [known others code, same]
  · intro accepting
    have limit : Number.addressLimit = 2 ^ 32 := by decide
    rcases link_of_accepting accepting ran with ⟨⟨last, finished⟩, fits⟩ | ⟨failed, past⟩
    · rw [finished]
      refine ⟨by rintro ⟨fault, ⟨⟩, -⟩, ?_⟩
      rintro ⟨i, hook, there, moves, past⟩
      have within := fits i hook there moves
      omega
    · obtain ⟨fault, failed, cause⟩ := failed
      exact ⟨fun _ => limit ▸ past, fun _ => ⟨fault, failed, by rw [cause]; rfl⟩⟩

/-- A linking that gets through: the first branch leads backward, the second one forward. -/
def staleArmRun : (List Routine × Except Failure Int) × Bench Unit :=
  (link (.constant [0, 0, 0, 0xEB]) .arm none 0x2000 stale).run { state := () }

/-- Two branches, one backward and one forward. -/
theorem link_arm_stale :
    staleArmRun.1.2 = .ok 0x2005 ∧ staleArmRun.2.calls = ["bl 0xFFFFFF00", "bl 0x00001E04"] ∧
      ArmBranch 0x2100 0x2000 "bl 0xFFFFFF00" ∧ ArmBranch 0x200 0x2004 "bl 0x00001E04" := by
  have finished : staleArmRun.1.2 = .ok 0x2005 := by decide +kernel
  have calls : staleArmRun.2.calls = ["bl 0xFFFFFF00", "bl 0x00001E04"] := by decide +kernel
  obtain ⟨-, texts, handed, -, each⟩ :=
    (link_arm (.constant [0, 0, 0, 0xEB]) none 0x2000 stale { state := () }).1 0x2005 finished
  obtain rfl : texts = ["bl 0xFFFFFF00", "bl 0x00001E04"] := handed.symm.trans calls
  obtain ⟨-, text, -, -, -, -, listed, backward, -⟩ := each 1 _ rfl rfl
  obtain rfl : "bl 0xFFFFFF00" = text := Option.some.inj listed
  obtain ⟨-, text, -, -, -, -, listed, forward, -⟩ := each 2 _ rfl rfl
  obtain rfl : "bl 0x00001E04" = text := Option.some.inj listed
  exact ⟨finished, calls, backward, forward⟩

end Routine

end OverlayPatch
