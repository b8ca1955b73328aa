import Mathlib
import OverlayPatch.Proofs.Linking

/-!
# Linking again and again

Routines may be linked more than once, from different cursors, with new routines joining in
between, and a linking that fails in the middle leaves the routines before the failure changed. The
branch of a hook is stored together with the placement it was made for, so whatever happened, the
two belong together.

`Reached` says, in terms of sizes and branches alone, which hooks a linking gets to, and
`Links.getElem?` that exactly these change. A session is any sequence of such steps. Its invariant,
`Standing`, ties each routine to the history of the session: a hook that some linking got to has the
branch to its own placement, and everything else is as it was assembled. So a patch can be built
exactly if every hook was linked at some time (`build_session`).
-/

namespace OverlayPatch

set_option autoImplicit false

variable {σ : Type}

/-- What the encoder says depends on the text alone. -/
def Encoder.Stateless (encoder : Encoder σ) (verdict : String → Verdict) : Prop :=
  ∀ text state, (encoder.answer text state).1 = verdict text

/-- The bytes are what the branch over a displacement is encoded to. -/
def Architecture.Branches (arch : Architecture) (verdict : String → Verdict) (displacement : Int)
    (bytes : List UInt8) : Prop :=
  ∃ text remarks, arch.branchText displacement = .ok text ∧
    verdict text = .accepted bytes remarks

namespace Routine

variable {encoder : Encoder σ} {verdict : String → Verdict} {arch : Architecture}

/-! ## One linking -/

/-- The room that the hooks among some routines take. -/
def hookRoom (routines : List Routine) : Int :=
  ((routines.filter (·.isHook)).flatMap (·.data)).length

@[simp]
theorem hookRoom_nil : hookRoom [] = 0 :=
  rfl

theorem hookRoom_replacement {routine : Routine} (stays : routine.isHook = false)
    (routines : List Routine) : hookRoom (routine :: routines) = hookRoom routines := by
  simp [hookRoom, stays]

theorem hookRoom_hook {routine : Routine} (moves : routine.isHook = true)
    (routines : List Routine) :
    hookRoom (routine :: routines) = routine.data.length + hookRoom routines := by
  simp [hookRoom, moves]

/-- A linking from the cursor on gets to the hook that stands behind `before`: its branch can be
had, and so can that of every hook in front of it, none of which runs past the last address. -/
structure Reached (verdict : String → Verdict) (arch : Architecture) (cursor : Int)
    (before : List Routine) (routine : Routine) : Prop where
  moves : routine.isHook = true
  branch : ∃ bytes,
    arch.Branches verdict (cursor + hookRoom before - routine.insertionPoint) bytes
  earlier : ∀ front other back, before = front ++ other :: back → other.isHook = true →
    (∃ bytes, arch.Branches verdict (cursor + hookRoom front - other.insertionPoint) bytes) ∧
      cursor + hookRoom front + other.data.length ≤ Number.addressLimit

variable {cursor : Int} {before : List Routine} {first routine : Routine}

theorem reached_nil :
    Reached verdict arch cursor [] routine ↔ routine.isHook = true ∧
      ∃ bytes, arch.Branches verdict (cursor - routine.insertionPoint) bytes := by
  constructor
  · rintro ⟨moves, branch, -⟩
    exact ⟨moves, by simpa using branch⟩
  · rintro ⟨moves, branch⟩
    exact ⟨moves, by simpa using branch, by simp⟩

theorem reached_replacement (stays : first.isHook = false) :
    Reached verdict arch cursor (first :: before) routine ↔
      Reached verdict arch cursor before routine := by
  constructor
  · rintro ⟨moves, branch, earlier⟩
    refine ⟨moves, by simpa [hookRoom_replacement stays] using branch, ?_⟩
    rintro front other back rfl hook
    simpa [hookRoom_replacement stays] using earlier (first :: front) other back rfl hook
  · rintro ⟨moves, branch, earlier⟩
    refine ⟨moves, by simpa [hookRoom_replacement stays] using branch, ?_⟩
    intro front other back split hook
    rcases List.cons_eq_append_iff.mp split with ⟨-, same⟩ | ⟨front', rfl, rest⟩
    · cases same
      simp [stays] at hook
    · rw [hookRoom_replacement stays]
      exact earlier front' other back rest hook

/-- Linking gets behind a hook if it has a branch and ends within the address space. -/
theorem reached_hook (hook : first.isHook = true) :
    Reached verdict arch cursor (first :: before) routine ↔
      (∃ bytes, arch.Branches verdict (cursor - first.insertionPoint) bytes) ∧
        cursor + first.data.length ≤ Number.addressLimit ∧
        Reached verdict arch (cursor + first.data.length) before routine := by
  have room (front : List Routine) :
      cursor + hookRoom (first :: front) = cursor + first.data.length + hookRoom front := by
    rw [hookRoom_hook hook]
    omega
  constructor
  · rintro ⟨moves, branch, earlier⟩
    obtain ⟨had, within⟩ := earlier [] first before rfl hook
    refine ⟨by simpa using had, by simpa using within, moves, by rwa [← room], ?_⟩
    rintro front other back rfl hook'
    rw [← room]
    exact earlier (first :: front) other back rfl hook'
  · rintro ⟨had, within, moves, branch, earlier⟩
    refine ⟨moves, by rwa [room], ?_⟩
    intro front other back split hook'
    rcases List.cons_eq_append_iff.mp split with ⟨rfl, same⟩ | ⟨front', rfl, rest⟩
    · cases same
      exact ⟨by simpa using had, by simpa using within⟩
    · rw [room]
      exact earlier front' other back rest hook'

/-- What a linking makes of the routine behind `before`: if it gets there, the routine is placed
behind the hooks in front of it and gets the branch to that place; otherwise it stays as it was. -/
def Relinked (verdict : String → Verdict) (arch : Architecture) (cursor : Int)
    (before : List Routine) (routine after : Routine) : Prop :=
  (Reached verdict arch cursor before routine ∧ ∃ bytes,
    arch.Branches verdict (cursor + hookRoom before - routine.insertionPoint) bytes ∧
    after = { routine with branch := some bytes, placement := some (cursor + hookRoom before) }) ∨
  (¬ Reached verdict arch cursor before routine ∧ after = routine)

theorem relinked_replacement (stays : first.isHook = false) {after : Routine}
    (relinked : Relinked verdict arch cursor before routine after) :
    Relinked verdict arch cursor (first :: before) routine after := by
  simpa only [Relinked, reached_replacement stays, hookRoom_replacement stays] using relinked

theorem relinked_hook (hook : first.isHook = true) {bytes : List UInt8}
    (had : arch.Branches verdict (cursor - first.insertionPoint) bytes)
    (within : cursor + first.data.length ≤ Number.addressLimit) {after : Routine}
    (relinked : Relinked verdict arch (cursor + first.data.length) before routine after) :
    Relinked verdict arch cursor (first :: before) routine after := by
  have room : cursor + hookRoom (first :: before) =
      cursor + first.data.length + hookRoom before := by
    rw [hookRoom_hook hook]
    omega
  have known : ∃ bytes, arch.Branches verdict (cursor - first.insertionPoint) bytes := ⟨bytes, had⟩
  simpa only [Relinked, reached_hook hook, room, known, within, true_and] using relinked

/-- Where linking does not get, nothing changes. -/
theorem relinked_unreached (unreached : ¬ Reached verdict arch cursor before routine) :
    Relinked verdict arch cursor before routine routine :=
  .inr ⟨unreached, rfl⟩

/-- Where the branch of the first hook cannot be had, nothing changes. -/
theorem relinked_stuck (hook : first.isHook = true)
    (stuck : ¬ ∃ bytes, arch.Branches verdict (cursor - first.insertionPoint) bytes)
    {routines : List Routine} {index : Nat} (there : (first :: routines)[index]? = some routine) :
    Relinked verdict arch cursor ((first :: routines).take index) routine routine := by
  apply relinked_unreached
  cases index with
  | zero =>
      obtain rfl : first = routine := by simpa using there
      simpa [reached_nil] using fun _ => by simpa using stuck
  | succ index =>
      rw [List.take_succ_cons, reached_hook hook]
      exact fun reached => stuck reached.1

theorem branches_of_answer (stateless : encoder.Stateless verdict) {bench : Bench σ}
    {displacement : Int} {text : String} {bytes : List UInt8} {remarks : List Entry}
    (written : arch.branchText displacement = .ok text)
    (answer : (encoder.answer text bench.state).1 = .accepted bytes remarks) :
    arch.Branches verdict displacement bytes :=
  ⟨text, remarks, written, (stateless text bench.state).symm.trans answer⟩

theorem relinked_first (hook : first.isHook = true) {bytes : List UInt8}
    (had : arch.Branches verdict (cursor - first.insertionPoint) bytes) :
    Relinked verdict arch cursor [] first
      { first with branch := some bytes, placement := some cursor } :=
  .inl ⟨reached_nil.mpr ⟨hook, bytes, had⟩, bytes, by simpa using had, by simp⟩

/-- A linking changes exactly the hooks that it gets to. -/
theorem Links.getElem? (stateless : encoder.Stateless verdict) {routines linked : List Routine}
    {bench later : Bench σ} {outcome : Except Failure Int}
    (links : Links encoder arch cursor routines bench linked outcome later) {index : Nat}
    (there : routines[index]? = some routine) :
    ∃ after, linked[index]? = some after ∧
      Relinked verdict arch cursor (routines.take index) routine after := by
  induction links generalizing index with
  | done => simp at there
  | @replacement cursor first routines linked _ _ _ stays _ ih =>
      cases index with
      | zero =>
          obtain rfl : first = routine := by simpa using there
          exact ⟨first, by simp, relinked_unreached (by simp [reached_nil, stays])⟩
      | succ index =>
          obtain ⟨after, here, relinked⟩ := ih (by simpa using there)
          exact ⟨after, by simpa using here, relinked_replacement stays relinked⟩
  | @hook cursor first routines linked bench _ _ _ _ _ _ hook written answer _ within _ ih =>
      have had := branches_of_answer stateless written answer
      cases index with
      | zero =>
          obtain rfl : first = routine := by simpa using there
          exact ⟨_, rfl, relinked_first hook had⟩
      | succ index =>
          obtain ⟨after, here, relinked⟩ := ih (by simpa using there)
          exact ⟨after, by simpa using here, relinked_hook hook had within relinked⟩
  | unwritten hook failed =>
      refine ⟨routine, there, relinked_stuck hook ?_ there⟩
      rintro ⟨bytes, text, remarks, written, -⟩
      rw [failed] at written
      cases written
  | @unencoded cursor first routines bench _ _ text hook written refused _ =>
      refine ⟨routine, there, relinked_stuck hook ?_ there⟩
      rintro ⟨bytes, text', remarks, written', accepted⟩
      obtain rfl : text = text' := Except.ok.inj (written.symm.trans written')
      exact refused bytes remarks ((stateless text bench.state).trans accepted)
  | pastEnd hook written answer _ past _ =>
      have had := branches_of_answer stateless written answer
      cases index with
      | zero =>
          obtain rfl : _ = routine := by simpa using there
          exact ⟨_, rfl, relinked_first hook had⟩
      | succ index =>
          refine ⟨routine, by simpa using there, relinked_unreached ?_⟩
          rw [List.take_succ_cons, reached_hook hook]
          rintro ⟨-, within, -⟩
          omega

theorem Links.length_eq {routines linked : List Routine} {bench later : Bench σ}
    {outcome : Except Failure Int}
    (links : Links encoder arch cursor routines bench linked outcome later) :
    linked.length = routines.length := by
  induction links with
  | done | unwritten | unencoded | pastEnd => rfl
  | replacement _ _ ih | hook _ _ _ _ _ _ ih => simp [ih]

/-! ## Sessions -/

def Unlinked (routine : Routine) : Prop :=
  routine.placement = none ∧ routine.branch = none

/-- A step between assembling routines and building their patch. -/
inductive Action where
  /-- Routines that were never linked join the others. -/
  | add (routines : List Routine) (unlinked : ∀ routine ∈ routines, routine.Unlinked)
  /-- All routines are linked from a cursor on, as far as that goes. -/
  | link (origin : Option String) (cursor : Int)

/-- Takes one step. A linking that fails counts for what it has done. -/
def perform (encoder : Encoder σ) (arch : Architecture) (state : List Routine × Bench σ) :
    Action → List Routine × Bench σ
  | .add routines _ => (state.1 ++ routines, state.2)
  | .link origin cursor =>
      let ((linked, _), later) := (link encoder arch origin cursor state.1).run state.2
      (linked, later)

def session (encoder : Encoder σ) (arch : Architecture) (start : List Routine × Bench σ)
    (actions : List Action) : List Routine × Bench σ :=
  actions.foldl (perform encoder arch) start

/-- Some linking of the session got to the hook at the index. -/
def EverLinked (encoder : Encoder σ) (verdict : String → Verdict) (arch : Architecture)
    (start : List Routine × Bench σ) (actions : List Action) (index : Nat) : Prop :=
  ∃ done origin cursor rest routine, actions = done ++ .link origin cursor :: rest ∧
    (session encoder arch start done).1[index]? = some routine ∧
    Reached verdict arch cursor ((session encoder arch start done).1.take index) routine

variable {start : List Routine × Bench σ} {actions : List Action} {index : Nat}

theorem session_snoc (action : Action) :
    session encoder arch start (actions ++ [action]) =
      perform encoder arch (session encoder arch start actions) action := by
  simp [session]

theorem perform_link (encoder : Encoder σ) (arch : Architecture) (state : List Routine × Bench σ)
    (origin : Option String) (cursor : Int) :
    ∃ outcome, Links encoder arch cursor state.1 state.2
      (perform encoder arch state (.link origin cursor)).1 outcome
      (perform encoder arch state (.link origin cursor)).2 := by
  rcases ran : (Routine.link encoder arch origin cursor state.1).run state.2 with
    ⟨⟨linked, outcome⟩, later⟩
  refine ⟨outcome, ?_⟩
  simp only [perform, ran]
  exact links_link encoder arch origin ran

theorem not_everLinked_nil : ¬ EverLinked encoder verdict arch start [] index := by
  rintro ⟨done, origin, cursor, rest, routine, split, -⟩
  simp at split

/-- A hook was ever linked before the last step or by it. -/
theorem everLinked_snoc (action : Action) :
    EverLinked encoder verdict arch start (actions ++ [action]) index ↔
      EverLinked encoder verdict arch start actions index ∨
      ∃ origin cursor routine, action = .link origin cursor ∧
        (session encoder arch start actions).1[index]? = some routine ∧
        Reached verdict arch cursor ((session encoder arch start actions).1.take index)
          routine := by
  constructor
  · rintro ⟨done, origin, cursor, rest, routine, split, there, reached⟩
    rcases List.eq_nil_or_concat rest with rfl | ⟨rest, last, rfl⟩
    · obtain ⟨rfl, same⟩ := List.append_inj' split rfl
      exact .inr ⟨origin, cursor, routine, by simpa using same, there, reached⟩
    · have split' : actions ++ [action] = (done ++ .link origin cursor :: rest) ++ [last] := by
        simpa using split
      obtain ⟨rfl, -⟩ := List.append_inj' split' rfl
      exact .inl ⟨done, origin, cursor, rest, routine, rfl, there, reached⟩
  · rintro (⟨done, origin, cursor, rest, routine, rfl, there, reached⟩ |
      ⟨origin, cursor, routine, rfl, there, reached⟩)
    · exact ⟨done, origin, cursor, rest ++ [action], routine, by simp, there, reached⟩
    · exact ⟨actions, origin, cursor, [], routine, rfl, there, reached⟩

theorem length_le_perform (state : List Routine × Bench σ) (action : Action) :
    state.1.length ≤ (perform encoder arch state action).1.length := by
  cases action with
  | add routines _ => simp [perform]
  | link origin cursor =>
      obtain ⟨outcome, links⟩ := perform_link encoder arch state origin cursor
      exact links.length_eq.ge

/-- Only what is there can be linked. -/
theorem EverLinked.lt_length (ever : EverLinked encoder verdict arch start actions index) :
    index < (session encoder arch start actions).1.length := by
  induction actions using List.reverseRecOn with
  | nil => exact absurd ever not_everLinked_nil
  | append_singleton actions action ih =>
      rw [session_snoc]
      refine lt_of_lt_of_le ?_ (length_le_perform _ action)
      rcases (everLinked_snoc action).mp ever with before | ⟨_, _, _, _, there, _⟩
      · exact ih before
      · exact (List.getElem?_eq_some_iff.mp there).1

/-- How a routine stands after a session, by whether some linking got to it: it is as it was
assembled, or it is a hook with the branch to its own placement. -/
inductive Standing (verdict : String → Verdict) (arch : Architecture) (ever : Prop)
    (routine : Routine) : Prop where
  | unlinked (never : ¬ ever) (fresh : routine.Unlinked)
  | linked {placement : Int} {bytes : List UInt8} (since : ever) (moves : routine.isHook = true)
      (placed : routine.placement = some placement) (branched : routine.branch = some bytes)
      (branch : arch.Branches verdict (placement - routine.insertionPoint) bytes)

theorem Standing.congr {ever ever' : Prop} (standing : Standing verdict arch ever routine)
    (same : ever ↔ ever') : Standing verdict arch ever' routine := by
  cases standing with
  | unlinked never fresh => exact .unlinked (mt same.mpr never) fresh
  | linked since moves placed branched branch =>
      exact .linked (same.mp since) moves placed branched branch

/-- One linking keeps the standing of a routine. -/
theorem Standing.relinked {ever : Prop} {after : Routine}
    (standing : Standing verdict arch ever routine)
    (relinked : Relinked verdict arch cursor before routine after) :
    Standing verdict arch (ever ∨ Reached verdict arch cursor before routine) after := by
  rcases relinked with ⟨reached, bytes, branch, rfl⟩ | ⟨unreached, rfl⟩
  · exact .linked (.inr reached) reached.moves rfl rfl branch
  · exact standing.congr (by simp [unreached])

theorem Standing.of_replacement {ever : Prop} (standing : Standing verdict arch ever routine)
    (stays : routine.isHook = false) : routine.Unlinked := by
  cases standing with
  | unlinked _ fresh => exact fresh
  | linked _ moves => simp [stays] at moves

/-- A hook has a placement just if it has a branch, and the branch leads there. -/
theorem Standing.agrees {ever : Prop} (standing : Standing verdict arch ever routine) :
    (routine.placement.isSome ↔ routine.branch.isSome) ∧
      ∀ placement branch, routine.placement = some placement → routine.branch = some branch →
        arch.Branches verdict (placement - routine.insertionPoint) branch := by
  cases standing with
  | unlinked _ fresh => simp [fresh.1, fresh.2]
  | linked _ _ placed branched branch => simpa [placed, branched] using branch

/-- Just the hooks that no linking got to lack a branch. -/
theorem Standing.branch_eq_none_iff {ever : Prop} (standing : Standing verdict arch ever routine) :
    routine.branch = none ↔ ¬ ever := by
  cases standing with
  | unlinked never fresh => simp [never, fresh.2]
  | linked since _ _ branched => simp [since, branched]

/-- What every step keeps holds after the session. -/
theorem session_standing (stateless : encoder.Stateless verdict)
    (fresh : ∀ routine ∈ start.1, routine.Unlinked)
    (there : (session encoder arch start actions).1[index]? = some routine) :
    Standing verdict arch (EverLinked encoder verdict arch start actions index) routine := by
  induction actions using List.reverseRecOn generalizing routine with
  | nil => exact .unlinked not_everLinked_nil (fresh _ (List.mem_of_getElem? there))
  | append_singleton actions action ih =>
      rw [session_snoc] at there
      cases action with
      | add routines unlinked =>
          have since : EverLinked encoder verdict arch start
              (actions ++ [.add routines unlinked]) index ↔
              EverLinked encoder verdict arch start actions index := by
            simp [everLinked_snoc]
          by_cases old : index < (session encoder arch start actions).1.length
          · rw [perform, List.getElem?_append_left old] at there
            exact (ih there).congr since.symm
          · rw [perform, List.getElem?_append_right (by omega)] at there
            exact .unlinked (fun ever => old (since.mp ever).lt_length)
              (unlinked _ (List.mem_of_getElem? there))
      | link origin cursor =>
          obtain ⟨outcome, links⟩ :=
            perform_link encoder arch (session encoder arch start actions) origin cursor
          have old : index < (session encoder arch start actions).1.length := by
            rw [← links.length_eq]
            exact (List.getElem?_eq_some_iff.mp there).1
          have was := List.getElem?_eq_getElem old
          obtain ⟨after, here, relinked⟩ := links.getElem? stateless was
          obtain rfl : after = routine := Option.some.inj (here.symm.trans there)
          refine ((ih was).relinked relinked).congr ?_
          rw [everLinked_snoc]
          simp [was]

/-! ## Patches -/

/-- Routines are assembled without a placement. -/
theorem assemble_unlinked (encoder : Encoder σ) (arch : Architecture) (vars : List Variable)
    (origin : Option String) (strict : Bool) (directive : Directive) (bench : Bench σ) :
    (assemble encoder arch vars origin strict directive).Ends bench
      (fun routine _ => routine.Unlinked) (fun _ _ => True) := by
  unfold assemble
  apply ExceptT.ends_bind
  refine Work.ends_ofExcept (fun source _ => ?_) fun _ _ => trivial
  apply ExceptT.ends_bind
  refine Work.ends_encode (fun _ => rfl) (fun data remarks later _ _ => ?_) fun _ _ _ _ => trivial
  cases directive.site with
  | append => trivial
  | repl point =>
      apply ExceptT.ends_bind
      have checked := checkSize_ends arch origin strict point data.length later
      refine checked.mono ?_ fun _ _ _ => trivial
      intro _ _ _
      exact ExceptT.ends_pure ⟨rfl, rfl⟩
  | hook point => exact ExceptT.ends_pure ⟨rfl, rfl⟩

/-- Routines that were just assembled are not linked. -/
theorem unlinked_of_assembleAll {vars : List Variable} {origin : Option String} {strict : Bool}
    {directives : List Directive} {bench later : Bench σ} {routines : List Routine}
    (ran : (assembleAll encoder arch vars origin strict directives).run bench =
      (.ok routines, later)) : ∀ routine ∈ routines, routine.Unlinked := by
  have ends := ExceptT.ends_mapM (directives.filter (·.mode ≠ .append)) bench
    fun directive _ bench => assemble_unlinked encoder arch vars origin strict directive bench
  intro routine member
  obtain ⟨directive, -, fresh⟩ := exists_of_forall₂ (ends.of_ok ran) member
  exact fresh

end Routine

namespace Patch

variable {routine : Routine} {routines : List Routine}

/-- Only a hook without a branch cannot be written. -/
theorem writeOf_eq_error {failure : Failure} :
    writeOf routine = .error failure ↔ routine.isHook = true ∧ routine.branch = none ∧
      failure = .unlinked routine.insertionPoint := by
  cases moves : routine.isHook with
  | false => simp [writeOf, Routine.written, moves, bind, Except.bind, pure, Except.pure]
  | true =>
      cases branch : routine.branch with
      | none => simp [writeOf, Routine.written, moves, branch, bind, Except.bind, eq_comm]
      | some bytes =>
          simp [writeOf, Routine.written, moves, branch, bind, Except.bind, pure, Except.pure]

/-- A patch is refused for a hook without a branch. -/
theorem build_eq_error {name : String} {base : Int} {vars : List Variable} {failure : Failure}
    (failed : build name base vars routines = .error failure) :
    ∃ routine ∈ routines, routine.isHook = true ∧ routine.branch = none ∧
      failure = .unlinked routine.insertionPoint := by
  cases found : routines.mapM writeOf with
  | error failure' =>
      rw [build, found] at failed
      cases failed
      obtain ⟨routine, member, here⟩ := exists_of_mapM_error found
      exact ⟨routine, member, writeOf_eq_error.mp here⟩
  | ok writes =>
      rw [build, found] at failed
      cases failed

theorem forall₂_of_build {name : String} {base : Int} {vars : List Variable} {patch : Patch}
    (built : build name base vars routines = .ok patch) :
    List.Forall₂ (fun routine write => writeOf routine = .ok write) routines patch.writes := by
  obtain ⟨writes, found, same⟩ := bind_ok built
  cases same
  exact forall₂_of_mapM_ok found

/-- It is refused for nothing else. -/
theorem build_eq_error_iff (name : String) (base : Int) (vars : List Variable) :
    (∃ point, build name base vars routines = .error (.unlinked point)) ↔
      ∃ routine ∈ routines, routine.isHook = true ∧ routine.branch = none := by
  constructor
  · rintro ⟨point, failed⟩
    obtain ⟨routine, member, moves, missing, -⟩ := build_eq_error failed
    exact ⟨routine, member, moves, missing⟩
  · rintro ⟨routine, member, moves, missing⟩
    cases built : build name base vars routines with
    | error failure =>
        obtain ⟨other, -, -, -, rfl⟩ := build_eq_error built
        exact ⟨_, rfl⟩
    | ok patch =>
        obtain ⟨write, -, written⟩ := exists_of_forall₂ (forall₂_of_build built).flip member
        rw [writeOf_eq_error.mpr ⟨moves, missing, rfl⟩] at written
        cases written

end Patch

namespace Routine

variable {encoder : Encoder σ} {verdict : String → Verdict}

/-- The write of a routine is its own bytes or, for a hook, the branch to its own placement. -/
def WrittenTo (verdict : String → Verdict) (arch : Architecture) (routine : Routine)
    (write : Write) : Prop :=
  write.location = routine.insertionPoint ∧
    if routine.isHook then
      ∃ placement, routine.placement = some placement ∧
        arch.Branches verdict (placement - routine.insertionPoint) write.value
    else write.value = routine.data

theorem Standing.writtenTo {arch : Architecture} {ever : Prop} {routine : Routine} {write : Write}
    (standing : Standing verdict arch ever routine)
    (written : Patch.writeOf routine = .ok write) : WrittenTo verdict arch routine write := by
  obtain ⟨value, found, same⟩ := bind_ok written
  cases same
  refine ⟨rfl, ?_⟩
  cases moves : routine.isHook with
  | false =>
      simp only [Routine.written, moves, Bool.false_eq_true, if_false, Except.ok.injEq] at found
      simp [found]
  | true =>
      cases standing with
      | unlinked never fresh => simp [Routine.written, moves, fresh.2] at found
      | @linked placement bytes since _ placed branched branch =>
          simp only [Routine.written, moves, branched, if_true, Except.ok.injEq] at found
          simpa [placed, found] using branch

/-- However often routines were linked since they were assembled, and whatever failed on the way:
replacements are untouched, a hook has a placement just if it has a branch, and the branch is the
one to that placement. So a patch can be built unless some hook was never linked, and then every
hook is written as the branch to where it lies. -/
theorem build_session (stateless : encoder.Stateless verdict) (arch : Architecture)
    {vars : List Variable} {origin : Option String} {strict : Bool} {directives : List Directive}
    {bench : Bench σ} {start : List Routine × Bench σ}
    (assembled : (assembleAll encoder arch vars origin strict directives).run bench =
      (.ok start.1, start.2))
    (actions : List Action) (name : String) (base : Int) (vars' : List Variable) :
    let routines := (session encoder arch start actions).1
    (∀ routine ∈ routines, routine.isHook = false →
      routine.placement = none ∧ routine.branch = none) ∧
    (∀ routine ∈ routines, routine.isHook = true →
      (routine.placement.isSome ↔ routine.branch.isSome) ∧
      ∀ placement branch, routine.placement = some placement → routine.branch = some branch →
        arch.Branches verdict (placement - routine.insertionPoint) branch) ∧
    ((∃ point, Patch.build name base vars' routines = .error (.unlinked point)) ↔
      ∃ index routine, routines[index]? = some routine ∧ routine.isHook = true ∧
        ¬ EverLinked encoder verdict arch start actions index) ∧
    ((∀ point, Patch.build name base vars' routines ≠ .error (.unlinked point)) →
      ∃ patch, Patch.build name base vars' routines = .ok patch ∧
        List.Forall₂ (WrittenTo verdict arch) routines patch.writes) := by
  intro routines
  have standing {index : Nat} {routine : Routine} (there : routines[index]? = some routine) :
      Standing verdict arch (EverLinked encoder verdict arch start actions index) routine :=
    session_standing stateless (unlinked_of_assembleAll assembled) there
  have known {routine : Routine} (member : routine ∈ routines) :
      ∃ index, routines[index]? = some routine ∧
        Standing verdict arch (EverLinked encoder verdict arch start actions index) routine := by
    obtain ⟨index, there⟩ := List.getElem?_of_mem member
    exact ⟨index, there, standing there⟩
  refine ⟨?_, ?_, ?_, ?_⟩
  · intro routine member stays
    obtain ⟨index, -, here⟩ := known member
    exact here.of_replacement stays
  · intro routine member moves
    obtain ⟨index, -, here⟩ := known member
    exact here.agrees
  · rw [Patch.build_eq_error_iff]
    constructor
    · rintro ⟨routine, member, moves, missing⟩
      obtain ⟨index, there, here⟩ := known member
      exact ⟨index, routine, there, moves, here.branch_eq_none_iff.mp missing⟩
    · rintro ⟨index, routine, there, moves, never⟩
      exact ⟨routine, List.mem_of_getElem? there, moves,
        (standing there).branch_eq_none_iff.mpr never⟩
  · intro accepted
    cases built : Patch.build name base vars' routines with
    | error failure =>
        obtain ⟨routine, -, -, -, rfl⟩ := Patch.build_eq_error built
        exact absurd built (accepted _)
    | ok patch =>
        refine ⟨patch, rfl, ?_⟩
        have each := (List.forall₂_and_left (p := (· ∈ routines)) _ _).mpr
          ⟨fun _ inside => inside, Patch.forall₂_of_build built⟩
        refine each.imp ?_
        rintro routine write ⟨member, written⟩
        obtain ⟨index, -, here⟩ := known member
        exact here.writtenTo written

/-- An encoder without a state that cannot reach as far as `0x1E04`. -/
def shortSighted : Encoder Unit where
  answer text state :=
    (if text = "bl 0x00001E04" then .rejected (Fault.rejection "out of reach" (some text))
    else .accepted [0, 0, 0, 0xEB] [], state)

def pairDirectives : List Directive :=
  [{ site := .hook 0x100, body := "nop" }, { site := .repl 0x180, body := "nop" }]

def pairRun : Except Failure (List Routine) × Bench Unit :=
  (assembleAll shortSighted .arm [] none false pairDirectives).run { state := () }

def pairAssembled : List Routine × Bench Unit :=
  (pairRun.1.toOption.getD [], pairRun.2)

/-- The two are linked, a hook joins them, and linking all three anew fails at the new one. -/
def trioActions : List Action :=
  [.link none 0x1000,
    .add [{ mode := .hook, insertionPoint := 0x200, source := "nop", data := [1] }]
      (by simp [Unlinked]),
    .link none 0x2000]

/-- A linking fails at the new hook, and the patch cannot be built for it. -/
theorem build_session_trio :
    (session shortSighted .arm pairAssembled trioActions).1.map (·.placement) =
        [some 0x2000, none, none] ∧
      Patch.build "menu" 0 [] (session shortSighted .arm pairAssembled trioActions).1 =
        .error (.unlinked 0x200) ∧
      ∃ index routine,
        (session shortSighted .arm pairAssembled trioActions).1[index]? = some routine ∧
        routine.isHook = true ∧
        ¬ EverLinked shortSighted (fun text => (shortSighted.answer text ()).1) .arm pairAssembled
          trioActions index := by
  have ran : pairRun = (.ok pairAssembled.1, pairAssembled.2) := by decide +kernel
  have assembled : (assembleAll shortSighted .arm [] none false pairDirectives).run
      { state := () } = (.ok pairAssembled.1, pairAssembled.2) := ran
  have failed : Patch.build "menu" 0 []
      (session shortSighted .arm pairAssembled trioActions).1 = .error (.unlinked 0x200) := by
    decide +kernel
  have stateless : shortSighted.Stateless fun text => (shortSighted.answer text ()).1 :=
    fun _ _ => rfl
  obtain ⟨-, -, refused, -⟩ := build_session stateless .arm assembled trioActions "menu" 0 []
  exact ⟨by decide +kernel, failed, refused.mp ⟨_, failed⟩⟩

end Routine

end OverlayPatch
