import OverlayPatch.Assembly
import OverlayPatch.Proofs.Region
import OverlayPatch.Proofs.Stage

/-!
# What assembling and linking routines comes to

`assembleAll_ends` says what becomes of the replacements and hooks of a module: each is assembled
for its own site, in order, or one of them is at fault.

Linking goes on in place: routines before the one at fault are linked and the rest are as they
were. `Links` has one rule for each thing that can happen to the routine at hand, and `links_link`
says that linking follows these rules. What holds of linked routines is proved by induction over
`Links`: their hooks tile from the cursor to the first free address, they are placed and have
branches, and apart from that they are the routines that were assembled.
-/

namespace OverlayPatch

set_option autoImplicit false

namespace Routine

variable {σ : Type}

/-! ## Assembling -/

def MadeFor (directive : Directive) (routine : Routine) : Prop :=
  routine.mode = directive.mode ∧ some routine.insertionPoint = directive.address?

inductive Unassembled (encoder : Encoder σ) (arch : Architecture) (vars : List Variable)
    (origin : Option String) (directive : Directive) (failure : Failure) : Prop where
  | encoder (fails : encoder.Fails failure)
  | markers (unresolved : directive.resolveMarkers arch vars origin = .error failure)
  | size {fault : Fault} {expected actual : Int} (told : failure = .fault fault)
      (cause : fault.cause = .wrongSize expected actual)

theorem checkSize_ends (arch : Architecture) (origin : Option String) (strict : Bool)
    (point : Int) (size : Nat) (bench : Bench σ) :
    (checkSize arch origin strict point size).Ends bench (fun _ _ => True)
      (fun failure _ => ∃ fault expected actual, failure = .fault fault ∧
        fault.cause = .wrongSize expected actual) := by
  unfold checkSize
  split
  · split
    · apply Work.ends_fail
      exact ⟨_, _, _, rfl, rfl⟩
    · apply Work.ends_note
      trivial
  · apply ExceptT.ends_pure
    trivial

/-- All that assembling a routine can come to. -/
theorem assemble_ends (encoder : Encoder σ) (arch : Architecture) (vars : List Variable)
    (origin : Option String) (strict : Bool) (directive : Directive) (bench : Bench σ) :
    (assemble encoder arch vars origin strict directive).Ends bench
      (fun routine _ => MadeFor directive routine)
      (fun failure _ => Unassembled encoder arch vars origin directive failure) := by
  unfold assemble
  apply ExceptT.ends_bind
  apply Work.ends_ofExcept
  · intro source resolved
    apply ExceptT.ends_bind
    apply Work.ends_encode
    · intro fault
      rfl
    · intro data remarks later _ _
      cases site : directive.site with
      | append => simp [Directive.resolveMarkers, site] at resolved
      | repl point =>
          apply ExceptT.ends_bind
          refine (checkSize_ends arch origin strict point data.length later).mono ?_ ?_
          · intro _ _ _
            exact ExceptT.ends_pure ⟨by rw [Directive.mode, site]; rfl,
              by rw [Directive.address?, site]; rfl⟩
          · rintro failure _ ⟨fault, expected, actual, told, cause⟩
            exact .size told cause
      | hook point =>
          exact ExceptT.ends_pure ⟨by rw [Directive.mode, site]; rfl,
            by rw [Directive.address?, site]; rfl⟩
    · intro failure later fails _
      exact .encoder fails
  · intro failure unresolved
    exact .markers unresolved

/-- Routines come one for each replacement and hook, in order. -/
theorem assembleAll_ends (encoder : Encoder σ) (arch : Architecture) (vars : List Variable)
    (origin : Option String) (strict : Bool) (directives : List Directive) (bench : Bench σ) :
    (assembleAll encoder arch vars origin strict directives).Ends bench
      (fun routines _ => List.Forall₂ MadeFor (directives.filter (·.mode ≠ .append)) routines)
      (fun failure _ => ∃ directive ∈ directives, directive.mode ≠ .append ∧
        Unassembled encoder arch vars origin directive failure) := by
  refine ExceptT.ends_mapM _ bench fun directive member bench => ?_
  have kept := List.mem_filter.mp member
  refine (assemble_ends encoder arch vars origin strict directive bench).mono
    (fun _ _ made => made) ?_
  intro failure _ unassembled
  exact ⟨directive, kept.1, by simpa using kept.2, unassembled⟩

/-! ## Linking -/

/-- The rules by which routines are linked from a cursor on: which routines there are afterwards,
and the first free address or the failure. -/
inductive Links (encoder : Encoder σ) (arch : Architecture) :
    Int → List Routine → Bench σ → List Routine → Except Failure Int → Bench σ → Prop where
  | done (cursor : Int) (bench : Bench σ) : Links encoder arch cursor [] bench [] (.ok cursor) bench
  | replacement {cursor : Int} {routine : Routine} {routines linked : List Routine}
      {bench later : Bench σ} {outcome : Except Failure Int} (stays : routine.isHook = false)
      (rest : Links encoder arch cursor routines bench linked outcome later) :
      Links encoder arch cursor (routine :: routines) bench (routine :: linked) outcome later
  | hook {cursor : Int} {routine : Routine} {routines linked : List Routine}
      {bench middle later : Bench σ} {outcome : Except Failure Int} {text : String}
      {branch : List UInt8} {remarks : List Entry} (moves : routine.isHook = true)
      (written : arch.branchText (cursor - routine.insertionPoint) = .ok text)
      (answer : (encoder.answer text bench.state).1 = .accepted branch remarks)
      (handed : Handed encoder bench middle [text])
      (within : cursor + routine.data.length ≤ Number.addressLimit)
      (rest : Links encoder arch (cursor + routine.data.length) routines middle linked outcome
        later) :
      Links encoder arch cursor (routine :: routines) bench
        ({ routine with branch := some branch, placement := some cursor } :: linked) outcome later
  | unwritten {cursor : Int} {routine : Routine} {routines : List Routine} {bench : Bench σ}
      {failure : Failure} (moves : routine.isHook = true)
      (failed : arch.branchText (cursor - routine.insertionPoint) = .error failure) :
      Links encoder arch cursor (routine :: routines) bench (routine :: routines)
        (.error failure) bench
  | unencoded {cursor : Int} {routine : Routine} {routines : List Routine}
      {bench later : Bench σ} {failure : Failure} {text : String} (moves : routine.isHook = true)
      (written : arch.branchText (cursor - routine.insertionPoint) = .ok text)
      (refused : ∀ data remarks, (encoder.answer text bench.state).1 ≠ .accepted data remarks)
      (fails : encoder.Fails failure) :
      Links encoder arch cursor (routine :: routines) bench (routine :: routines)
        (.error failure) later
  | pastEnd {cursor : Int} {routine : Routine} {routines : List Routine}
      {bench later : Bench σ} {text : String} {branch : List UInt8} {remarks : List Entry}
      {fault : Fault} (moves : routine.isHook = true)
      (written : arch.branchText (cursor - routine.insertionPoint) = .ok text)
      (answer : (encoder.answer text bench.state).1 = .accepted branch remarks)
      (handed : Handed encoder bench later [text])
      (past : Number.addressLimit < cursor + routine.data.length)
      (cause : fault.cause = .hooksPastEnd) :
      Links encoder arch cursor (routine :: routines) bench
        ({ routine with branch := some branch, placement := some cursor } :: routines)
        (.error (.fault fault)) later

def branchWork (encoder : Encoder σ) (arch : Architecture) (origin : Option String) (cursor : Int)
    (routine : Routine) : Work σ (List UInt8) :=
  Work.ofExcept (arch.branchText (cursor - routine.insertionPoint)) >>= encoder.encode (·.within
    { origin, mode := some routine.mode.name, address := some routine.insertionPoint })

/-- All that asking for a branch can come to. -/
theorem branchWork_ends (encoder : Encoder σ) (arch : Architecture) (origin : Option String)
    (cursor : Int) (routine : Routine) (bench : Bench σ) :
    (branchWork encoder arch origin cursor routine).Ends bench
      (fun branch later => ∃ text remarks,
        arch.branchText (cursor - routine.insertionPoint) = .ok text ∧
        (encoder.answer text bench.state).1 = .accepted branch remarks ∧
        Handed encoder bench later [text])
      (fun failure later =>
        (arch.branchText (cursor - routine.insertionPoint) = .error failure ∧ later = bench) ∨
        ∃ text, arch.branchText (cursor - routine.insertionPoint) = .ok text ∧
          encoder.Fails failure ∧
          ∀ data remarks, (encoder.answer text bench.state).1 ≠ .accepted data remarks) := by
  apply ExceptT.ends_bind
  apply Work.ends_ofExcept
  · intro text written
    apply Work.ends_encode
    · intro fault
      rfl
    · intro branch remarks later answer handed
      exact ⟨text, remarks, written, answer, handed⟩
    · intro failure later fails refused
      exact .inr ⟨text, written, fails, refused⟩
  · intro failure failed
    exact .inl ⟨failed, rfl⟩

def linkNote (cursor : Int) (routine : Routine) : String :=
  let distance := Architecture.displacementBits (cursor - routine.insertionPoint)
  s!"Hook {Number.address routine.insertionPoint} -> {Number.address cursor} " ++
    s!"(displacement {Number.address distance}, {routine.data.length} bytes)"

/-- Linking passes over a replacement. -/
theorem run_link_replacement {routine : Routine} (stays : routine.isHook = false)
    (encoder : Encoder σ) (arch : Architecture) (origin : Option String) (cursor : Int)
    (routines : List Routine) (bench : Bench σ) :
    (link encoder arch origin cursor (routine :: routines)).run bench =
      match (link encoder arch origin cursor routines).run bench with
      | ((rest, outcome), later) => ((routine :: rest, outcome), later) := by
  simp only [link, stays, StateT.run_bind, Bool.false_eq_true, if_false]
  rfl

/-- Linking asks for the branch of a hook and goes on behind it. -/
theorem run_link_hook {routine : Routine} (moves : routine.isHook = true)
    (encoder : Encoder σ) (arch : Architecture) (origin : Option String) (cursor : Int)
    (routines : List Routine) (bench : Bench σ) :
    (link encoder arch origin cursor (routine :: routines)).run bench =
      match (branchWork encoder arch origin cursor routine).run bench with
      | (.error failure, later) => ((routine :: routines, .error failure), later)
      | (.ok branch, middle) =>
          let linked := { routine with branch := some branch, placement := some cursor }
          let noted := middle.note .debug (linkNote cursor routine)
          if Number.addressLimit < cursor + routine.data.length then
            ((linked :: routines, .error (.fault
              { cause := .hooksPastEnd, origin, mode := some routine.mode.name
                address := some routine.insertionPoint })), noted)
          else
            match (link encoder arch origin (cursor + routine.data.length) routines).run noted with
            | ((rest, outcome), later) => ((linked :: rest, outcome), later) := by
  simp only [link, moves, StateT.run_bind, if_true]
  generalize first : StateT.run (ExceptT.run _) bench = result
  have same : (branchWork encoder arch origin cursor routine).run bench = result := first
  rw [same]
  rcases result with ⟨failure | branch, middle⟩
  · rfl
  · change StateT.run (ite _ _ _) (Bench.note _ _ middle) = ite _ _ _
    split <;> rfl

/-- All that can happen to the routine at hand: it is a replacement, its branch cannot be had, or it
is placed, and then the cursor is past the end or linking goes on behind it. -/
theorem link_cons_cases {encoder : Encoder σ} {arch : Architecture} {origin : Option String}
    {routine : Routine} {routines linked : List Routine} {cursor : Int} {bench later : Bench σ}
    {outcome : Except Failure Int}
    (ran : (link encoder arch origin cursor (routine :: routines)).run bench =
      ((linked, outcome), later)) :
    (routine.isHook = false ∧ ∃ others, linked = routine :: others ∧
      (link encoder arch origin cursor routines).run bench = ((others, outcome), later)) ∨
    (routine.isHook = true ∧
      ((∃ failure, linked = routine :: routines ∧ outcome = .error failure ∧
        (branchWork encoder arch origin cursor routine).run bench = (.error failure, later)) ∨
      ∃ branch middle note others,
        linked = { routine with branch := some branch, placement := some cursor } :: others ∧
        (branchWork encoder arch origin cursor routine).run bench = (.ok branch, middle) ∧
        ((Number.addressLimit < cursor + routine.data.length ∧ others = routines ∧
          outcome = .error (.fault
            { cause := .hooksPastEnd, origin, mode := some routine.mode.name
              address := some routine.insertionPoint }) ∧
          later = middle.note .debug note) ∨
        (cursor + routine.data.length ≤ Number.addressLimit ∧
          (link encoder arch origin (cursor + routine.data.length) routines).run
            (middle.note .debug note) = ((others, outcome), later))))) := by
  cases moves : routine.isHook with
  | false =>
      rw [run_link_replacement moves] at ran
      rcases rest : (link encoder arch origin cursor routines).run bench with
        ⟨⟨others, result⟩, last⟩
      rw [rest] at ran
      cases ran
      exact .inl ⟨rfl, others, rfl, rfl⟩
  | true =>
      rw [run_link_hook moves] at ran
      refine .inr ⟨rfl, ?_⟩
      rcases first : (branchWork encoder arch origin cursor routine).run bench with
        ⟨failure | branch, middle⟩
      · rw [first] at ran
        cases ran
        exact .inl ⟨failure, rfl, rfl, rfl⟩
      · rw [first] at ran
        dsimp only at ran
        split at ran
        · rename_i past
          cases ran
          exact .inr ⟨branch, middle, _, routines, rfl, rfl, .inl ⟨past, rfl, rfl, rfl⟩⟩
        · rename_i fits
          rcases rest : (link encoder arch origin (cursor + routine.data.length) routines).run
            (middle.note .debug (linkNote cursor routine)) with ⟨⟨others, result⟩, last⟩
          rw [rest] at ran
          cases ran
          exact .inr ⟨branch, middle, _, others, rfl, rfl, .inr ⟨by omega, rest⟩⟩

/-- Linking follows the rules. -/
theorem links_link (encoder : Encoder σ) (arch : Architecture) (origin : Option String)
    {routines linked : List Routine} {cursor : Int} {bench later : Bench σ}
    {outcome : Except Failure Int}
    (ran : (link encoder arch origin cursor routines).run bench = ((linked, outcome), later)) :
    Links encoder arch cursor routines bench linked outcome later := by
  induction routines generalizing cursor bench linked with
  | nil =>
      cases ran
      exact .done _ _
  | cons routine routines ih =>
      have ends := branchWork_ends encoder arch origin cursor routine bench
      rcases link_cons_cases ran with ⟨stays, others, rfl, rest⟩ |
        ⟨moves, ⟨failure, rfl, rfl, first⟩ | ⟨branch, middle, note, others, rfl, first, next⟩⟩
      · exact .replacement stays (ih rest)
      · rcases ends.of_error first with ⟨failed, rfl⟩ | ⟨text, written, fails, refused⟩
        · exact .unwritten moves failed
        · exact .unencoded moves written refused fails
      · obtain ⟨text, remarks, written, answer, handed⟩ := ends.of_ok first
        rcases next with ⟨past, rfl, rfl, rfl⟩ | ⟨fits, rest⟩
        · exact .pastEnd moves written answer (handed.note _ _) past rfl
        · exact .hook moves written answer (handed.note _ _) fits (ih rest)

theorem run_linkAll (encoder : Encoder σ) (arch : Architecture) (origin : Option String)
    (cursor : Int) (routines : List Routine) (bench : Bench σ) :
    (linkAll encoder arch origin cursor routines).run bench =
      match (link encoder arch origin cursor routines).run bench with
      | ((linked, .ok limit), later) => (.ok (linked, limit), later)
      | ((_, .error failure), later) => (.error failure, later) := by
  unfold linkAll
  rw [ExceptT.run_bind_eq]
  have lifted : (liftM (link encoder arch origin cursor routines) : Work σ _).run bench =
      (.ok ((link encoder arch origin cursor routines).run bench).1,
        ((link encoder arch origin cursor routines).run bench).2) := rfl
  rw [lifted]
  rcases (link encoder arch origin cursor routines).run bench with
    ⟨⟨linked, _ | limit⟩, later⟩ <;> rfl

theorem linkAll_ends (encoder : Encoder σ) (arch : Architecture) (origin : Option String)
    (cursor : Int) (routines : List Routine) (bench : Bench σ) :
    (linkAll encoder arch origin cursor routines).Ends bench
      (fun result later => (link encoder arch origin cursor routines).run bench =
        ((result.1, .ok result.2), later))
      (fun failure later => ∃ linked,
        Links encoder arch cursor routines bench linked (.error failure) later) := by
  unfold ExceptT.Ends
  rw [run_linkAll]
  rcases ran : (link encoder arch origin cursor routines).run bench with
    ⟨⟨linked, failure | limit⟩, later⟩
  · exact ⟨linked, links_link encoder arch origin ran⟩
  · rfl

/-! ## Linked routines -/

/-- What linking makes of a routine: a replacement stays as it is, a hook gets a placement and a
branch. -/
inductive Completes : Routine → Routine → Prop where
  | replacement {routine : Routine} (stays : routine.isHook = false) : Completes routine routine
  | hook {routine : Routine} (moves : routine.isHook = true) (branch : List UInt8)
      (placement : Int) :
      Completes routine { routine with branch := some branch, placement := some placement }

/-- Linking changes nothing about the sites that routines were made for. -/
theorem forall₂_madeFor {directives : List Directive} {routines linked : List Routine}
    (made : List.Forall₂ MadeFor directives routines)
    (completes : List.Forall₂ Completes routines linked) :
    List.Forall₂ MadeFor directives linked := by
  induction made generalizing linked with
  | nil =>
      cases completes
      exact .nil
  | cons here _ ih =>
      cases completes with
      | cons first rest =>
          refine .cons ?_ (ih rest)
          cases first <;> exact here

/-- Linked hooks are placed and have their branch. -/
theorem placed_of_completes {routines linked : List Routine}
    (completes : List.Forall₂ Completes routines linked) :
    ∀ routine ∈ linked, routine.isHook = true →
      ∃ location branch, routine.placement = some location ∧ routine.branch = some branch := by
  intro routine member moves
  obtain ⟨before, -, completed⟩ := exists_of_forall₂ completes member
  cases completed with
  | replacement stays => simp [stays] at moves
  | hook _ branch placement => exact ⟨placement, branch, rfl, rfl⟩

variable {encoder : Encoder σ} {arch : Architecture} {cursor limit : Int}
  {routines linked : List Routine} {bench later : Bench σ} {outcome : Except Failure Int}

/-- A linking that gets through completes every hook. -/
theorem Links.completes (links : Links encoder arch cursor routines bench linked outcome later)
    (finished : outcome = .ok limit) : List.Forall₂ Completes routines linked := by
  induction links with
  | done => exact .nil
  | replacement stays _ ih => exact .cons (.replacement stays) (ih finished)
  | hook moves _ _ _ _ _ ih => exact .cons (.hook moves _ _) (ih finished)
  | unwritten | unencoded | pastEnd => cases finished

/-- Why linking fails. -/
theorem Links.failed (links : Links encoder arch cursor routines bench linked outcome later)
    {failure : Failure} (stopped : outcome = .error failure) :
    (∃ displacement, arch.branchText displacement = .error failure) ∨ encoder.Fails failure ∨
      ∃ fault, failure = .fault fault ∧ fault.cause = .hooksPastEnd := by
  induction links with
  | done => cases stopped
  | replacement _ _ ih | hook _ _ _ _ _ _ ih => exact ih stopped
  | unwritten _ failed =>
      cases stopped
      exact .inl ⟨_, failed⟩
  | unencoded _ _ _ fails =>
      cases stopped
      exact .inr (.inl fails)
  | pastEnd _ _ _ _ _ cause =>
      cases stopped
      exact .inr (.inr ⟨_, rfl, cause⟩)

/-- The hooks follow one another from the cursor to the first free address. -/
theorem Links.tiles (links : Links encoder arch cursor routines bench linked outcome later)
    (finished : outcome = .ok limit) : Tiles cursor (linked.filterMap region?) limit := by
  induction links with
  | done cursor bench =>
      cases finished
      rfl
  | replacement stays _ ih =>
      rw [List.filterMap_cons_none (by simp [region?, stays])]
      exact ih finished
  | @hook cursor routine _ _ _ _ _ _ _ branch _ moves _ _ _ _ _ ih =>
      have moved : ({ routine with
          branch := some branch, placement := some cursor } : Routine).isHook = true := moves
      rw [List.filterMap_cons_some (by simp [region?, moved]; rfl)]
      exact ⟨rfl, ih finished⟩
  | unwritten | unencoded | pastEnd => cases finished

/-- A linking that gets through ends within the address space. -/
theorem Links.limit_le (links : Links encoder arch cursor routines bench linked outcome later)
    (finished : outcome = .ok limit)
    (begins : cursor ≤ Number.addressLimit ∨ ∃ routine ∈ linked, routine.isHook = true) :
    limit ≤ Number.addressLimit := by
  induction links with
  | done cursor bench =>
      cases finished
      simpa using begins
  | replacement stays _ ih => exact ih finished (by simpa [stays] using begins)
  | hook _ _ _ _ within _ ih => exact ih finished (.inl within)
  | unwritten | unencoded | pastEnd => cases finished

/-- Once every hook is placed, the regions of the hooks hold the bytes of the hooks. -/
theorem flatMap_region (placed : ∀ routine ∈ linked, routine.isHook = true →
      ∃ location branch, routine.placement = some location ∧ routine.branch = some branch) :
    (linked.filterMap region?).flatMap (·.bytes) =
      (linked.filter (·.isHook)).flatMap (·.data) := by
  induction linked with
  | nil => rfl
  | cons routine linked ih =>
      have rest := ih fun other member => placed other (by simp [member])
      cases moves : routine.isHook with
      | false =>
          rw [List.filterMap_cons_none (by simp [region?, moves]), rest]
          simp [moves]
      | true =>
          obtain ⟨location, -, here, -⟩ := placed routine (by simp) moves
          rw [List.filterMap_cons_some (b := { location, bytes := routine.data })
            (by simp [region?, moves, here]), List.flatMap_cons, rest]
          simp [moves]

end Routine

end OverlayPatch
