import OverlayPatch.Proofs.Linking
import OverlayPatch.Proofs.Resolution

/-!
# A module's text is at fault or nothing is

A fault is kept for the report and the batch goes on; any other failure ends the run. Several
stages can fail in such a way: a reference without an address, a directive in the wrong place, a
hook without a branch, a template without a value. `assembleSource_ends` says that for ARM none of
these is ever met, whatever the text: the stages before have seen to it.

* References: a declaration that was read lists all of them (`Declaration.Faithful`).
* Routines: append directives are left out before markers are resolved.
* Branches: linking that succeeds gives every hook its branch (`Routine.placed_of_completes`).
* Templates: those of ARM ask for no field but the ones they are given.
-/

namespace OverlayPatch

set_option autoImplicit false

/-! ## Failures that are kept for the report -/

/-- The kinds of faults that assembling a module's text can come to. -/
def textKinds : List FaultKind :=
  [.source, .duplicate, .unresolved, .encoding, .size, .range]

def Failure.Reported (failure : Failure) : Prop :=
  ∃ fault, failure = .fault fault ∧ fault.cause.kind ∈ textKinds

/-- The encoder never breaks down; what it rejects it reports as such. -/
def Encoder.OnlyRejects {σ : Type} (encoder : Encoder σ) : Prop :=
  ∀ text state, (∃ data remarks, (encoder.answer text state).1 = .accepted data remarks) ∨
    ∃ fault, (encoder.answer text state).1 = .rejected fault ∧ fault.cause.kind = .encoding

variable {σ : Type} {encoder : Encoder σ}

/-- The failure is a fault of the module's text, or it is the encoder's. -/
def Encoder.Accounts (encoder : Encoder σ) (failure : Failure) : Prop :=
  failure.Reported ∨ encoder.Fails failure

theorem reported_of_kind {fault : Fault} (kind : FaultKind) (is : fault.cause.kind = kind)
    (listed : kind ∈ textKinds) : (Failure.fault fault).Reported :=
  ⟨fault, rfl, is ▸ listed⟩

theorem Encoder.OnlyRejects.reported (rejects : encoder.OnlyRejects) {failure : Failure}
    (fails : encoder.Fails failure) : failure.Reported := by
  cases fails with
  | @rejected text state fault told answer same =>
      rcases rejects text state with ⟨data, remarks, accepted⟩ | ⟨fault', rejected, kind⟩
      · rw [accepted] at answer
        cases answer
      · rw [rejected] at answer
        cases answer
        exact reported_of_kind .encoding ((congrArg Cause.kind same).trans kind) (by decide)
  | @crashed text state breakdown answer =>
      rcases rejects text state with ⟨data, remarks, accepted⟩ | ⟨fault', rejected, -⟩
      · rw [accepted] at answer
        cases answer
      · rw [rejected] at answer
        cases answer

/-! ## Reading -/

/-- Cutting a text fails with a fault of the text that names its module. -/
theorem Directive.readAll_fault {origin text : String} {fault : Fault}
    (failed : readAll origin text = .error fault) :
    fault.cause.kind = .source ∧ fault.origin = some origin := by
  unfold readAll at failed
  dsimp only at failed
  split at failed
  · cases failed
    exact ⟨rfl, rfl⟩
  · split at failed
    · cases failed
      exact ⟨rfl, rfl⟩
    · cases failed

theorem Declaration.ofLine_fault {origin : String} {line : List Char} {fault : Fault}
    (failed : ofLine origin line = .error fault) :
    fault.cause.kind = .source ∧ fault.origin = some origin := by
  unfold ofLine at failed
  split at failed
  · cases failed
  · cases failed
    exact ⟨rfl, rfl⟩

theorem Declaration.collect_fault {origin : String} {directives : List Directive} {fault : Fault}
    (failed : collect origin directives = .error fault) :
    fault.cause.kind = .source ∧ fault.origin = some origin := by
  obtain ⟨directive, -, body⟩ := exists_of_mapM_error (map_error failed)
  obtain ⟨line, -, here⟩ := exists_of_mapM_error body
  exact ofLine_fault here

/-! ## Templates of ARM -/

namespace Architecture

/-- The branch of ARM can always be written. -/
theorem arm_branchText (displacement : Int) : ∃ text, arm.branchText displacement = .ok text :=
  ⟨_, rfl⟩

theorem arm_derefOperand : arm.derefOperand = .ok "[lr]" := by decide

theorem arm_hookSequence (line : String) (address : Int) :
    ∃ lines, arm.hookSequence line address = .ok lines :=
  ⟨_, rfl⟩

end Architecture

/-! ## Markers -/

/-- For ARM, a line of a hook fails only with a fault of the text. -/
theorem Marker.resolveHookLine_reported {vars : List Variable} {context : Context} {ended : Bool}
    {line : List Char} {failure : Failure}
    (failed : resolveHookLine .arm vars context ended line = .error failure) :
    failure.Reported := by
  unfold resolveHookLine at failed
  dsimp only at failed
  split at failed
  · cases failed
  · rename_i v _
    have operand : Text.Replacement.read "[lr]" =
        .ok [.char '[', .char 'l', .char 'r', .char ']'] := by
      decide +kernel
    obtain ⟨lines, sequence⟩ := Architecture.arm_hookSequence (String.ofList (dropLineEnd (replaceBy
      v.name [.char '[', .char 'l', .char 'r', .char ']']
      (if ended then line ++ ['\n'] else line)))) v.location
    rw [Architecture.arm_derefOperand] at failed
    simp only [bind, Except.bind, operand, Except.mapError, sequence] at failed
    cases failed
  · cases failed
    exact reported_of_kind .source rfl (by decide)

theorem Marker.resolveHookLines_reported {vars : List Variable} {context : Context}
    {lines : List (List Char)} {failure : Failure}
    (failed : resolveHookLines .arm vars context lines = .error failure) : failure.Reported := by
  induction lines with
  | nil => cases failed
  | cons line lines ih =>
      unfold resolveHookLines at failed
      cases first : resolveHookLine .arm vars context (!lines.isEmpty) line with
      | error failure' =>
          rw [first] at failed
          cases failed
          exact resolveHookLine_reported first
      | ok written =>
          rw [first] at failed
          cases others : resolveHookLines .arm vars context lines with
          | error failure' =>
              rw [others] at failed
              cases failed
              exact ih others
          | ok rest =>
              rw [others] at failed
              cases failed

theorem Directive.resolveMarkers_reported {vars : List Variable} {origin : Option String}
    {directive : Directive} (placed : directive.mode ≠ .append) {failure : Failure}
    (failed : directive.resolveMarkers .arm vars origin = .error failure) : failure.Reported := by
  unfold resolveMarkers at failed
  split at failed
  · rename_i site
    simp [mode, site, Site.mode] at placed
  · cases failed
  · exact Marker.resolveHookLines_reported (map_error failed)

/-! ## Modules -/

/-- Whatever allocation comes to is a fault of the text or the fault of the encoder. -/
theorem Allocation.Refused.accounted {origin : Option String} {start : Int}
    {declarations : List Declaration} {bench later : Bench σ} {failure : Failure}
    (refused : Refused encoder origin start declarations bench later failure) :
    encoder.Accounts failure := by
  cases refused with
  | repeated _ told _ => exact .inl (told ▸ reported_of_kind .duplicate rfl (by decide))
  | encoder fails => exact .inr fails
  | pastEnd _ told cause =>
      exact .inl (told ▸ reported_of_kind .range (congrArg Cause.kind cause) (by decide))
  | unresolved _ _ told cause =>
      exact .inl (told ▸ reported_of_kind .unresolved (congrArg Cause.kind cause) (by decide))

theorem Routine.Unassembled.accounted {vars : List Variable} {origin : Option String}
    {directive : Directive} (placed : directive.mode ≠ .append) {failure : Failure}
    (unassembled : Unassembled encoder .arm vars origin directive failure) :
    encoder.Accounts failure := by
  cases unassembled with
  | encoder fails => exact .inr fails
  | markers unresolved => exact .inl (Directive.resolveMarkers_reported placed unresolved)
  | size told cause =>
      exact .inl (told ▸ reported_of_kind .size (congrArg Cause.kind cause) (by decide))

theorem Routine.Links.accounted {cursor : Int} {routines linked : List Routine}
    {bench later : Bench σ} {failure : Failure}
    (links : Links encoder .arm cursor routines bench linked (.error failure) later) :
    encoder.Accounts failure := by
  rcases links.failed rfl with ⟨displacement, unwritten⟩ | fails | ⟨fault, told, cause⟩
  · obtain ⟨text, written⟩ := Architecture.arm_branchText displacement
    rw [written] at unwritten
    cases unwritten
  · exact .inr fails
  · exact .inl (told ▸ reported_of_kind .range (congrArg Cause.kind cause) (by decide))

/-- A patch can be built as soon as every hook has its branch. -/
theorem Patch.build_of_branches (name : String) (base : Int) (vars : List Variable)
    {routines : List Routine} (branched : ∀ routine ∈ routines, routine.isHook = true →
      ∃ branch, routine.branch = some branch) :
    ∃ patch, build name base vars routines = .ok patch := by
  have each : ∀ routine ∈ routines, ∃ write, writeOf routine = .ok write := by
    intro routine member
    cases moves : routine.isHook with
    | false => exact ⟨_, by simp only [writeOf, Routine.written, moves]; rfl⟩
    | true =>
        obtain ⟨branch, here⟩ := branched routine member moves
        exact ⟨_, by simp only [writeOf, Routine.written, moves, here]; rfl⟩
  obtain ⟨writes, found⟩ := mapM_ok_of_forall each
  exact ⟨_, by rw [build, found]; rfl⟩

/-- For ARM every failure is accounted for, whatever the encoder does. -/
theorem assembleWith_accounted (encoder : Encoder σ) (settings : Settings) (name text : String)
    (start : Int) (bench : Bench σ) :
    (assembleWith encoder settings .arm name text start).Ends bench (fun _ _ => True)
      (fun failure _ => encoder.Accounts failure) := by
  unfold assembleWith
  apply ExceptT.ends_bind
  refine Work.ends_ofReading (fun directives read => ?_) fun fault failed =>
    .inl (reported_of_kind .source (Directive.readAll_fault failed).1 (by decide))
  apply ExceptT.ends_bind
  refine Work.ends_ofReading (fun declarations collected => ?_) fun fault failed =>
    .inl (reported_of_kind .source (Declaration.collect_fault failed).1 (by decide))
  apply ExceptT.ends_bind
  refine (Allocation.ofDeclarations_ends encoder (some name) start
    (Declaration.collect_faithful collected) bench).mono ?_
      fun failure later refused => refused.accounted
  intro allocation placed _
  apply ExceptT.ends_bind
  refine (Routine.assembleAll_ends encoder .arm allocation.vars (some name) settings.strict
    directives placed).mono ?_
      fun failure later ⟨directive, _, placed, unassembled⟩ => unassembled.accounted placed
  intro routines assembled _
  apply ExceptT.ends_bind
  refine (Routine.linkAll_ends encoder .arm (some name) allocation.cursor routines
    assembled).mono ?_ fun failure later ⟨linked, links⟩ => links.accounted
  rintro ⟨linked, limit⟩ later joined
  -- Linking went through, so nothing is missing for the patch.
  have completes := (Routine.links_link encoder .arm (some name) joined).completes rfl
  obtain ⟨patch, built⟩ := Patch.build_of_branches name settings.base allocation.vars
    fun routine member moves =>
      let ⟨_, branch, _, here⟩ := Routine.placed_of_completes completes routine member moves
      ⟨branch, here⟩
  apply ExceptT.ends_bind
  rw [built]
  apply ExceptT.ends_pure
  apply ExceptT.ends_bind
  apply Work.ends_note
  apply ExceptT.ends_pure
  trivial

/-- With an encoder that only rejects, a module is assembled or at fault. -/
theorem assembleWith_ends (rejects : encoder.OnlyRejects) (settings : Settings)
    (name text : String) (start : Int) (bench : Bench σ) :
    (assembleWith encoder settings .arm name text start).Ends bench (fun _ _ => True)
      (fun failure _ => failure.Reported) :=
  (assembleWith_accounted encoder settings name text start bench).mono (fun _ _ _ => trivial)
    fun _ _ accounts => accounts.elim id rejects.reported

theorem assembleSource_ends (rejects : encoder.OnlyRejects) {settings : Settings}
    (arm : Architecture.ofName settings.architecture = .ok .arm) {arch : Option Architecture}
    (target : arch ∈ [none, some .arm]) (name text : String) (start : Int) (bench : Bench σ) :
    (assembleSource encoder settings arch name text start).Ends bench (fun _ _ => True)
      (fun failure _ => failure.Reported) := by
  have rest : (assembleWith encoder settings .arm name text start >>= fun assembled =>
      pure assembled.patch).Ends bench (fun _ _ => True) (fun failure _ => failure.Reported) := by
    apply ExceptT.ends_bind
    exact (assembleWith_ends rejects settings name text start bench).mono
      (fun _ _ _ => ExceptT.ends_pure trivial) (fun _ _ reported => reported)
  unfold assembleSource
  rcases (by simpa using target : arch = none ∨ arch = some .arm) with rfl | rfl
  · rw [arm]
    exact rest
  · exact rest

end OverlayPatch
