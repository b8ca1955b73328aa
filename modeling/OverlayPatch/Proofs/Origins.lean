import OverlayPatch.Proofs.Attempts

/-!
# Whose fault it is

A fault names the module it arose in, and what an inner stage has said is never overwritten. So the
innermost stage that knows a name decides. Reading a module goes by its file, and a fault met there
names the file. All later stages are handed the module's name, which lacks the suffix, and each of
them names it (`Work.Names`): by the time the file's name is offered, there is nothing to fill in.

`report_origins` states which of the two a report shows, for every kind of fault.
-/

namespace OverlayPatch

set_option autoImplicit false

/-- If the failure is a fault, it names the module. -/
abbrev Failure.Names (name : String) (failure : Failure) : Prop :=
  failure.IfFault fun fault => fault.origin = some name

/-- What the encoder rejects it rejects as impossible to encode, and does not ascribe to a
module. -/
def Encoder.Unnamed {σ : Type} (encoder : Encoder σ) : Prop :=
  ∀ text state fault, (encoder.answer text state).1 = .rejected fault →
    fault.cause.kind = .encoding ∧ fault.origin = none

/-- A name that is there is kept. -/
theorem Fault.origin_within {name : String} {fault : Fault} (named : fault.origin = some name)
    (context : Context) : (fault.within context).origin = some name := by
  simp [within, named]

theorem Fault.origin_within_of_none {fault : Fault} (unnamed : fault.origin = none)
    (context : Context) : (fault.within context).origin = context.origin := by
  simp [within, unnamed]

namespace Work

variable {σ α β : Type} {name : String}

/-- However the bench is, a fault of the stage names the module. -/
def Names (name : String) (work : Work σ α) : Prop :=
  ∀ bench, work.Ends bench (fun _ _ => True) fun failure _ => failure.Names name

theorem names_pure (a : α) : (pure a : Work σ α).Names name :=
  fun _ => ExceptT.ends_pure trivial

theorem names_fail {fault : Fault} (named : fault.origin = some name) :
    (fail fault : Work σ α).Names name :=
  fun _ => ends_fail (Failure.ifFault_fault named)

theorem names_note (level : Level) (text : String) : (note level text : Work σ Unit).Names name :=
  fun _ => ends_note trivial

theorem names_ofExcept {result : Except Failure α}
    (names : OnlyErrors (Failure.Names name) result) :
    (ofExcept result : Work σ α).Names name :=
  fun _ => ends_ofExcept (fun _ _ => trivial) names

theorem names_ofReading {result : Except Fault α}
    (names : ∀ fault, result = .error fault → fault.origin = some name) :
    (ofReading result : Work σ α).Names name :=
  fun _ => ends_ofReading (fun _ _ => trivial) fun fault failed =>
    Failure.ifFault_fault (names fault failed)

theorem names_bind {work : Work σ α} {next : α → Work σ β} (first : work.Names name)
    (rest : ∀ a, (next a).Names name) : (work >>= next).Names name :=
  fun bench => ExceptT.ends_bind <|
    (first bench).mono (fun a later _ => rest a later) fun _ _ named => named

theorem names_foldlM {step : β → α → Work σ β} (items : List α) (b : β)
    (each : ∀ b item, (step b item).Names name) : (items.foldlM step b).Names name :=
  fun _ => ExceptT.ends_foldlM (fun _ _ _ => True) trivial fun _ item _ b bench _ _ =>
    each b item bench

theorem names_mapM {step : α → Work σ β} (items : List α)
    (each : ∀ item, (step item).Names name) : (items.mapM step).Names name :=
  fun bench =>
    have all : (items.mapM step).Ends bench
        (fun results _ => List.Forall₂ (fun _ _ => True) items results)
        (fun failure _ => failure.Names name) :=
      ExceptT.ends_mapM items bench fun item _ => each item
    all.mono (fun _ _ _ => trivial) fun _ _ named => named

/-- What the encoder leaves open is filled in. -/
theorem names_encode {encoder : Encoder σ} (unnamed : encoder.Unnamed) {amend : Fault → Fault}
    (fills : ∀ fault, fault.origin = none → (amend fault).origin = some name) (text : String) :
    (encoder.encode amend text).Names name := by
  intro bench
  unfold ExceptT.Ends
  rw [Encoder.run_encode]
  cases answer : (encoder.answer text bench.state).1 with
  | accepted data remarks => trivial
  | rejected fault =>
      obtain ⟨encoding, unnamed⟩ := unnamed _ _ _ answer
      refine Failure.ifFault_fault ?_
      rw [Fault.amended_of_encoding encoding]
      exact fills fault unnamed
  | crashed breakdown => exact fun _ same => nomatch same

end Work

variable {σ : Type} {encoder : Encoder σ} {name : String}

/-! ## Placing -/

namespace Allocation

theorem place_names (unnamed : encoder.Unnamed) (declaration : Declaration) (text : String)
    (allocation : Allocation) :
    (place encoder (some name) declaration text allocation).Names name := by
  refine Work.names_bind (Work.names_encode unnamed (fun fault none => ?_) text) fun value => ?_
  · exact Fault.origin_within_of_none none _
  · dsimp only
    split
    · exact Work.names_bind (Work.names_fail rfl) fun _ =>
        Work.names_bind (Work.names_note _ _) fun _ => Work.names_pure _
    · exact Work.names_bind (Work.names_note _ _) fun _ => Work.names_pure _

theorem resolve_names (declarations : List Declaration) (declaration : Declaration)
    (allocation : Allocation) (references : List String) :
    (resolve declarations (some name) declaration allocation references : Work σ _).Names name := by
  induction references with
  | nil => exact Work.names_pure _
  | cons reference references ih =>
      rw [resolve]
      split
      · exact Work.names_fail rfl
      · exact Work.names_bind (Work.names_note _ _) fun _ =>
          Work.names_bind ih fun _ => Work.names_pure _

theorem placeAlias_names (unnamed : encoder.Unnamed) (declarations : List Declaration)
    (allocation : Allocation) (declaration : Declaration) :
    (placeAlias encoder declarations (some name) allocation declaration).Names name := by
  refine Work.names_bind (resolve_names _ _ _ _) fun locations => ?_
  exact Work.names_bind (Work.names_ofExcept (Declaration.substitute_faultless _ locations _))
    fun text => place_names unnamed declaration text allocation

theorem ofDeclarations_names (unnamed : encoder.Unnamed) (start : Int)
    (declarations : List Declaration) :
    (ofDeclarations encoder (some name) start declarations).Names name := by
  unfold ofDeclarations
  split
  · exact Work.names_fail rfl
  · refine Work.names_bind (Work.names_foldlM _ _ fun allocation declaration => ?_) fun direct => ?_
    · exact place_names unnamed declaration _ allocation
    · exact Work.names_foldlM _ _ fun allocation declaration =>
        placeAlias_names unnamed declarations allocation declaration

end Allocation

/-! ## Assembling and linking -/

/-- No template is at fault. -/
theorem Architecture.fill_faultless (these : Fault → Prop) (template : Text.Template)
    (values : Text.FieldValues) : OnlyErrors (Failure.IfFault these) (fill template values) := by
  refine onlyErrors_mapError fun error fault => ?_
  cases error <;> nofun

namespace Marker

/-- A fault of the text, as a line that holds too many markers is one. -/
def Crowded (origin : Option String) (fault : Fault) : Prop :=
  fault.cause.kind = .source ∧ fault.origin = origin

/-- A line of a hook is at fault only if it is crowded. -/
theorem resolveHookLine_crowded (arch : Architecture) (vars : List Variable) (context : Context)
    (ended : Bool) (line : List Char) :
    OnlyErrors (Failure.IfFault (Crowded context.origin))
      (resolveHookLine arch vars context ended line) := by
  unfold resolveHookLine
  dsimp only
  split
  · exact onlyErrors_ok _
  · refine onlyErrors_bind (Architecture.fill_faultless _ _ _) fun deref => ?_
    refine onlyErrors_bind (onlyErrors_mapError fun _ _ same => nomatch same) fun parts => ?_
    refine onlyErrors_bind (Architecture.fill_faultless _ _ _) fun save => ?_
    refine onlyErrors_bind (Architecture.fill_faultless _ _ _) fun load => ?_
    exact onlyErrors_bind (Architecture.fill_faultless _ _ _) fun restore => onlyErrors_ok _
  · exact onlyErrors_error (Failure.ifFault_fault ⟨rfl, rfl⟩)

theorem resolveHookLines_crowded (arch : Architecture) (vars : List Variable) (context : Context)
    (lines : List (List Char)) :
    OnlyErrors (Failure.IfFault (Crowded context.origin))
      (resolveHookLines arch vars context lines) := by
  induction lines with
  | nil => exact onlyErrors_ok _
  | cons line lines ih =>
      refine onlyErrors_bind (resolveHookLine_crowded arch vars context _ line) fun first => ?_
      exact onlyErrors_bind ih fun rest => onlyErrors_ok _

end Marker

theorem Directive.resolveMarkers_crowded (arch : Architecture) (vars : List Variable)
    (origin : Option String) (directive : Directive) :
    OnlyErrors (Failure.IfFault (Marker.Crowded origin))
      (directive.resolveMarkers arch vars origin) := by
  unfold resolveMarkers
  split
  · exact onlyErrors_other fun _ same => nomatch same
  · exact onlyErrors_ok _
  · exact onlyErrors_bind (Marker.resolveHookLines_crowded arch vars _ _) fun _ => onlyErrors_ok _

theorem Directive.resolveMarkers_names (arch : Architecture) (vars : List Variable)
    (directive : Directive) :
    OnlyErrors (Failure.Names name) (directive.resolveMarkers arch vars (some name)) := by
  intro failure failed fault same
  exact (directive.resolveMarkers_crowded arch vars (some name) failure failed fault same).2

namespace Routine

theorem checkSize_names (arch : Architecture) (strict : Bool) (point : Int) (size : Nat) :
    (checkSize arch (some name) strict point size : Work σ Unit).Names name := by
  unfold checkSize
  split
  · split
    · exact Work.names_fail rfl
    · exact Work.names_note _ _
  · exact Work.names_pure _

theorem assemble_names (unnamed : encoder.Unnamed) (arch : Architecture) (vars : List Variable)
    (strict : Bool) (directive : Directive) :
    (assemble encoder arch vars (some name) strict directive).Names name := by
  refine Work.names_bind (Work.names_ofExcept (directive.resolveMarkers_names arch vars))
    fun source => ?_
  refine Work.names_bind (Work.names_encode unnamed (fun fault none => ?_) source) fun data => ?_
  · exact Fault.origin_within_of_none none _
  · split
    · exact fun _ _ same => nomatch same
    · exact Work.names_bind (checkSize_names arch strict _ _) fun _ => Work.names_pure _
    · exact Work.names_pure _

theorem branchWork_names (unnamed : encoder.Unnamed) (arch : Architecture) (cursor : Int)
    (routine : Routine) : (branchWork encoder arch (some name) cursor routine).Names name :=
  Work.names_bind (Work.names_ofExcept (Architecture.fill_faultless _ _ _)) fun text =>
    Work.names_encode unnamed (fun _ none => Fault.origin_within_of_none none _) text

theorem link_names (unnamed : encoder.Unnamed) (arch : Architecture)
    {routines linked : List Routine} {cursor : Int} {bench later : Bench σ} {failure : Failure}
    (ran : (link encoder arch (some name) cursor routines).run bench =
      ((linked, .error failure), later)) : failure.Names name := by
  induction routines generalizing cursor bench linked with
  | nil => cases ran
  | cons routine routines ih =>
      rcases link_cons_cases ran with ⟨-, others, -, rest⟩ |
        ⟨-, ⟨other, -, same, first⟩ | ⟨branch, middle, note, others, -, -, next⟩⟩
      · exact ih rest
      · cases same
        exact (branchWork_names unnamed arch cursor routine bench).of_error first
      · rcases next with ⟨-, -, same, -⟩ | ⟨-, rest⟩
        · cases same
          exact Failure.ifFault_fault rfl
        · exact ih rest

theorem linkAll_names (unnamed : encoder.Unnamed) (arch : Architecture) (cursor : Int)
    (routines : List Routine) : (linkAll encoder arch (some name) cursor routines).Names name := by
  intro bench
  unfold ExceptT.Ends
  rw [run_linkAll]
  rcases ran : (link encoder arch (some name) cursor routines).run bench with
    ⟨⟨linked, failure | limit⟩, later⟩
  · exact link_names unnamed arch ran
  · trivial

end Routine

/-- Building a patch finds no fault. -/
theorem Patch.build_faultless (these : Fault → Prop) (base : Int) (vars : List Variable)
    (routines : List Routine) :
    OnlyErrors (Failure.IfFault these) (build name base vars routines) := by
  refine onlyErrors_bind (onlyErrors_mapM fun routine _ => ?_) fun writes => onlyErrors_ok _
  refine onlyErrors_bind ?_ fun value => onlyErrors_ok _
  unfold Routine.written
  split
  · split
    · exact onlyErrors_ok _
    · exact onlyErrors_other fun _ same => nomatch same
  · exact onlyErrors_ok _

/-- Whatever goes wrong with a text, the fault names the module that it was handed in as. -/
theorem assembleWith_names (unnamed : encoder.Unnamed) (settings : Settings) (arch : Architecture)
    (text : String) (start : Int) :
    (assembleWith encoder settings arch name text start).Names name := by
  refine Work.names_bind (Work.names_ofReading fun fault failed =>
    (Directive.readAll_fault failed).2) fun directives => ?_
  refine Work.names_bind (Work.names_ofReading fun fault failed =>
    (Declaration.collect_fault failed).2) fun declarations => ?_
  refine Work.names_bind (Allocation.ofDeclarations_names unnamed start declarations)
    fun allocation => ?_
  refine Work.names_bind (Work.names_mapM _ fun directive =>
    Routine.assemble_names unnamed arch _ _ directive) fun routines => ?_
  refine Work.names_bind (Routine.linkAll_names unnamed arch _ routines) fun linked => ?_
  refine Work.names_bind (Work.names_ofExcept (Patch.build_faultless _ _ _ _)) fun patch => ?_
  exact Work.names_bind (Work.names_note _ _) fun _ => Work.names_pure _

/-! ## Reports -/

variable {workshop : Workshop σ} {state : σ} {settings : Settings} {tree : FileTree}
  {sources overlays source : Path}

/-- Until it is read, a module goes by the name of its file. -/
theorem SourceFile.load_origin {fault : Fault}
    (failed : load tree settings source overlays = .error fault) :
    fault.origin = some source.name := by
  unfold load at failed
  cases sized : overlaySize tree settings source overlays with
  | error problem =>
      rw [sized] at failed
      cases failed
      unfold overlaySize at sized
      dsimp only at sized
      split at sized
      · cases sized
      · cases sized
        rfl
  | ok size =>
      rw [sized] at failed
      have unread : readText tree source = .error fault := map_error failed
      unfold readText at unread
      split at unread
      · cases unread
        rfl
      · split at unread
        · cases unread
          rfl
        · cases unread

namespace Batch

/-- The name under which a module at fault is reported: that of its file if it could not be read,
and its own otherwise. -/
def blamed (tree : FileTree) (settings : Settings) (overlays source : Path) : String :=
  if (SourceFile.load tree settings source overlays).isOk then source.stem else source.name

/-- A module at fault is told by the name it is to blame under. -/
theorem alone_origin (unnamed : encoder.Unnamed)
    (arm : Architecture.ofName settings.architecture = .ok .arm) {fault : Fault}
    (come : alone encoder state tree settings overlays source = .ok (.error fault)) :
    fault.origin = some (blamed tree settings overlays source) := by
  unfold alone at come
  unfold blamed
  cases loaded : SourceFile.load tree settings source overlays with
  | error unread =>
      rw [loaded] at come
      cases come
      exact SourceFile.load_origin loaded
  | ok file =>
      have named : file.name = source.stem := by
        obtain ⟨-, -, -, -, -, -, rfl⟩ := SourceFile.load_eq_ok.mp loaded
        rfl
      rw [loaded] at come
      dsimp only at come ⊢
      rw [run_assembleSource arm] at come
      have names : (assembleWith encoder settings .arm file.name file.text file.start).Names
          file.name := assembleWith_names unnamed settings .arm file.text file.start
      rcases ran : (assembleWith encoder settings .arm file.name file.text file.start).run
        { state := state } with ⟨failure | assembled, later⟩
      · rw [ran] at come
        cases failure with
        | fault found =>
            cases come
            rw [← named]
            exact Fault.origin_within ((names _).of_error ran found rfl) _
        | _ => cases come
      · rw [ran] at come
        cases come

theorem attempt_origin (unnamed : workshop.encoder.Unnamed)
    (equipped : ∀ fault, workshop.fresh ≠ .error (.fault fault))
    (arm : Architecture.ofName settings.architecture = .ok .arm) {fault : Fault}
    (come : attempt workshop tree settings overlays source = .ok (.error fault)) :
    fault.origin = some (blamed tree settings overlays source) := by
  unfold attempt at come
  split at come
  · rename_i unread loaded
    cases come
    unfold blamed
    rw [loaded]
    exact SourceFile.load_origin loaded
  · rename_i failure _ fresh
    cases failure with
    | fault found => exact absurd fresh (equipped found)
    | _ => cases come
  · exact alone_origin unnamed arm come

/-- So is every module in the report of a batch. -/
theorem failure_origin (unnamed : workshop.encoder.Unnamed)
    (equipped : ∀ fault, workshop.fresh ≠ .error (.fault fault)) {trail : Trail}
    {result : BatchResult}
    (ran : ((assembleDirectory workshop tree settings sources overlays).run trail).1 = .ok result)
    {failure : ModuleFailure} (failed : failure ∈ result.report.failures) :
    ∃ fault, failure.error = .fault fault ∧
      fault.origin = some (blamed tree settings overlays failure.path) := by
  obtain ⟨arm, outcomes, -, each, gathered⟩ := exists_outcomes_of_ok ran
  rw [gathered] at failed
  obtain ⟨fault, listed, told⟩ := mem_failures_gather.mp failed
  have named := attempt_origin unnamed equipped arm (each _ listed)
  exact ⟨fault, told, named⟩

/-- Whatever stage a module fails at, the fault that is reported names it: by its file if the file
or its overlay could not be read, and without the suffix in all other cases. So the file is named
just by faults of reading, and by all faults of a file whose name has no suffix. -/
theorem report_origins (unnamed : workshop.encoder.Unnamed)
    (equipped : ∀ fault, workshop.fresh ≠ .error (.fault fault)) {trail : Trail}
    {result : BatchResult}
    (ran : ((assembleDirectory workshop tree settings sources overlays).run trail).1 = .ok result)
    {failure : ModuleFailure} (failed : failure ∈ result.report.failures) :
    ∃ fault, failure.error = .fault fault ∧
      fault.origin = some (blamed tree settings overlays failure.path) ∧
      (fault.origin = some failure.path.name ↔
        (∃ unread, SourceFile.load tree settings failure.path overlays = .error unread) ∨
          failure.path.stem = failure.path.name) := by
  obtain ⟨fault, told, named⟩ := failure_origin unnamed equipped ran failed
  refine ⟨fault, told, named, ?_⟩
  rw [named, Option.some_inj, blamed]
  cases SourceFile.load tree settings failure.path overlays with
  | error unread => simp [Except.isOk, Except.toBool]
  | ok file => simp [Except.isOk, Except.toBool]

theorem unnamed_constant (data : List UInt8) : (Encoder.constant data).Unnamed := by
  intro text state fault rejected
  cases rejected

/-- In this batch a module without directives is at fault. -/
theorem exists_failure_halfGood :
    ∃ result fault, ((assembleDirectory { encoder := .constant [0], fresh := .ok () } halfGood {}
        sampleSources sampleOverlays).run {}).1 = .ok result ∧
      { path := sampleSources.child "bad.s", error := .fault fault } ∈ result.report.failures := by
  have arm : Architecture.ofName ({} : Settings).architecture = .ok .arm := by decide
  have globbed : Glob.files halfGood ({} : Settings).sourcePattern sampleSources =
      .ok [sampleSources.child "bad.s", sampleSources.child "good.s"] := by cbv
  obtain ⟨outcome, result, yields⟩ :=
    exists_yields (onlyRejects_constant [0]) () arm sampleOverlays globbed
  have bad : (outcome (sampleSources.child "bad.s")).isOk = false :=
    yields.isOk_eq (by decide +kernel)
  cases here : outcome (sampleSources.child "bad.s") with
  | ok patch =>
      rw [here] at bad
      cases bad
  | error fault =>
      exact ⟨result, fault, yields.runs _ {},
        yields.mem_failures.mpr ⟨by simp, fault, here, rfl⟩⟩

theorem blamed_halfGood :
    blamed halfGood {} sampleOverlays (sampleSources.child "bad.s") = "bad" := by
  decide +kernel

/-- A module without directives is told by its stem. -/
theorem report_origins_halfGood :
    ∃ result fault, ((assembleDirectory { encoder := .constant [0], fresh := .ok () } halfGood {}
        sampleSources sampleOverlays).run {}).1 = .ok result ∧
      { path := sampleSources.child "bad.s", error := .fault fault } ∈ result.report.failures ∧
      fault.origin = some "bad" := by
  obtain ⟨result, fault, ran, failed⟩ := exists_failure_halfGood
  obtain ⟨fault', told, named, -⟩ := report_origins (unnamed_constant [0])
    (fun fault none => by cases none) ran failed
  cases told
  exact ⟨result, fault, ran, failed, named.trans (congrArg some blamed_halfGood)⟩

/-- The report of a fault in the text of `bad.s` does not name that file. -/
theorem report_without_file :
    ∃ result fault, ((assembleDirectory { encoder := .constant [0], fresh := .ok () } halfGood {}
        sampleSources sampleOverlays).run {}).1 = .ok result ∧
      { path := sampleSources.child "bad.s", error := .fault fault } ∈ result.report.failures ∧
      fault.origin ≠ some (sampleSources.child "bad.s").name := by
  obtain ⟨result, fault, ran, failed⟩ := exists_failure_halfGood
  obtain ⟨fault', told, named⟩ := failure_origin (unnamed_constant [0])
    (fun fault none => by cases none) ran failed
  cases told
  refine ⟨result, fault, ran, failed, ?_⟩
  rw [named, blamed_halfGood]
  decide

end Batch

end OverlayPatch
