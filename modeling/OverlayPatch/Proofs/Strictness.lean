import Mathlib
import OverlayPatch.Proofs.AddressSpace
import OverlayPatch.Proofs.Interleaving
import OverlayPatch.Proofs.Relinking

/-!
# What strictness changes

A strict run and a permissive one go the same way until a replacement turns out not to be one
instruction long. There the strict run stops, and the permissive one goes on to stages that the
other never sees.

With an encoder that has no state of its own, what a stage comes to does not depend on the bench
(`ExceptT.Gives`), so two runs can be compared stage by stage. Strict assembling then is permissive
assembling with a check behind each routine (`exists_gives_assemble`), and what one run has found in
the other stages holds in the other run too (`Stages.gives_assembleWith`). `assembleSource_strict`
says what this means for patches.
-/

namespace OverlayPatch

set_option autoImplicit false

/-! ## Stages that do not depend on the bench -/

def Verdict.outcome (amend : Fault → Fault) : Verdict → Except Failure (List UInt8)
  | .accepted data _ => .ok data
  | .rejected fault => .error (.fault (fault.amended amend))
  | .crashed breakdown => .error (.crash breakdown)

variable {σ : Type} {encoder : Encoder σ} {verdict : String → Verdict}

open ExceptT

namespace Work

variable {α β : Type}

/-- The stage has the same outcome at every bench. -/
def Settled (work : Work σ α) : Prop :=
  ∃ outcome, work.Gives outcome

/-- One run tells the outcome of all. -/
theorem Settled.gives {work : Work σ α} {bench later : Bench σ} {outcome : Except Failure α}
    (settled : work.Settled) (ran : work.run bench = (outcome, later)) : work.Gives outcome := by
  obtain ⟨fixed, gives⟩ := settled
  obtain rfl : fixed = outcome := (gives bench).symm.trans (congrArg Prod.fst ran)
  exact gives

theorem gives_ofExcept (result : Except Failure α) : (ofExcept result : Work σ α).Gives result :=
  fun _ => rfl

/-- Without a state, an encoder says the same of a text at every bench. -/
theorem gives_encode (stateless : encoder.Stateless verdict) (amend : Fault → Fault)
    (text : String) : (encoder.encode amend text).Gives ((verdict text).outcome amend) := by
  intro bench
  rw [Encoder.run_encode, stateless]
  cases verdict text <;> rfl

theorem settled_bind {work : Work σ α} {next : α → Work σ β} (first : work.Settled)
    (others : ∀ a, (next a).Settled) : (work >>= next).Settled := by
  obtain ⟨outcome, gives⟩ := first
  choose rest givesRest using others
  exact ⟨_, gives_bind gives givesRest⟩

theorem settled_pure (a : α) : (pure a : Work σ α).Settled :=
  ⟨_, gives_pure a⟩

theorem settled_fail (fault : Fault) : (fail fault : Work σ α).Settled :=
  ⟨.error (.fault fault), fun _ => rfl⟩

theorem settled_note (level : Level) (text : String) : (note level text : Work σ Unit).Settled :=
  ⟨.ok (), fun _ => rfl⟩

theorem settled_foldlM {step : β → α → Work σ β} (each : ∀ b item, (step b item).Settled)
    (items : List α) (b : β) : (items.foldlM step b).Settled := by
  induction items generalizing b with
  | nil => exact settled_pure b
  | cons item items ih =>
      rw [List.foldlM_cons]
      exact settled_bind (each b item) ih

end Work

open Work

/-! ## Placing variables -/

namespace Allocation

theorem settled_place (stateless : encoder.Stateless verdict) (origin : Option String)
    (declaration : Declaration) (text : String) (allocation : Allocation) :
    (place encoder origin declaration text allocation).Settled := by
  unfold place
  refine settled_bind ⟨_, gives_encode stateless _ text⟩ fun value => ?_
  dsimp only
  split
  · rw [fail_bind]
    exact settled_fail _
  · exact settled_bind (settled_note _ _) fun _ => settled_pure _

theorem settled_resolve (declarations : List Declaration) (origin : Option String)
    (declaration : Declaration) (allocation : Allocation) (references : List String) :
    (resolve declarations origin declaration allocation references :
      Work σ Declaration.Locations).Settled := by
  induction references with
  | nil => exact settled_pure []
  | cons reference references ih =>
      unfold resolve
      split
      · exact settled_fail _
      · exact settled_bind (settled_note _ _) fun _ => settled_bind ih fun _ => settled_pure _

theorem settled_placeAlias (stateless : encoder.Stateless verdict)
    (declarations : List Declaration) (origin : Option String) (allocation : Allocation)
    (declaration : Declaration) :
    (placeAlias encoder declarations origin allocation declaration).Settled := by
  unfold placeAlias
  refine settled_bind (settled_resolve _ _ _ _ _) fun locations => ?_
  exact settled_bind ⟨_, gives_ofExcept _⟩ fun text => settled_place stateless _ _ text _

theorem settled_ofDeclarations (stateless : encoder.Stateless verdict) (origin : Option String)
    (start : Int) (declarations : List Declaration) :
    (ofDeclarations encoder origin start declarations).Settled := by
  unfold ofDeclarations
  split
  · exact settled_fail _
  · exact settled_bind (settled_foldlM (fun _ _ => settled_place stateless _ _ _ _) _ _)
      (settled_foldlM (settled_placeAlias stateless _ _) _)

end Allocation

namespace Routine

/-! ## Assembling routines -/

/-- The check that strictness adds: a replacement has to be one instruction long. -/
def measure (arch : Architecture) (origin : Option String) (routine : Routine) :
    Except Failure Routine :=
  if routine.isHook ∨ (routine.data.length : Int) = arch.instructionSize then .ok routine
  else .error (.fault (Fault.wrongSize arch.instructionSize routine.data.length origin
    (some routine.insertionPoint)))

/-- Permissively, a replacement of the wrong size is only reported. -/
theorem gives_unmeasured (arch : Architecture) (origin : Option String) (routine : Routine) :
    (do checkSize arch origin false routine.insertionPoint routine.data.length
        return routine : Work σ Routine).Gives (.ok routine) := by
  unfold checkSize
  split <;> exact fun _ => rfl

theorem gives_measured (arch : Architecture) (origin : Option String) (routine : Routine)
    (stays : routine.isHook = false) :
    (do checkSize arch origin true routine.insertionPoint routine.data.length
        return routine : Work σ Routine).Gives (measure arch origin routine) := by
  unfold checkSize measure
  by_cases fits : (routine.data.length : Int) = arch.instructionSize
  · rw [if_neg (not_not_intro fits), if_pos (.inr fits)]
    exact fun _ => rfl
  · rw [if_pos fits, if_pos rfl, if_neg (by simp [stays, fits])]
    exact fun _ => rfl

variable {arch : Architecture} {origin : Option String}

theorem eq_of_measure {routine result : Routine}
    (passed : measure arch origin routine = .ok result) : result = routine := by
  unfold measure at passed
  split at passed
  · exact (Except.ok.inj passed).symm
  · cases passed

/-- The check lets routines pass as they are. -/
theorem eq_of_mapM_measure {routines results : List Routine}
    (passed : routines.mapM (measure arch origin) = .ok results) : results = routines := by
  have each : List.Forall₂ (fun routine result => result = routine) routines results :=
    (forall₂_of_mapM_ok passed).imp fun _ _ => eq_of_measure
  have same : List.Forall₂ Eq results routines := each.flip
  rwa [List.forall₂_eq_eq_eq] at same

/-- Strict assembling is permissive assembling with the check behind it. -/
theorem exists_gives_assemble (stateless : encoder.Stateless verdict) (arch : Architecture)
    (vars : List Variable) (origin : Option String) (directive : Directive) :
    ∃ outcome, (assemble encoder arch vars origin false directive).Gives outcome ∧
      (assemble encoder arch vars origin true directive).Gives
        (outcome >>= measure arch origin) := by
  unfold assemble
  cases resolved : directive.resolveMarkers arch vars origin with
  | error failure => exact ⟨.error failure, fun _ => rfl, fun _ => rfl⟩
  | ok source =>
      have encoded := gives_encode stateless (·.within
        { origin, mode := some directive.mode.name, address := directive.address? }) source
      simp only [ofExcept_ok_bind]
      cases answer : verdict source with
      | rejected fault =>
          rw [answer] at encoded
          exact ⟨_, gives_bind_error encoded _, gives_bind_error encoded _⟩
      | crashed breakdown =>
          rw [answer] at encoded
          exact ⟨_, gives_bind_error encoded _, gives_bind_error encoded _⟩
      | accepted data remarks =>
          rw [answer] at encoded
          cases site : directive.site with
          | append => simp [Directive.resolveMarkers, site] at resolved
          | hook point =>
              -- A hook passes the check whatever its length, so the two runs do not part here.
              exact ⟨.ok _, gives_bind_ok encoded (gives_pure _),
                gives_bind_ok encoded (gives_pure _)⟩
          | repl point =>
              let routine : Routine := { mode := .repl, insertionPoint := point, source, data }
              exact ⟨.ok routine, gives_bind_ok encoded (gives_unmeasured arch origin routine),
                gives_bind_ok encoded (gives_measured arch origin routine rfl)⟩

variable {vars : List Variable} {directives : List Directive} {routines : List Routine}
  {bench later : Bench σ}

/-- Strict assembling is permissive assembling and a check of each routine. -/
theorem exists_gives_assembleAll (stateless : encoder.Stateless verdict) (arch : Architecture)
    (vars : List Variable) (origin : Option String) (directives : List Directive) :
    ∃ code : Directive → Except Failure Routine,
      (assembleAll encoder arch vars origin false directives).Gives
        ((directives.filter (·.mode ≠ .append)).mapM code) ∧
      (assembleAll encoder arch vars origin true directives).Gives
        ((directives.filter (·.mode ≠ .append)).mapM fun directive =>
          code directive >>= measure arch origin) := by
  choose code permissive strict using exists_gives_assemble stateless arch vars origin
  exact ⟨code, gives_mapM permissive _, gives_mapM strict _⟩

/-- Once the routines are known, strictness is a matter of their sizes. -/
theorem gives_strict_assembleAll (stateless : encoder.Stateless verdict)
    (ran : (assembleAll encoder arch vars origin false directives).run bench =
      (.ok routines, later)) :
    (assembleAll encoder arch vars origin true directives).Gives
      (routines.mapM (measure arch origin)) := by
  obtain ⟨code, permissive, strict⟩ :=
    exists_gives_assembleAll stateless arch vars origin directives
  have found := (permissive bench).symm.trans (congrArg Prod.fst ran)
  rwa [mapM_bind_of_mapM_ok found] at strict

/-- What strict assembling lets pass, permissive assembling gives too. -/
theorem gives_permissive_assembleAll (stateless : encoder.Stateless verdict)
    (ran : (assembleAll encoder arch vars origin true directives).run bench =
      (.ok routines, later)) :
    (assembleAll encoder arch vars origin false directives).Gives (.ok routines) := by
  obtain ⟨code, permissive, strict⟩ :=
    exists_gives_assembleAll stateless arch vars origin directives
  have passed := (strict bench).symm.trans (congrArg Prod.fst ran)
  rwa [mapM_ok_of_mapM_bind (fun _ _ => eq_of_measure) passed] at permissive

/-! ## Linking routines -/

theorem settled_branchWork (stateless : encoder.Stateless verdict) (arch : Architecture)
    (origin : Option String) (cursor : Int) (routine : Routine) :
    (branchWork encoder arch origin cursor routine).Settled :=
  settled_bind ⟨_, gives_ofExcept _⟩ fun text => ⟨_, gives_encode stateless _ text⟩

/-- The bench does not show in what linking comes to. -/
theorem run_link_fst (stateless : encoder.Stateless verdict) (arch : Architecture)
    (origin : Option String) (routines : List Routine) (cursor : Int) (bench bench' : Bench σ) :
    ((link encoder arch origin cursor routines).run bench).1 =
      ((link encoder arch origin cursor routines).run bench').1 := by
  induction routines generalizing cursor bench bench' with
  | nil => rfl
  | cons routine routines ih =>
      cases moves : routine.isHook with
      | false =>
          rw [run_link_replacement moves, run_link_replacement moves]
          exact congrArg (Prod.map (routine :: ·) id) (ih cursor bench bench')
      | true =>
          obtain ⟨outcome, gives⟩ := settled_branchWork stateless arch origin cursor routine
          have same := (gives bench).trans (gives bench').symm
          rw [run_link_hook moves, run_link_hook moves]
          rcases one : (branchWork encoder arch origin cursor routine).run bench with
            ⟨result, middle⟩
          rcases other : (branchWork encoder arch origin cursor routine).run bench' with
            ⟨result', middle'⟩
          rw [one, other] at same
          obtain rfl : result = result' := same
          cases result with
          | error failure => rfl
          | ok branch =>
              dsimp only
              split
              · rfl
              · exact congrArg (Prod.map (_ :: ·) id) (ih (cursor + routine.data.length) _ _)

/-- A linking that gets through does so at every bench. -/
theorem gives_linkAll (stateless : encoder.Stateless verdict) {linked : List Routine}
    {cursor limit : Int}
    (ran : (link encoder arch origin cursor routines).run bench = ((linked, .ok limit), later)) :
    (linkAll encoder arch origin cursor routines).Gives (.ok (linked, limit)) := by
  intro bench'
  have same := run_link_fst stateless arch origin routines cursor bench' bench
  rw [ran] at same
  rw [run_linkAll]
  rcases last : (link encoder arch origin cursor routines).run bench' with ⟨result, later'⟩
  rw [last] at same
  obtain rfl : result = (linked, .ok limit) := same
  rfl

/-! ## Replacements that are not one instruction long -/

/-- The writes of a patch with the directives they are for, in source order. -/
def entries (directives : List Directive) (patch : Patch) : List (Directive × Write) :=
  (directives.filter (·.mode ≠ .append)).zip patch.writes

/-- If it is for a replacement, the write is one instruction long. -/
def OneInstruction (arch : Architecture) (entry : Directive × Write) : Prop :=
  entry.1.mode = .repl → (entry.2.value.length : Int) = arch.instructionSize

/-- The first replacement that is not one instruction long is at `point` and has `size` bytes. -/
def FirstMisfit (arch : Architecture) (entries : List (Directive × Write)) (point : Int)
    (size : Nat) : Prop :=
  ∃ before directive write after, entries = before ++ (directive, write) :: after ∧
    (∀ entry ∈ before, OneInstruction arch entry) ∧
    directive.site = .repl point ∧ write.value.length = size ∧ (size : Int) ≠ arch.instructionSize

theorem FirstMisfit.cons {entry : Directive × Write} {entries : List (Directive × Write)}
    {point : Int} {size : Nat} (fits : OneInstruction arch entry)
    (first : FirstMisfit arch entries point size) :
    FirstMisfit arch (entry :: entries) point size := by
  obtain ⟨before, directive, write, after, rfl, earlier, rest⟩ := first
  exact ⟨entry :: before, directive, write, after, rfl, List.forall_mem_cons.mpr ⟨fits, earlier⟩,
    rest⟩

theorem FirstMisfit.not_forall {entries : List (Directive × Write)} {point : Int} {size : Nat}
    (first : FirstMisfit arch entries point size) :
    ¬ ∀ entry ∈ entries, OneInstruction arch entry := by
  obtain ⟨before, directive, write, after, rfl, -, site, rfl, misfits⟩ := first
  intro fits
  have repl : directive.mode = .repl := by rw [Directive.mode, site]; rfl
  exact misfits (fits (directive, write) (by simp) repl)

/-- The routine is made for the directive, and a replacement is what is written there. -/
structure Stands (routine : Routine) (entry : Directive × Write) : Prop where
  made : MadeFor entry.1 routine
  written : routine.isHook = false → entry.2.value = routine.data

theorem stands_of_completes {routines linked : List Routine} {directives : List Directive}
    {writes : List Write} (completes : List.Forall₂ Completes routines linked)
    (made : List.Forall₂ MadeFor directives linked)
    (written : List.Forall₂ (fun routine write => Patch.writeOf routine = .ok write) linked
      writes) : List.Forall₂ Stands routines (directives.zip writes) := by
  induction completes generalizing directives writes with
  | nil =>
      cases made
      exact .nil
  | cons first _ ih =>
      cases made with
      | cons here made =>
          cases written with
          | cons write written =>
              refine .cons ?_ (ih made written)
              cases first with
              | replacement stays =>
                  refine ⟨here, fun _ => ?_⟩
                  obtain ⟨value, found, same⟩ := bind_ok write
                  cases same
                  simpa [Routine.written, stays, eq_comm] using found
              | hook moves => exact ⟨here, fun stays => by simp [moves] at stays⟩

/-- A replacement passes the check just if it is one instruction long. -/
theorem measure_cases {routine : Routine} {entry : Directive × Write}
    (stands : Stands routine entry) :
    (measure arch origin routine = .ok routine ∧ OneInstruction arch entry) ∨
    ∃ point, entry.1.site = .repl point ∧
      (entry.2.value.length : Int) ≠ arch.instructionSize ∧
      measure arch origin routine = .error (.fault
        (Fault.wrongSize arch.instructionSize entry.2.value.length origin (some point))) := by
  obtain ⟨⟨mode, address⟩, written⟩ := stands
  cases site : entry.1.site with
  | append => simp [Directive.address?, Site.address?, site] at address
  | hook point =>
      have hook : entry.1.mode = .hook := by rw [Directive.mode, site]; rfl
      have moves : routine.isHook = true := by simp [isHook, mode, hook]
      exact .inl ⟨if_pos (.inl moves), fun repl => by simp [hook] at repl⟩
  | repl point =>
      have repl : entry.1.mode = .repl := by rw [Directive.mode, site]; rfl
      have placed : entry.1.address? = some point := by rw [Directive.address?, site]; rfl
      have stays : routine.isHook = false := by simp [isHook, mode, repl]
      by_cases fits : (routine.data.length : Int) = arch.instructionSize
      · exact .inl ⟨if_pos (.inr fits), fun _ => by rwa [written stays]⟩
      · refine .inr ⟨point, rfl, by rwa [written stays], ?_⟩
        rw [measure, if_neg (by simp [stays, fits]), written stays, address, placed]

/-- The check fails for the first replacement that is not one instruction long, or for none. -/
theorem mapM_measure (arch : Architecture) (origin : Option String) {routines : List Routine}
    {entries : List (Directive × Write)} (stand : List.Forall₂ Stands routines entries) :
    (routines.mapM (measure arch origin) = .ok routines ∧
      ∀ entry ∈ entries, OneInstruction arch entry) ∨
    ∃ point size, FirstMisfit arch entries point size ∧
      routines.mapM (measure arch origin) =
        .error (.fault (Fault.wrongSize arch.instructionSize size origin (some point))) := by
  induction stand with
  | nil => exact .inl ⟨rfl, by simp⟩
  | @cons routine entry routines entries here _ ih =>
      rw [List.mapM_cons]
      rcases measure_cases here with ⟨passed, fits⟩ | ⟨point, site, misfits, failed⟩
      · rw [passed]
        rcases ih with ⟨rest, others⟩ | ⟨point, size, first, rest⟩
        · rw [rest]
          exact .inl ⟨rfl, List.forall_mem_cons.mpr ⟨fits, others⟩⟩
        · rw [rest]
          exact .inr ⟨point, size, first.cons fits, rfl⟩
      · rw [failed]
        exact .inr ⟨point, entry.2.value.length,
          ⟨[], entry.1, entry.2, entries, rfl, by simp, site, rfl, misfits⟩, rfl⟩

end Routine

open Routine

/-! ## Two runs -/

namespace Stages

variable {settings : Settings} {arch : Architecture} {name text : String} {start : Int}
  {bench : Bench σ} {patch : Patch} {before : Bool}

theorem stands (stages : Stages encoder settings arch name text start bench patch) :
    List.Forall₂ Stands stages.routines (entries stages.directives patch) :=
  stands_of_completes stages.completes stages.madeFor (Patch.forall₂_of_build stages.built)

theorem locations (stages : Stages encoder settings arch name text start bench patch) :
    patch.writes.map (some ·.location) =
      (stages.directives.filter (·.mode ≠ .append)).map (·.address?) := by
  obtain ⟨-, -, writes⟩ := stages.patch_eq
  rw [map_eq_of_forall₂ stages.madeFor fun _ _ made => made.2.symm]
  simpa [Function.comp_def] using congrArg (List.map some) writes

/-- A run with another strictness goes the same way, apart from the sizes of routines. -/
theorem gives_assembleWith (stateless : encoder.Stateless verdict)
    (stages : Stages encoder { settings with strict := before } arch name text start bench patch)
    (strict : Bool) {outcome : Except Failure (List Routine)}
    (assembled : (assembleAll encoder arch stages.allocation.vars (some name) strict
      stages.directives).Gives outcome)
    (same : ∀ routines, outcome = .ok routines → routines = stages.routines) :
    (assembleWith encoder { settings with strict } arch name text start).Gives
      (outcome.map fun _ =>
        { allocation := stages.allocation, routines := stages.linked, limit := stages.limit
          patch }) := by
  have placed := (Allocation.settled_ofDeclarations stateless (some name) start
    stages.declarations).gives stages.placed
  unfold assembleWith
  rw [stages.read, ofReading_ok_bind, stages.collected, ofReading_ok_bind]
  refine gives_bind_ok placed ?_
  cases outcome with
  | error failure => exact gives_bind_error assembled _
  | ok routines =>
      obtain rfl := same routines rfl
      refine gives_bind_ok assembled (gives_bind_ok (gives_linkAll stateless stages.joined) ?_)
      exact gives_bind_ok (fun _ => stages.built) fun _ => rfl

/-- A patch that was made under one setting is made under the other, as far as its routines are. -/
theorem gives_assembleSource (stateless : encoder.Stateless verdict)
    (stages : Stages encoder { settings with strict := before } arch name text start bench patch)
    {choice : Option Architecture} (chosen : settings.target choice = .ok arch)
    (strict : Bool) {outcome : Except Failure (List Routine)}
    (assembled : (assembleAll encoder arch stages.allocation.vars (some name) strict
      stages.directives).Gives outcome)
    (same : ∀ routines, outcome = .ok routines → routines = stages.routines) :
    (assembleSource encoder { settings with strict } choice name text start).Gives
      (outcome.map fun _ => patch) := by
  have target : { settings with strict }.target choice = .ok arch := chosen
  rw [assembleSource_eq, target, ofExcept_ok_bind]
  have whole := gives_bind (stages.gives_assembleWith stateless strict assembled same)
    fun assembled => gives_pure assembled.patch
  cases outcome <;> exact whole

end Stages

/-- If the strict run gives a patch, so does the permissive one. If the permissive run gives a
patch, the strict run gives it too exactly if every replacement is written as one instruction;
otherwise it fails for the first replacement that is not, and tells its address and length. How long
hooks are does not matter. -/
theorem assembleSource_strict (stateless : encoder.Stateless verdict) (settings : Settings)
    (arch : Option Architecture) (name text : String) (start : Int) (bench bench' : Bench σ) :
    let strict :=
      ((assembleSource encoder { settings with strict := true } arch name text start).run bench).1
    let permissive :=
      ((assembleSource encoder { settings with strict := false } arch name text start).run bench').1
    (∀ patch, strict = .ok patch → permissive = .ok patch) ∧
    ∀ patch, permissive = .ok patch → ∃ target directives,
      settings.target arch = .ok target ∧ Directive.readAll name text = .ok directives ∧
      patch.writes.map (some ·.location) =
        (directives.filter (·.mode ≠ .append)).map (·.address?) ∧
      (strict = .ok patch ↔ ∀ entry ∈ entries directives patch, OneInstruction target entry) ∧
      ((∃ entry ∈ entries directives patch, ¬ OneInstruction target entry) →
        ∃ point size, FirstMisfit target (entries directives patch) point size ∧
          strict = .error (.fault
            (Fault.wrongSize target.instructionSize size (some name) (some point)))) := by
  intro strict permissive
  constructor
  · intro patch finished
    -- The later stages depend on the routines alone, and these passed the check.
    obtain ⟨target, chosen, ⟨stages⟩⟩ := stages_of_assembleSource (Prod.ext finished rfl)
    have gives := gives_permissive_assembleAll stateless stages.assembled
    exact stages.gives_assembleSource stateless chosen false gives
      (fun _ same => (Except.ok.inj same).symm) bench'
  · intro patch finished
    obtain ⟨target, chosen, ⟨stages⟩⟩ := stages_of_assembleSource (Prod.ext finished rfl)
    -- The check decides: if it fails, linking is never reached, whatever it would have come to.
    have ends := stages.gives_assembleSource stateless chosen true
      (gives_strict_assembleAll stateless stages.assembled) (fun _ => eq_of_mapM_measure) bench
    refine ⟨target, stages.directives, chosen, stages.read, stages.locations, ?_⟩
    rcases mapM_measure target (some name) stages.stands with
      ⟨passed, fits⟩ | ⟨point, size, first, failed⟩
    · rw [passed] at ends
      exact ⟨⟨fun _ => fits, fun _ => ends⟩,
        fun ⟨entry, member, misfits⟩ => absurd (fits entry member) misfits⟩
    · rw [failed] at ends
      refine ⟨⟨fun found => ?_, fun fits => absurd fits first.not_forall⟩,
        fun _ => ⟨point, size, first, ends⟩⟩
      cases ends.symm.trans found

/-- A replacement of one word, a hook of two, and two more replacements, both too wide. -/
def wideText : String :=
  "arepl_020C7700:\n.word 7\nahook_020C7710:\n.word 1, 2\n" ++
    "arepl_020C7720:\n.word 3, 4\narepl_020C7730:\n.byte 5, 6, 7\n"

def wideRun (strict : Bool) : Except Failure Patch × Bench Unit :=
  (assembleSource DryRun.encoder { ({} : Settings) with strict } none "menu" wideText 100).run
    { state := () }

/-- Two replacements are too wide, and a strict run stops at the first. -/
theorem assembleSource_strict_wide :
    ∃ patch directives, (wideRun false).1 = .ok patch ∧
      Directive.readAll "menu" wideText = .ok directives ∧
      FirstMisfit .arm (entries directives patch) 0x020C7720 8 ∧
      (wideRun true).1 =
        .error (.fault (Fault.wrongSize 4 8 (some "menu") (some 0x020C7720))) := by
  have stateless : DryRun.encoder.Stateless fun text => .accepted (DryRun.assemble text).1 [] :=
    fun _ _ => rfl
  have failed : (wideRun true).1 =
      .error (.fault (Fault.wrongSize 4 8 (some "menu") (some 0x020C7720))) := by decide +kernel
  have four : (wideRun false).1.map (·.writes.length) = .ok 4 := by decide +kernel
  obtain ⟨patch, finished, -⟩ := map_ok four
  obtain ⟨-, permissive⟩ := assembleSource_strict stateless {} none "menu" wideText 100
    { state := () } { state := () }
  obtain ⟨target, directives, chosen, read, -, passes, misfit⟩ := permissive patch finished
  obtain rfl : Architecture.arm = target := by
    have arm : ({} : Settings).target none = .ok .arm := by decide
    exact Except.ok.inj (arm.symm.trans chosen)
  have some_misfit : ∃ entry ∈ entries directives patch, ¬ OneInstruction .arm entry := by
    by_contra none_misfits
    push Not at none_misfits
    cases failed.symm.trans (passes.mpr none_misfits)
  obtain ⟨point, size, first, told⟩ := misfit some_misfit
  have same := Failure.fault.inj (Except.error.inj (failed.symm.trans told))
  obtain rfl : 0x020C7720 = point := Option.some.inj (congrArg Fault.address same)
  obtain ⟨-, eight⟩ := Cause.wrongSize.inj (congrArg Fault.cause same)
  obtain rfl : size = 8 := by omega
  exact ⟨patch, directives, finished, read, first, failed⟩

end OverlayPatch
