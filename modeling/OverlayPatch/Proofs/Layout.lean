import Mathlib
import OverlayPatch.Proofs.Linking
import OverlayPatch.Proofs.Resolution

/-!
# Where the bytes of a patch end up

The addresses in a patch are counted up by two passes of allocation and by linking; its bytes
are strung together afterwards, behind a header whose size is counted in yet another place.
`assembleSource_layout` says that they agree: if the overlay and what is appended to it are
loaded at the patch's base, every variable and every hook stands at the address it was given.

A successful run is first taken apart into its `Stages`, the results that the stages of a module
hand to one another. The layout then follows from what each stage is known to give:
`Allocation.Progress` for the variables and `Routine.Links` for the hooks.
-/

namespace OverlayPatch

set_option autoImplicit false

variable {σ : Type}

/-! ## The stages of a successful run -/

/-- What the stages of a module hand to one another on the way to its patch. -/
structure Stages (encoder : Encoder σ) (settings : Settings) (arch : Architecture)
    (name text : String) (start : Int) (bench : Bench σ) (patch : Patch) where
  directives : List Directive
  declarations : List Declaration
  allocation : Allocation
  routines : List Routine
  linked : List Routine
  /-- The first free address behind the append region. -/
  limit : Int
  afterPlacing : Bench σ
  afterAssembling : Bench σ
  afterLinking : Bench σ
  read : Directive.readAll name text = .ok directives
  collected : Declaration.collect name directives = .ok declarations
  placed : (Allocation.ofDeclarations encoder (some name) start declarations).run bench =
    (.ok allocation, afterPlacing)
  assembled : (Routine.assembleAll encoder arch allocation.vars (some name) settings.strict
    directives).run afterPlacing = (.ok routines, afterAssembling)
  joined : (Routine.link encoder arch (some name) allocation.cursor routines).run
    afterAssembling = ((linked, .ok limit), afterLinking)
  built : Patch.build name settings.base allocation.vars linked = .ok patch

/-- The architecture to assemble for: the one at hand, or else the one that the settings name. -/
def Settings.target (settings : Settings) (arch : Option Architecture) :
    Except Failure Architecture :=
  arch.elim (Architecture.ofName settings.architecture) .ok

/-- A module that is assembled went through all stages. -/
theorem stages_of_assembleWith {encoder : Encoder σ} {settings : Settings} {arch : Architecture}
    {name text : String} {start : Int} {bench later : Bench σ} {result : Assembled}
    (ran : (assembleWith encoder settings arch name text start).run bench = (.ok result, later)) :
    Nonempty (Stages encoder settings arch name text start bench result.patch) := by
  unfold assembleWith at ran
  obtain ⟨directives, read, ran⟩ := Work.run_ofReading_bind_ok ran
  obtain ⟨declarations, collected, ran⟩ := Work.run_ofReading_bind_ok ran
  obtain ⟨allocation, afterPlacing, placed, ran⟩ := ExceptT.run_bind_ok ran
  obtain ⟨routines, afterAssembling, assembled, ran⟩ := ExceptT.run_bind_ok ran
  obtain ⟨⟨linked, limit⟩, afterLinking, linking, ran⟩ := ExceptT.run_bind_ok ran
  have joined := (Routine.linkAll_ends encoder arch (some name) allocation.cursor routines
    afterAssembling).of_ok linking
  obtain ⟨patch, built, ran⟩ := Work.run_ofExcept_bind_ok ran
  cases ran
  exact ⟨{
    directives, declarations, allocation, routines, linked, limit
    afterPlacing, afterAssembling, afterLinking
    read, collected, placed, assembled, joined, built }⟩

theorem stages_of_assembleSource {encoder : Encoder σ} {settings : Settings}
    {arch : Option Architecture} {name text : String} {start : Int} {bench later : Bench σ}
    {patch : Patch}
    (ran : (assembleSource encoder settings arch name text start).run bench = (.ok patch, later)) :
    ∃ target, settings.target arch = .ok target ∧
      Nonempty (Stages encoder settings target name text start bench patch) := by
  cases arch with
  | some arch =>
      obtain ⟨target, middle, chosen, ran⟩ := ExceptT.run_bind_ok ran
      cases chosen
      obtain ⟨result, last, assembled, ran⟩ := ExceptT.run_bind_ok ran
      cases ran
      exact ⟨arch, rfl, stages_of_assembleWith assembled⟩
  | none =>
      obtain ⟨target, chosen, ran⟩ := Work.run_ofExcept_bind_ok ran
      obtain ⟨result, last, assembled, ran⟩ := ExceptT.run_bind_ok ran
      cases ran
      exact ⟨target, chosen, stages_of_assembleWith assembled⟩

/-! ## The layout -/

namespace Stages

variable {encoder : Encoder σ} {settings : Settings} {arch : Architecture} {name text : String}
  {start : Int} {bench : Bench σ} {patch : Patch}

def regions (stages : Stages encoder settings arch name text start bench patch) : List Region :=
  stages.allocation.vars.map Variable.region ++ stages.linked.filterMap Routine.region?

theorem progress (stages : Stages encoder settings arch name text start bench patch) :
    Allocation.Progress encoder start bench stages.afterPlacing
      (Declaration.placingOrder stages.declarations) stages.allocation :=
  ((Allocation.ofDeclarations_ends encoder (some name) start
    (Declaration.collect_faithful stages.collected) bench).of_ok stages.placed).2.2

theorem links (stages : Stages encoder settings arch name text start bench patch) :
    Routine.Links encoder arch stages.allocation.cursor stages.routines stages.afterAssembling
      stages.linked (.ok stages.limit) stages.afterLinking :=
  Routine.links_link encoder arch (some name) stages.joined

theorem completes (stages : Stages encoder settings arch name text start bench patch) :
    List.Forall₂ Routine.Completes stages.routines stages.linked :=
  stages.links.completes rfl

/-- The linked routines are those of the directives, in order. -/
theorem madeFor (stages : Stages encoder settings arch name text start bench patch) :
    List.Forall₂ Routine.MadeFor (stages.directives.filter (·.mode ≠ .append)) stages.linked :=
  Routine.forall₂_madeFor
    ((Routine.assembleAll_ends encoder arch _ _ _ _ _).of_ok stages.assembled) stages.completes

/-- Variables and hooks follow one another without gaps. -/
theorem tiles (stages : Stages encoder settings arch name text start bench patch) :
    Tiles start stages.regions stages.limit :=
  tiles_append.mpr ⟨stages.allocation.cursor, stages.progress.tiled, stages.links.tiles rfl⟩

/-- What is placed ends within the address space. -/
theorem limit_le (stages : Stages encoder settings arch name text start bench patch)
    (present : stages.allocation.vars ≠ [] ∨ ∃ routine ∈ stages.linked, routine.isHook = true) :
    stages.limit ≤ Number.addressLimit :=
  stages.links.limit_le rfl (present.imp_left stages.progress.within)

theorem patch_name (stages : Stages encoder settings arch name text start bench patch) :
    patch.name = name := by
  obtain ⟨writes, -, built⟩ := bind_ok stages.built
  exact congrArg Patch.name (Except.ok.inj built).symm

/-- What is built from the results of the stages. -/
theorem patch_eq (stages : Stages encoder settings arch name text start bench patch) :
    patch.base = settings.base ∧
      patch.blob = List.replicate headerSize 0 ++ stages.regions.flatMap (·.bytes) ∧
      patch.writes.map (·.location) = stages.linked.map (·.insertionPoint) := by
  obtain ⟨writes, found, built⟩ := bind_ok stages.built
  have same := (Except.ok.inj built).symm
  refine ⟨congrArg Patch.base same, ?_, ?_⟩
  · rw [congrArg Patch.blob same, regions, List.flatMap_append,
      Routine.flatMap_region (Routine.placed_of_completes stages.completes), List.flatMap_map,
      ← List.append_assoc]
    rfl
  · rw [congrArg Patch.writes same]
    refine (map_eq_of_forall₂ (forall₂_of_mapM_ok found) ?_).symm
    intro routine write made
    obtain ⟨value, -, same⟩ := bind_ok made
    cases same
    rfl

end Stages

/-- In the image made of an overlay and what is appended to it, every variable and every hook
stands at the address that it was given; together they fill the append region behind its header,
which ends no later than the address space. There is one write for each directive that is not
appended, at its address. -/
theorem assembleSource_layout (encoder : Encoder σ) (settings : Settings)
    (arch : Option Architecture) (name text : String) (overlay : List UInt8)
    {bench later : Bench σ} {patch : Patch}
    (ran : (assembleSource encoder settings arch name text
      (settings.startCursor overlay.length)).run bench = (.ok patch, later)) :
    ∃ target, settings.target arch = .ok target ∧
    ∃ stages : Stages encoder settings target name text (settings.startCursor overlay.length)
        bench patch,
      patch.blob.take 4 = [0, 0, 0, 0] ∧
      (∀ v ∈ stages.allocation.vars,
        v.region.LiesIn patch.base (overlay ++ patch.blob)) ∧
      (∀ routine ∈ stages.linked, routine.isHook = true →
        ∃ location, routine.placement = some location ∧
          Region.LiesIn patch.base (overlay ++ patch.blob) { location, bytes := routine.data }) ∧
      Tiles (settings.startCursor overlay.length) stages.regions stages.limit ∧
      (patch.blob.length : Int) = 4 + (stages.limit - settings.startCursor overlay.length) ∧
      (stages.allocation.vars ≠ [] ∨ (∃ routine ∈ stages.linked, routine.isHook = true) →
        stages.limit ≤ 2 ^ 32) ∧
      List.Forall₂ Routine.MadeFor (stages.directives.filter (·.mode ≠ .append)) stages.linked ∧
      patch.writes.map (some ·.location) =
        (stages.directives.filter (·.mode ≠ .append)).map (·.address?) := by
  obtain ⟨target, chosen, ⟨stages⟩⟩ := stages_of_assembleSource ran
  obtain ⟨base, blob, writes⟩ := stages.patch_eq
  have begins : settings.startCursor overlay.length =
      patch.base + (overlay ++ List.replicate headerSize 0).length := by
    rw [base, Settings.startCursor, List.length_append, List.length_replicate]
    push_cast
    omega
  have lies : ∀ region ∈ stages.regions, region.LiesIn patch.base (overlay ++ patch.blob) := by
    rw [blob, ← List.append_assoc]
    exact stages.tiles.liesIn begins
  refine ⟨target, chosen, stages, ?_, ?_, ?_, stages.tiles, ?_, stages.limit_le, stages.madeFor, ?_⟩
  · rw [blob]
    rfl
  · intro v member
    exact lies _ (List.mem_append_left _ (List.mem_map_of_mem member))
  · intro routine member moves
    obtain ⟨location, -, placed, -⟩ :=
      Routine.placed_of_completes stages.completes routine member moves
    refine ⟨location, placed, lies _ (List.mem_append_right _ ?_)⟩
    exact List.mem_filterMap.mpr ⟨routine, member, by simp [Routine.region?, moves, placed]⟩
  · rw [stages.tiles.stop_eq, blob, List.length_append, List.length_replicate, headerSize]
    push_cast
    omega
  · rw [map_eq_of_forall₂ stages.madeFor fun _ _ made => made.2.symm]
    simpa [Function.comp_def] using congrArg (List.map some) writes

def sampleText : String :=
  "aappend_00000000:\nb: [a]\na: 7\narepl_020C7700:\nnop\nahook_020C7710:\nldr r0, =b \n"

/-- The module assembled for an overlay of two bytes. -/
def sampleRun : Except Failure Patch × Bench Unit :=
  (assembleSource (.constant [1, 2, 3, 4]) {} none "menu" sampleText
    (Settings.startCursor {} [9, 9].length)).run { state := () }

/-- Two variables and a hook behind an overlay of two bytes. -/
theorem assembleSource_layout_sample :
    ∃ patch, sampleRun.1 = .ok patch ∧ patch.blob.take 4 = [0, 0, 0, 0] ∧
      patch.blob.length = 16 ∧ ∃ regions : List Region,
        Tiles (Settings.startCursor {} 2) regions (Settings.startCursor {} 2 + 12) := by
  have length : sampleRun.1.map (·.blob.length) = .ok 16 := by decide +kernel
  obtain ⟨patch, finished, long⟩ := map_ok length
  have ran := (Prod.eta sampleRun).symm
  rw [finished] at ran
  obtain ⟨target, -, stages, header, -, -, tiles, filled, -⟩ :=
    assembleSource_layout (.constant [1, 2, 3, 4]) {} none "menu" sampleText [9, 9] ran
  have limit : stages.limit = Settings.startCursor {} 2 + 12 := by
    have same : (patch.blob.length : Int) = 4 + (stages.limit - Settings.startCursor {} 2) := filled
    omega
  exact ⟨patch, finished, header, long.symm, stages.regions, limit ▸ tiles⟩

end OverlayPatch
