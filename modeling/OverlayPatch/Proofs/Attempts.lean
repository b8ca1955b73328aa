import OverlayPatch.Proofs.Directives
import OverlayPatch.Proofs.Independence
import OverlayPatch.Proofs.Layout
import OverlayPatch.Proofs.Writing

/-!
# Batches with any encoder

A batch gives the outcomes of all its attempts, or it ends with the first failure among them
(`Batch.combined_cases`). For ARM such a failure is never about the module: there was no encoder to
be had, or it broke down (`attempt_eq_error`).

Of the numbers that stand in a document only the load address can have any size, since the places
of writes are read off eight digits. So it alone decides whether the document can be written
(`exists_write_iff`).
-/

namespace OverlayPatch

set_option autoImplicit false

variable {σ : Type} {workshop : Workshop σ} {settings : Settings} {tree : FileTree}
  {sources overlays source : Path} {found : List Path}

namespace Batch

/-! ## Attempts -/

theorem keep_eq_error {failure other : Failure} :
    keep failure = .error other ↔ failure = other ∧ ∀ fault, other ≠ .fault fault := by
  cases failure with
  | fault fault => simp +contextual [keep, eq_comm]
  | _ => simp +contextual [keep, eq_comm]

theorem settle_eq_error {file : SourceFile} {come : Except Failure Patch} {failure : Failure} :
    settle file come = .error failure ↔
      come = .error failure ∧ ∀ fault, failure ≠ .fault fault := by
  cases come with
  | ok patch => simp [settle]
  | error other =>
      cases other with
      | fault fault => simp +contextual [settle, eq_comm]
      | _ => simp +contextual [settle, eq_comm]

/-- All attempts come to an outcome, or one of them fails and with it the batch. -/
theorem combined_cases (workshop : Workshop σ)
    (arm : Architecture.ofName settings.architecture = .ok .arm) (overlays : Path)
    (globbed : Glob.files tree settings.sourcePattern sources = .ok found) :
    (∃ outcomes : List (Path × ModuleOutcome),
      combined workshop tree settings sources overlays = .ok (gather outcomes) ∧
      outcomes.map Prod.fst = found ∧
      ∀ item ∈ outcomes, attempt workshop tree settings overlays item.1 = .ok item.2) ∨
    ∃ source ∈ found, ∃ failure,
      combined workshop tree settings sources overlays = .error failure ∧
      attempt workshop tree settings overlays source = .error failure := by
  rw [combined_eq arm globbed]
  cases all : found.mapM (attempt workshop tree settings overlays) with
  | ok come => exact .inl ⟨found.zip come, rfl, attempts_zip all⟩
  | error failure =>
      obtain ⟨source, member, failed⟩ := exists_of_mapM_error all
      exact .inr ⟨source, member, failure, rfl, failed⟩

/-- A module is assembled only with an encoder that could be had. -/
theorem attempt_eq_ok {patch : Patch}
    (assembled : attempt workshop tree settings overlays source = .ok (.ok patch)) :
    ∃ state, workshop.fresh = .ok state ∧
      alone workshop.encoder state tree settings overlays source = .ok (.ok patch) := by
  cases loaded : SourceFile.load tree settings source overlays with
  | error fault => simp [attempt, loaded] at assembled
  | ok file =>
      cases fresh : workshop.fresh with
      | error failure =>
          simp only [attempt, loaded, fresh] at assembled
          cases failure <;> cases assembled
      | ok state =>
          simp only [attempt, loaded, fresh] at assembled
          exact ⟨state, rfl, assembled⟩

/-- An attempt fails as a whole only by the workshop: it has no encoder, or the encoder breaks
down. -/
theorem attempt_eq_error (arm : Architecture.ofName settings.architecture = .ok .arm)
    {failure : Failure} (failed : attempt workshop tree settings overlays source = .error failure) :
    ∃ file, SourceFile.load tree settings source overlays = .ok file ∧
      ((workshop.fresh = .error failure ∧ ∀ fault, failure ≠ .fault fault) ∨
        ∃ state breakdown, workshop.fresh = .ok state ∧ failure = .crash breakdown ∧
          workshop.encoder.Fails failure ∧
          ((assembleSource workshop.encoder settings none file.name file.text file.start).run
            { state }).1 = .error failure) := by
  cases loaded : SourceFile.load tree settings source overlays with
  | error fault => simp [attempt, loaded] at failed
  | ok file =>
      refine ⟨file, rfl, ?_⟩
      cases fresh : workshop.fresh with
      | error other =>
          simp only [attempt, loaded, fresh] at failed
          obtain ⟨rfl, notFault⟩ := keep_eq_error.mp failed
          exact .inl ⟨rfl, notFault⟩
      | ok state =>
          simp only [attempt, loaded, fresh, alone] at failed
          obtain ⟨ran, notFault⟩ := settle_eq_error.mp failed
          have accounts : workshop.encoder.Accounts failure := by
            have broke := ran
            rw [run_assembleSource arm] at broke
            have ends := assembleWith_accounted workshop.encoder settings file.name file.text
              file.start { state := state }
            rcases ends.cases with ⟨assembled, later, done, -⟩ | ⟨other, later, done, here⟩
            · rw [done] at broke
              cases broke
            · rw [done] at broke
              cases broke
              exact here
          rcases accounts with ⟨fault, rfl, -⟩ | fails
          · exact absurd rfl (notFault fault)
          · cases fails with
            | rejected answer same => exact absurd rfl (notFault _)
            | crashed answer =>
                exact .inr ⟨state, _, rfl, rfl, .crashed answer, ran⟩

end Batch

/-! ## The numbers of the document -/

/-- The addresses of directives are those that eight digits can spell. -/
theorem Directive.address_bounds {origin text : String} {directives : List Directive}
    (read : readAll origin text = .ok directives) {directive : Directive}
    (member : directive ∈ directives) {n : Int} (placed : directive.address? = some n) :
    0 ≤ n ∧ n < Number.addressLimit := by
  obtain ⟨-, -, rfl⟩ := readAll_eq_ok.mp read
  obtain ⟨⟨header, body⟩, inside, rfl⟩ := List.mem_map.mp member
  have cuts := (Text.scan_eq_iff Header.literal_pattern.covers).mp
    (rfl : Text.scan Header.pattern (Text.foldNewlines text.toList) = _)
  have listed : header ∈ Text.finds (Text.scan Header.pattern (Text.foldNewlines text.toList)) := by
    rw [← Text.map_fst_sections]
    exact List.mem_map_of_mem inside
  obtain ⟨_, _, _, found⟩ := cuts.found listed
  have headed := headedBy_ofSection (Header.pattern_eq_some.mp found).1 body
  obtain ⟨low, high, -⟩ := headed.spelled.address n placed
  exact ⟨low, high⟩

/-- An assembled patch has the load address of the settings, and its writes lie in the address
space. -/
theorem Stages.numbers_cases {encoder : Encoder σ} {arch : Architecture} {name text : String}
    {start : Int} {bench : Bench σ} {patch : Patch}
    (stages : Stages encoder settings arch name text start bench patch) :
    ∀ n ∈ Document.patchNumbers patch, n = settings.base ∨ Document.Short n := by
  obtain ⟨base, -, locations⟩ := stages.patch_eq
  rw [Document.patchNumbers, locations, base, List.forall_mem_cons, List.forall_mem_map]
  refine ⟨.inl rfl, fun routine member => .inr ?_⟩
  obtain ⟨directive, listed, -, placed⟩ := exists_of_forall₂ stages.madeFor member
  obtain ⟨low, high⟩ := Directive.address_bounds stages.read (List.mem_filter.mp listed).1
    placed.symm
  have small : routine.insertionPoint.natAbs < 10 ^ 10 := by
    rw [Number.addressLimit] at high
    omega
  exact small.trans_le (Nat.pow_le_pow_right (by decide) (by decide))

namespace Batch

theorem mem_patches {outcomes : List (Path × ModuleOutcome)} {patch : Patch} :
    patch ∈ patches outcomes ↔ ∃ source, (source, .ok patch) ∈ outcomes := by
  simp only [patches, List.mem_filterMap]
  constructor
  · rintro ⟨⟨source, fault | assembled⟩, member, kept⟩
    · cases kept
    · cases kept
      exact ⟨source, member⟩
  · rintro ⟨source, member⟩
    exact ⟨_, member, rfl⟩

/-- The report holds just the modules at fault, with the fault of each. -/
theorem mem_failures_gather {outcomes : List (Path × ModuleOutcome)} {failure : ModuleFailure} :
    failure ∈ (gather outcomes).report.failures ↔
      ∃ fault, (failure.path, .error fault) ∈ outcomes ∧ failure.error = .fault fault := by
  simp only [gather, failures, List.mem_map, List.mem_filterMap]
  constructor
  · rintro ⟨⟨path, fault⟩, ⟨⟨source, found | patch⟩, member, kept⟩, rfl⟩
    · cases kept
      exact ⟨fault, member, rfl⟩
    · cases kept
  · obtain ⟨path, error⟩ := failure
    rintro ⟨fault, member, rfl⟩
    exact ⟨(path, fault), ⟨_, member, rfl⟩, rfl⟩

theorem exists_error_of_not_ok {outcomes : List (Path × ModuleOutcome)}
    (failed : (gather outcomes).ok = false) :
    ∃ item ∈ outcomes, ∃ fault, item.2 = .error fault := by
  by_contra none
  have fine : (gather outcomes).ok = true := by
    refine (ok_gather_iff outcomes).mpr fun item member => ?_
    cases here : item.2 with
    | error fault => exact absurd ⟨item, member, fault, here⟩ none
    | ok patch => exact ⟨patch, rfl⟩
  rw [fine] at failed
  cases failed

/-- The document of a batch can be written unless it holds patches and the load address is too wide
for them. -/
theorem exists_write_iff {outcomes : List (Path × ModuleOutcome)}
    (each : ∀ item ∈ outcomes, attempt workshop tree settings overlays item.1 = .ok item.2) :
    (∃ text, (gather outcomes).document.write = .ok text) ↔
      patches outcomes = [] ∨ Document.Short settings.base := by
  have stages : ∀ patch ∈ patches outcomes,
      patch.base = settings.base ∧
        ∀ n ∈ Document.patchNumbers patch, n = settings.base ∨ Document.Short n := by
    intro patch kept
    obtain ⟨source, listed⟩ := mem_patches.mp kept
    obtain ⟨state, -, assembled⟩ := attempt_eq_ok (each _ listed)
    obtain ⟨file, -, ran⟩ := alone_eq_ok.mp assembled
    obtain ⟨target, -, ⟨stages⟩⟩ := stages_of_assembleSource (Prod.ext ran rfl)
    exact ⟨stages.patch_eq.1, stages.numbers_cases⟩
  constructor
  · rintro ⟨text, written⟩
    have short := Document.short_of_write written
    rcases List.eq_nil_or_concat' (patches outcomes) with empty | ⟨front, patch, split⟩
    · exact .inl empty
    · have kept : patch ∈ patches outcomes := by simp [split]
      refine .inr ((stages patch kept).1 ▸ short _ ?_)
      exact List.mem_flatMap.mpr ⟨patch, kept, List.mem_cons_self⟩
  · intro narrow
    have short : ∀ n ∈ (gather outcomes).document.numbers, Document.Short n := by
      intro n member
      obtain ⟨patch, kept, number⟩ := List.mem_flatMap.mp member
      rcases narrow with empty | short
      · change patch ∈ patches outcomes at kept
        simp [empty] at kept
      · rcases (stages patch kept).2 n number with rfl | small
        · exact short
        · exact small
    exact ⟨_, Document.write_of_short short⟩

end Batch

end OverlayPatch
