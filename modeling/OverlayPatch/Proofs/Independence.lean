import OverlayPatch.Proofs.Batch
import OverlayPatch.Proofs.Sources

/-!
# Modules of a batch do not affect each other

`Batch.alone` reads and assembles one module without a batch, and a batch gets the same outcome for
it (`assembleModule_gives`). So the modules may be taken up in any order (`takeUp_done`), and an
outcome depends on the tree only through the module's source and its overlay (`alone_congr`).
`assembleDirectory_independent` puts this together and says what is left when the modules at fault
are deleted: the same document, provided that none of the deleted sources served another module as
its overlay. Without the proviso it fails (`overlay_deleted_with_source`).
-/

namespace OverlayPatch

set_option autoImplicit false

variable {σ : Type} {encoder : Encoder σ} {state : σ} {settings : Settings}
  {tree : FileTree} {sources overlays : Path} {found : List Path}

/-! ## A module on its own -/

/-- A module is read if its overlay is there and its source is a file in UTF-8. -/
theorem SourceFile.load_eq_ok {source : Path} {file : SourceFile} :
    load tree settings source overlays = .ok file ↔
      ∃ node data cs, tree.lookup (overlayPath settings source overlays) = .ok node ∧
        tree.lookup source = .ok (.file data) ∧ Text.Utf8.decode data = .ok cs ∧
        { name := source.stem, path := source
          text := String.ofList (Text.universalNewlines cs)
          start := settings.startCursor node.size } = file := by
  simp only [load, overlaySize, readText, FileTree.read]
  cases tree.lookup (overlayPath settings source overlays) with
  | error problem => simp [bind, Except.bind]
  | ok node =>
      cases tree.lookup source with
      | error problem => simp [bind, Except.bind]
      | ok place =>
          cases place with
          | directory => simp [bind, Except.bind]
          | file data =>
              cases decoded : Text.Utf8.decode data with
              | error reason => simp [bind, Except.bind, decoded]
              | ok cs => simp [bind, Except.bind, pure, Except.pure, decoded]

namespace Batch

open ExceptT

theorem alone_eq_ok {source : Path} {patch : Patch} :
    alone encoder state tree settings overlays source = .ok (.ok patch) ↔
      ∃ file, SourceFile.load tree settings source overlays = .ok file ∧
        ((assembleSource encoder settings none file.name file.text file.start).run
          { state }).1 = .ok patch := by
  unfold alone
  cases SourceFile.load tree settings source overlays with
  | error fault => simp
  | ok file =>
      simp only [Except.ok.injEq, exists_eq_left']
      rcases ((assembleSource encoder settings none file.name file.text file.start).run
        { state }).1 with failure | patch
      · cases failure <;> simp [settle]
      · simp [settle]

/-- A module's outcome hangs on its source and its overlay alone. -/
theorem alone_congr (encoder : Encoder σ) (state : σ) {other : FileTree} {source : Path}
    (text : other.lookup source = tree.lookup source)
    (overlay : other.lookup (overlayPath settings source overlays) =
      tree.lookup (overlayPath settings source overlays)) :
    alone encoder state other settings overlays source =
      alone encoder state tree settings overlays source := by
  have same : SourceFile.load other settings source overlays =
      SourceFile.load tree settings source overlays := by
    simp only [SourceFile.load, SourceFile.overlaySize, SourceFile.readText, FileTree.read, text,
      overlay]
  rw [alone, alone, same]

/-- Two paths to one file come to the same patch. -/
theorem alone_of_locate_eq (consistent : tree.Consistent) {source other : Path} {patch : Patch}
    (same : tree.locate other = tree.locate source)
    (assembled : alone encoder state tree settings overlays source = .ok (.ok patch)) :
    alone encoder state tree settings overlays other = .ok (.ok patch) := by
  obtain ⟨file, loaded, ran⟩ := alone_eq_ok.mp assembled
  obtain ⟨node, data, cs, overlay, read, decoded, rfl⟩ := SourceFile.load_eq_ok.mp loaded
  obtain ⟨place, leads, there⟩ := FileTree.lookup_eq_ok.mp read
  have names : other.name = source.name :=
    (consistent.name_of_locate (same.trans leads) there).trans
      (consistent.name_of_locate leads there).symm
  have stems : other.stem = source.stem := by rw [Path.stem, Path.stem, names]
  have overlay' : tree.lookup (overlayPath settings other overlays) = .ok node := by
    rw [overlayPath, stems]
    exact overlay
  have read' : tree.lookup other = .ok (.file data) :=
    FileTree.lookup_eq_ok.mpr ⟨place, same.trans leads, there⟩
  have loaded' := SourceFile.load_eq_ok.mpr ⟨node, data, cs, overlay', read', decoded, rfl⟩
  refine alone_eq_ok.mpr ⟨_, loaded', ?_⟩
  rw [stems]
  exact ran

/-! ## Any order -/

variable {outcome : Path → ModuleOutcome}

/-- Takes up modules in some order and keeps what comes of each. -/
def takeUp (workshop : Workshop σ) (tree : FileTree) (settings : Settings) (arch : Architecture)
    (overlays : Path) (order : List Path) : BatchWork (List (Path × ModuleOutcome)) :=
  order.mapM fun source => do
    let outcome ← assembleModule workshop tree settings arch overlays source
    return (source, outcome)

/-- What came of the sources, in their order and not in the order they were taken up in. -/
def inOrder (found : List Path) (done : List (Path × ModuleOutcome)) :
    List (Path × ModuleOutcome) :=
  found.filterMap fun source => (done.lookup source).map (source, ·)

/-- In any order every module comes to what it is on its own. -/
theorem takeUp_done (arm : Architecture.ofName settings.architecture = .ok .arm)
    (known : ∀ source, alone encoder state tree settings overlays source = .ok (outcome source))
    (order : List Path) :
    (takeUp { encoder, fresh := .ok state } tree settings .arm overlays order).Gives
      (.ok (order.map fun source => (source, outcome source))) := by
  have each : ∀ source, (do
      let outcome ←
        assembleModule { encoder, fresh := .ok state } tree settings .arm overlays source
      return (source, outcome) : BatchWork (Path × ModuleOutcome)).Gives
        (.ok (source, outcome source)) := by
    intro source
    have gives := assembleModule_gives { encoder, fresh := .ok state } tree arm overlays source
    rw [attempt_of_fresh rfl, known] at gives
    exact gives_bind_ok gives (gives_pure _)
  have gives := gives_mapM each order
  rw [mapM_ok_map fun _ _ => rfl] at gives
  exact gives

theorem lookup_map {order : List Path} {source : Path} (member : source ∈ order) :
    (order.map fun source => (source, outcome source)).lookup source = some (outcome source) := by
  induction order with
  | nil => cases member
  | cons first order ih =>
      rw [List.map_cons, List.lookup_cons]
      by_cases same : source = first
      · simp [same]
      · rw [beq_false_of_ne same]
        exact ih ((List.mem_cons.mp member).resolve_left same)

theorem inOrder_map {order : List Path} (all : order.Perm found) :
    inOrder found (order.map fun source => (source, outcome source)) =
      found.map fun source => (source, outcome source) := by
  have each : ∀ source ∈ found,
      ((order.map fun source => (source, outcome source)).lookup source).map (source, ·) =
        some (source, outcome source) := by
    intro source member
    rw [lookup_map (all.mem_iff.mpr member), Option.map_some]
  rw [inOrder, List.filterMap_congr each]
  exact congrFun List.filterMap_eq_map found

/-- A batch gives what its modules come to on their own. -/
theorem assembleDirectory_gather (arm : Architecture.ofName settings.architecture = .ok .arm)
    (globbed : Glob.files tree settings.sourcePattern sources = .ok found)
    (known : ∀ source, alone encoder state tree settings overlays source = .ok (outcome source)) :
    (assembleDirectory { encoder, fresh := .ok state } tree settings sources overlays).Gives
      (.ok (gather (found.map fun source => (source, outcome source)))) := by
  have all : found.mapM (attempt { encoder, fresh := .ok state } tree settings overlays) =
      .ok (found.map outcome) :=
    mapM_ok_map fun source _ => (attempt_of_fresh rfl).trans (known source)
  have zipped : found.zip (found.map outcome) =
      found.map fun source => (source, outcome source) := by
    have both := List.zip_map' (f := id) (g := outcome) (l := found)
    rwa [List.map_id] at both
  have gives := assembleDirectory_gives { encoder, fresh := .ok state } tree settings sources
    overlays
  rwa [combined_eq arm globbed, all, Except.map, zipped] at gives

/-! ## The result of a batch -/

/-- A batch over a tree, its sources, what comes of each of them and the result. -/
structure Yields (encoder : Encoder σ) (state : σ) (settings : Settings) (sources overlays : Path)
    (tree : FileTree) (found : List Path) (outcome : Path → ModuleOutcome)
    (result : BatchResult) : Prop where
  globbed : Glob.files tree settings.sourcePattern sources = .ok found
  /-- The sources come in the order of their paths, each once. -/
  sorted : found.Pairwise (fun a b => a.le b = true) ∧ found.Nodup
  /-- Each module has the outcome that it has on its own. -/
  alone : ∀ source, alone encoder state tree settings overlays source = .ok (outcome source)
  /-- Patches and failures come in the order of the sources. -/
  patches : result.document.patches = found.filterMap fun source => (outcome source).toOption
  failures : result.report.failures = found.filterMap fun source =>
    match outcome source with
    | .ok _ => none
    | .error fault => some { path := source, error := .fault fault }
  counted : result.document.patches.length + result.report.failures.length = found.length
  ok : result.ok = true ↔ ∀ source ∈ found, ∃ patch, outcome source = .ok patch
  /-- This is what a batch gives, however many modules are assembled at a time. -/
  runs : ∀ jobs trail, ((assembleDirectory { encoder, fresh := .ok state } tree
    { settings with jobs } sources overlays).run trail).1 = .ok result
  /-- The order in which modules are taken up does not show. -/
  anyOrder : ∀ order, order.Perm found → ∀ trail, ∃ done,
    ((takeUp { encoder, fresh := .ok state } tree settings .arm overlays order).run trail).1 =
      .ok done ∧ gather (inOrder found done) = result

theorem failures_gather (found : List Path) :
    (gather (found.map fun source => (source, outcome source))).report.failures =
      found.filterMap fun source =>
        match outcome source with
        | .ok _ => none
        | .error fault => some { path := source, error := .fault fault } := by
  simp only [gather, Batch.failures, List.filterMap_map, List.map_filterMap]
  refine List.filterMap_congr fun source _ => ?_
  simp only [Function.comp_apply]
  cases outcome source <;> rfl

theorem ok_gather_iff (outcomes : List (Path × ModuleOutcome)) :
    (gather outcomes).ok = true ↔ ∀ item ∈ outcomes, ∃ patch, item.2 = .ok patch := by
  rw [BatchResult.ok, Report.hasFailures, Bool.not_not, List.isEmpty_iff, gather,
    List.map_eq_nil_iff, failures, List.filterMap_eq_nil_iff]
  refine forall₂_congr fun item _ => ?_
  obtain ⟨source, fault | patch⟩ := item <;> simp

theorem ok_gather (found : List Path) :
    (gather (found.map fun source => (source, outcome source))).ok = true ↔
      ∀ source ∈ found, ∃ patch, outcome source = .ok patch := by
  rw [ok_gather_iff, List.forall_mem_map]

/-- All that is said of a batch, of the result that gathers the outcomes. -/
theorem yields_gather (arm : Architecture.ofName settings.architecture = .ok .arm)
    (globbed : Glob.files tree settings.sourcePattern sources = .ok found)
    (known : ∀ source, Batch.alone encoder state tree settings overlays source =
      .ok (outcome source)) :
    Yields encoder state settings sources overlays tree found outcome
      (gather (found.map fun source => (source, outcome source))) where
  globbed := globbed
  sorted := Glob.files_sorted globbed
  alone := known
  patches := by simp [gather, Batch.patches, List.filterMap_map]
  failures := failures_gather found
  counted := by
    have total := length_patches_failures (found.map fun source => (source, outcome source))
    simpa [gather] using total
  ok := ok_gather found
  runs jobs trail := by
    rw [assembleDirectory_jobs _ jobs trail trail]
    exact assembleDirectory_gather arm globbed known trail
  anyOrder order all trail := ⟨_, takeUp_done arm known order trail, by rw [inOrder_map all]⟩

/-- Every batch whose sources can be found yields a result. -/
theorem exists_yields (rejects : encoder.OnlyRejects) (state : σ)
    (arm : Architecture.ofName settings.architecture = .ok .arm) (overlays : Path)
    (globbed : Glob.files tree settings.sourcePattern sources = .ok found) :
    ∃ outcome result,
      Yields encoder state settings sources overlays tree found outcome result := by
  obtain ⟨outcome, known⟩ := Classical.skolem.mp (exists_alone rejects state arm tree overlays)
  exact ⟨outcome, _, yields_gather arm globbed known⟩

/-! ## Deleting the modules at fault -/

variable {result : BatchResult}

def faulty (tree : FileTree) (result : BatchResult) : List Location :=
  result.report.failures.filterMap fun failure => (tree.locate failure.path).toOption

theorem mem_faulty {place : Location} :
    place ∈ faulty tree result ↔
      ∃ failure ∈ result.report.failures, tree.locate failure.path = .ok place := by
  simp only [faulty, List.mem_filterMap]
  refine exists_congr fun failure => and_congr_right fun _ => ?_
  cases tree.locate failure.path <;> simp [Except.toOption]

theorem avoids_faulty_of_ne {path : Path}
    (apart : ∀ failure ∈ result.report.failures, tree.locate path ≠ tree.locate failure.path) :
    tree.avoids (faulty tree result) path = true := by
  cases leads : tree.locate path with
  | error problem => rw [FileTree.avoids, leads]
  | ok place =>
      rw [FileTree.avoids_of_locate leads, mem_faulty]
      rintro ⟨failure, failed, leads'⟩
      exact apart failure failed (leads.trans leads'.symm)

theorem Yields.mem_failures
    (yields : Yields encoder state settings sources overlays tree found outcome result)
    {failure : ModuleFailure} :
    failure ∈ result.report.failures ↔
      failure.path ∈ found ∧ ∃ fault, outcome failure.path = .error fault ∧
        failure.error = .fault fault := by
  rw [yields.failures, List.mem_filterMap]
  constructor
  · rintro ⟨source, member, kept⟩
    cases here : outcome source with
    | ok patch => simp [here] at kept
    | error fault =>
        simp only [here, Option.some.injEq] at kept
        exact kept ▸ ⟨member, fault, here, rfl⟩
  · obtain ⟨path, error⟩ := failure
    rintro ⟨member, fault, here, rfl⟩
    refine ⟨path, member, ?_⟩
    dsimp only at here
    rw [here]

/-- Just the modules at fault are deleted with their sources. -/
theorem Yields.avoids_faulty
    (yields : Yields encoder state settings sources overlays tree found outcome result)
    (consistent : tree.Consistent) {source : Path} (member : source ∈ found) :
    tree.avoids (faulty tree result) source = (outcome source).isOk := by
  obtain ⟨data, read⟩ := FileTree.isFile_iff.mp (Glob.isFile_of_mem_files yields.globbed member)
  obtain ⟨place, leads, -⟩ := FileTree.lookup_eq_ok.mp read
  rw [Bool.eq_iff_iff, FileTree.avoids_of_locate leads, mem_faulty]
  cases here : outcome source with
  | error fault =>
      simp only [Except.isOk, Except.toBool, Bool.false_eq_true, iff_false, not_not]
      exact ⟨{ path := source, error := .fault fault },
        yields.mem_failures.mpr ⟨member, fault, here, rfl⟩, leads⟩
  | ok patch =>
      simp only [Except.isOk, Except.toBool, iff_true]
      rintro ⟨failure, failed, leads'⟩
      obtain ⟨-, fault, there, -⟩ := yields.mem_failures.mp failed
      have same := alone_of_locate_eq consistent (leads'.trans leads.symm)
        ((yields.alone source).trans (congrArg _ here))
      rw [yields.alone, there] at same
      cases same

/-- A module that was assembled still is when files apart from its source and its overlay are
gone. -/
theorem alone_delete (consistent : tree.Consistent) {gone : List Location} {source : Path}
    {patch : Patch} (assembled : Batch.alone encoder state tree settings overlays source =
      .ok (.ok patch))
    (stays : tree.avoids gone source = true)
    (stays' : tree.avoids gone (overlayPath settings source overlays) = true) :
    Batch.alone encoder state (tree.delete gone) settings overlays source = .ok (.ok patch) := by
  obtain ⟨file, loaded, -⟩ := alone_eq_ok.mp assembled
  obtain ⟨node, data, cs, overlay, read, -⟩ := SourceFile.load_eq_ok.mp loaded
  rw [← assembled]
  apply alone_congr
  · rw [read, consistent.lookup_delete]
    exact ⟨read, .inr stays⟩
  · rw [overlay, consistent.lookup_delete]
    exact ⟨overlay, .inr stays'⟩

/-- Without the modules at fault a batch has the same document. -/
theorem Yields.delete_faulty (rejects : encoder.OnlyRejects)
    (arm : Architecture.ofName settings.architecture = .ok .arm)
    (yields : Yields encoder state settings sources overlays tree found outcome result)
    (consistent : tree.Consistent)
    (apart : ∀ source ∈ found, (outcome source).isOk = true →
      ∀ failure ∈ result.report.failures,
        tree.locate (overlayPath settings source overlays) ≠ tree.locate failure.path) :
    ∃ outcome' rest, Yields encoder state settings sources overlays
        (tree.delete (faulty tree result)) (found.filter fun source => (outcome source).isOk)
        outcome' rest ∧
      rest.document = result.document ∧ rest.ok = true := by
  have globbed := Glob.files_delete consistent (faulty tree result) yields.globbed
  rw [List.filter_congr fun source member => yields.avoids_faulty consistent member] at globbed
  obtain ⟨outcome', rest, yields'⟩ := exists_yields rejects state arm overlays globbed
  have same : ∀ source ∈ found, ∀ patch, outcome source = .ok patch →
      outcome' source = .ok patch := by
    intro source member patch here
    have good : (outcome source).isOk = true := by rw [here]; rfl
    have left := alone_delete consistent ((yields.alone source).trans (congrArg _ here))
      ((yields.avoids_faulty consistent member).trans good)
      (avoids_faulty_of_ne (apart source member good))
    exact Except.ok.inj ((yields'.alone source).symm.trans left)
  refine ⟨outcome', rest, yields', ?_, yields'.ok.mpr ?_⟩
  · have patches : rest.document.patches = result.document.patches := by
      rw [yields'.patches, yields.patches, List.filterMap_filter]
      refine List.filterMap_congr fun source member => ?_
      cases here : outcome source with
      | error fault => rfl
      | ok patch => rw [same source member patch here]; rfl
    exact congrArg Document.mk patches
  · intro source member
    obtain ⟨member, good⟩ := List.mem_filter.mp member
    cases here : outcome source with
    | error fault => rw [here] at good; cases good
    | ok patch => exact ⟨patch, same source member patch here⟩

theorem Yields.length_patches
    (yields : Yields encoder state settings sources overlays tree found outcome result) :
    result.document.patches.length = found.countP fun source => (outcome source).isOk := by
  rw [yields.patches, List.length_filterMap_eq_countP]
  refine List.countP_congr fun source _ => ?_
  cases outcome source <;> rfl

theorem Yields.isOk_eq
    (yields : Yields encoder state settings sources overlays tree found outcome result)
    {source : Path} {good : Bool}
    (known : (Batch.alone encoder state tree settings overlays source).toOption.map (·.isOk) =
      some good) : (outcome source).isOk = good := by
  rw [yields.alone] at known
  exact Option.some.inj known

theorem onlyRejects_constant (data : List UInt8) : (Encoder.constant data).OnlyRejects :=
  fun _ _ => .inl ⟨data, [], rfl⟩

/-- For ARM and encoders that only reject, a batch gives each source the outcome it has on its own:
two trees that agree on a module's source and overlay agree on its outcome. When the sources of the
modules at fault are deleted, the document stays as it is, provided that none of them is the overlay
of a module that was assembled. -/
theorem assembleDirectory_independent (rejects : encoder.OnlyRejects) (state : σ)
    (arm : Architecture.ofName settings.architecture = .ok .arm) (overlays : Path)
    (globbed : Glob.files tree settings.sourcePattern sources = .ok found) :
    ∃ outcome result,
      Yields encoder state settings sources overlays tree found outcome result ∧
      (∀ other found' outcome' result',
        Yields encoder state settings sources overlays other found' outcome' result' →
        ∀ source, other.lookup source = tree.lookup source →
          other.lookup (overlayPath settings source overlays) =
            tree.lookup (overlayPath settings source overlays) →
          outcome' source = outcome source) ∧
      (tree.Consistent →
        (∀ source ∈ found, (outcome source).isOk = true → ∀ failure ∈ result.report.failures,
          tree.locate (overlayPath settings source overlays) ≠ tree.locate failure.path) →
        ∃ outcome' rest, Yields encoder state settings sources overlays
            (tree.delete (faulty tree result)) (found.filter fun source => (outcome source).isOk)
            outcome' rest ∧
          rest.document = result.document ∧ rest.ok = true) := by
  obtain ⟨outcome, result, yields⟩ := exists_yields rejects state arm overlays globbed
  refine ⟨outcome, result, yields, ?_, yields.delete_faulty rejects arm⟩
  intro other found' outcome' result' yields' source text overlay
  have same := alone_congr encoder state text overlay
  rw [yields'.alone, yields.alone] at same
  exact Except.ok.inj same

/-- The module at fault is deleted, and its overlay stays behind. -/
theorem assembleDirectory_independent_halfGood :
    ∃ outcome result, Yields (.constant [0]) () {} sampleSources sampleOverlays halfGood
        [sampleSources.child "bad.s", sampleSources.child "good.s"] outcome result ∧
      result.document.patches.length = 1 ∧ result.report.failures.length = 1 ∧
      ∃ outcome' rest, Yields (.constant [0]) () {} sampleSources sampleOverlays
          (halfGood.delete (faulty halfGood result)) [sampleSources.child "good.s"]
          outcome' rest ∧
        rest.document = result.document ∧ rest.ok = true := by
  have arm : Architecture.ofName ({} : Settings).architecture = .ok .arm := by decide
  have consistent : halfGood.Consistent := ⟨by decide +kernel, by decide +kernel⟩
  obtain ⟨outcome, result, yields, -, left⟩ := assembleDirectory_independent
    (onlyRejects_constant [0]) () arm sampleOverlays files_halfGood
  have bad : (outcome (sampleSources.child "bad.s")).isOk = false :=
    yields.isOk_eq (by decide +kernel)
  have good : (outcome (sampleSources.child "good.s")).isOk = true :=
    yields.isOk_eq (by decide +kernel)
  have patches : result.document.patches.length = 1 := by
    rw [yields.length_patches]
    simp [bad, good]
  -- The overlays lie in another directory than the sources.
  have apart : ∀ source ∈ [sampleSources.child "bad.s", sampleSources.child "good.s"],
      ∀ other ∈ [sampleSources.child "bad.s", sampleSources.child "good.s"],
      (halfGood.locate (overlayPath {} source sampleOverlays)).toOption ≠
        (halfGood.locate other).toOption := by decide +kernel
  obtain ⟨outcome', rest, yields', same, fine⟩ := left consistent
    fun source member _ failure failed equal =>
      apart source member failure.path (yields.mem_failures.mp failed).1
        (congrArg Except.toOption equal)
  refine ⟨outcome, result, yields, patches, ?_, outcome', rest, ?_, same, fine⟩
  · have counted := yields.counted
    simpa [patches, Nat.add_comm] using counted
  · simpa [bad, good] using yields'

def wholeDirectory : Settings where
  sourcePattern := "*"

/-- A module whose overlay lies beside its source. -/
def selfServing : FileTree where
  files := [(["src", "m.bin"], []), (["src", "m.s"], "arepl_020C8000:\nnop\n".toUTF8.toList)]

/-- If everything is a source, the overlay is one without directives; deleted, it takes the module
along. -/
theorem overlay_deleted_with_source :
    selfServing.Consistent ∧ ∃ outcome result outcome' rest,
      Yields (.constant [0]) () wholeDirectory sampleSources sampleSources selfServing
        [sampleSources.child "m.bin", sampleSources.child "m.s"] outcome result ∧
      Yields (.constant [0]) () wholeDirectory sampleSources sampleSources
        (selfServing.delete (faulty selfServing result)) [sampleSources.child "m.s"] outcome' rest ∧
      rest.document ≠ result.document := by
  have arm : Architecture.ofName wholeDirectory.architecture = .ok .arm := by decide
  have globbed : Glob.files selfServing wholeDirectory.sourcePattern sampleSources =
      .ok [sampleSources.child "m.bin", sampleSources.child "m.s"] := by cbv
  have consistent : selfServing.Consistent := ⟨by decide +kernel, by decide +kernel⟩
  obtain ⟨outcome, result, yields⟩ :=
    exists_yields (onlyRejects_constant [0]) () arm sampleSources globbed
  have bad : (outcome (sampleSources.child "m.bin")).isOk = false :=
    yields.isOk_eq (by decide +kernel)
  have good : (outcome (sampleSources.child "m.s")).isOk = true :=
    yields.isOk_eq (by decide +kernel)
  have gone : faulty selfServing result = [["src", "m.bin"]] := by
    have place : (selfServing.locate (sampleSources.child "m.bin")).toOption =
        some ["src", "m.bin"] := by decide +kernel
    rw [faulty, yields.failures]
    cases here : outcome (sampleSources.child "m.bin") with
    | ok patch =>
        rw [here] at bad
        cases bad
    | error fault =>
        cases there : outcome (sampleSources.child "m.s") with
        | ok patch => simp [here, there, place]
        | error fault =>
            rw [there] at good
            cases good
  have left : [sampleSources.child "m.bin", sampleSources.child "m.s"].filter
      (selfServing.avoids [["src", "m.bin"]]) = [sampleSources.child "m.s"] := by decide +kernel
  have globbed' := left ▸ Glob.files_delete consistent [["src", "m.bin"]] globbed
  obtain ⟨outcome', rest, yields'⟩ :=
    exists_yields (onlyRejects_constant [0]) () arm sampleSources globbed'
  have bad' : (outcome' (sampleSources.child "m.s")).isOk = false :=
    yields'.isOk_eq (by decide +kernel)
  rw [← gone] at yields'
  refine ⟨consistent, outcome, result, outcome', rest, yields, yields', fun same => ?_⟩
  have counts := yields'.length_patches
  rw [same, yields.length_patches] at counts
  simp [bad, good, bad'] at counts

end Batch

end OverlayPatch
