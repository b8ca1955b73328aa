import OverlayPatch.Proofs.Attempts

/-!
# Which overlay a patch is for

A patch bears the name of its module, and that is all a document knows about the overlay it is for.
Modules are searched for in a whole tree of directories and named without them, so a name may come
twice. `document_names` says what follows. The names of a document are those of the modules that
were assembled, in the order of their paths. They are distinct just if no two of these modules share
one. Modules that share a name share an overlay too, and both take up the addresses right behind it.
-/

namespace OverlayPatch

set_option autoImplicit false

/-- Every patch is found by its name just if no other one bears it. -/
theorem Document.forall_get?_iff (document : Document) :
    (∀ patch ∈ document.patches, document.get? patch.name = some patch) ↔
      ∀ p ∈ document.patches, ∀ q ∈ document.patches, p.name = q.name → p = q := by
  constructor
  · intro reached p first q second same
    have found := reached p first
    rw [same, reached q second] at found
    exact (Option.some.inj found).symm
  · intro unique patch member
    cases found : document.get? patch.name with
    | none =>
        have missed := List.find?_eq_none.mp found patch member
        simp at missed
    | some other =>
        have named : other.name = patch.name := by simpa using List.find?_some found
        rw [unique other (List.mem_of_find?_eq_some found) patch member named]

variable {σ : Type} {workshop : Workshop σ} {settings : Settings} {tree : FileTree}
  {sources overlays source : Path}

namespace Batch

def assembles (workshop : Workshop σ) (tree : FileTree) (settings : Settings)
    (overlays source : Path) : Bool :=
  (attempt workshop tree settings overlays source).toOption.any (·.isOk)

/-- The address is taken up by what a module appends to its overlay, the header included. -/
def Claims (workshop : Workshop σ) (tree : FileTree) (settings : Settings) (overlays source : Path)
    (address : Int) : Prop :=
  ∃ file patch, SourceFile.load tree settings source overlays = .ok file ∧
    attempt workshop tree settings overlays source = .ok (.ok patch) ∧
    file.start - headerSize ≤ address ∧ address < file.start - headerSize + patch.blob.length

theorem assembles_iff :
    assembles workshop tree settings overlays source = true ↔
      ∃ patch, attempt workshop tree settings overlays source = .ok (.ok patch) := by
  unfold assembles
  rcases attempt workshop tree settings overlays source with failure | fault | patch
  · exact iff_of_false Bool.false_ne_true fun ⟨_, come⟩ => nomatch come
  · exact iff_of_false Bool.false_ne_true fun ⟨_, come⟩ => nomatch come
  · exact iff_of_true rfl ⟨patch, rfl⟩

/-- A patch bears the name of its module and is never without its header. -/
theorem attempt_facts {patch : Patch}
    (come : attempt workshop tree settings overlays source = .ok (.ok patch)) :
    patch.name = source.stem ∧ 0 < patch.blob.length ∧
      ∃ file node, SourceFile.load tree settings source overlays = .ok file ∧
        tree.lookup (overlayPath settings source overlays) = .ok node ∧
        file.start = settings.startCursor node.size := by
  obtain ⟨state, -, assembled⟩ := attempt_eq_ok come
  obtain ⟨file, loaded, ran⟩ := alone_eq_ok.mp assembled
  obtain ⟨target, -, ⟨stages⟩⟩ := stages_of_assembleSource (Prod.ext ran rfl)
  obtain ⟨node, data, cs, overlay, -, -, same⟩ := SourceFile.load_eq_ok.mp loaded
  refine ⟨?_, ?_, file, node, loaded, overlay, by rw [← same]⟩
  · rw [stages.patch_name, ← same]
  · rw [stages.patch_eq.2.1]
    simp [headerSize]

/-- The patches are those of the modules that are assembled, in order. -/
theorem forall₂_patches {outcomes : List (Path × ModuleOutcome)}
    (each : ∀ item ∈ outcomes, attempt workshop tree settings overlays item.1 = .ok item.2) :
    List.Forall₂
      (fun source patch => attempt workshop tree settings overlays source = .ok (.ok patch))
      ((outcomes.map Prod.fst).filter (assembles workshop tree settings overlays))
      (patches outcomes) := by
  induction outcomes with
  | nil => exact .nil
  | cons item outcomes ih =>
      rw [List.forall_mem_cons] at each
      obtain ⟨source, fault | patch⟩ := item
      · have skipped : assembles workshop tree settings overlays source = false := by
          rw [assembles, each.1]
          rfl
        rw [List.map_cons, List.filter_cons_of_neg (by simp [skipped])]
        exact ih each.2
      · have taken : assembles workshop tree settings overlays source = true :=
          assembles_iff.mpr ⟨patch, each.1⟩
        rw [List.map_cons, List.filter_cons_of_pos taken]
        exact .cons each.1 (ih each.2)

/-- Modules that share a name share an overlay, and both start to append at the same address. -/
theorem claims_of_stem_eq {a b : Path} (first : assembles workshop tree settings overlays a = true)
    (second : assembles workshop tree settings overlays b = true) (same : a.stem = b.stem) :
    overlayPath settings a overlays = overlayPath settings b overlays ∧
      ∃ address, Claims workshop tree settings overlays a address ∧
        Claims workshop tree settings overlays b address := by
  have shared : overlayPath settings a overlays = overlayPath settings b overlays := by
    rw [overlayPath, overlayPath, same]
  obtain ⟨patch, come⟩ := assembles_iff.mp first
  obtain ⟨patch', come'⟩ := assembles_iff.mp second
  obtain ⟨-, filled, file, node, loaded, overlay, start⟩ := attempt_facts come
  obtain ⟨-, filled', file', node', loaded', overlay', start'⟩ := attempt_facts come'
  rw [shared, overlay'] at overlay
  cases overlay
  refine ⟨shared, file.start - headerSize, ?_, ?_⟩
  · exact ⟨file, patch, loaded, come, by omega, by omega⟩
  · exact ⟨file', patch', loaded', come', by omega, by omega⟩

/-- The names of a document are those of the modules that were assembled, in the order of their
paths, and nothing keeps two of them apart but the files' names. Where two modules share a name,
`get?` reaches the first patch only, and both claim addresses behind the one overlay. -/
theorem document_names {trail : Trail} {result : BatchResult}
    (ran : ((assembleDirectory workshop tree settings sources overlays).run trail).1 = .ok result) :
    ∃ found, Glob.files tree settings.sourcePattern sources = .ok found ∧
      let assembled := found.filter (assembles workshop tree settings overlays)
      List.Forall₂
        (fun source patch => attempt workshop tree settings overlays source = .ok (.ok patch))
        assembled result.document.patches ∧
      result.document.names = assembled.map Path.stem ∧
      (result.document.names.Nodup ↔ ∀ a ∈ assembled, ∀ b ∈ assembled, a.stem = b.stem → a = b) ∧
      (result.document.names.Nodup →
        ∀ patch ∈ result.document.patches, result.document.get? patch.name = some patch) ∧
      ((∀ patch ∈ result.document.patches, result.document.get? patch.name = some patch) ↔
        ∀ p ∈ result.document.patches, ∀ q ∈ result.document.patches, p.name = q.name → p = q) ∧
      ∀ a ∈ assembled, ∀ b ∈ assembled, a.stem = b.stem →
        overlayPath settings a overlays = overlayPath settings b overlays ∧
          ∃ address, Claims workshop tree settings overlays a address ∧
            Claims workshop tree settings overlays b address := by
  obtain ⟨arm, outcomes, globbed, each, gathered⟩ := exists_outcomes_of_ok ran
  have made := forall₂_patches each
  have patches : result.document.patches = Batch.patches outcomes := by rw [gathered]; rfl
  have names : result.document.names =
      ((outcomes.map Prod.fst).filter (assembles workshop tree settings overlays)).map
        Path.stem := by
    rw [Document.names, patches]
    exact (map_eq_of_forall₂ made fun source patch come => (attempt_facts come).1.symm).symm
  refine ⟨outcomes.map Prod.fst, globbed, patches ▸ made, names, ?_, ?_,
    result.document.forall_get?_iff, ?_⟩
  · rw [names]
    exact List.nodup_map_iff_inj_on ((Glob.files_sorted globbed).2.filter _)
  · intro distinct
    refine result.document.forall_get?_iff.mpr fun p first q second same => ?_
    exact List.inj_on_of_nodup_map distinct first second same
  · intro a first b second same
    exact claims_of_stem_eq (List.mem_filter.mp first).2 (List.mem_filter.mp second).2 same

/-- Two modules of one name in different directories, and one overlay. -/
def twins : FileTree where
  files :=
    [(["ov", "m.bin"], [1, 2, 3, 4]),
      (["src", "a", "m.s"], "arepl_020C8000:\nnop\n".toUTF8.toList),
      (["src", "b", "m.s"], "arepl_020C9000:\nnop\n".toUTF8.toList)]

def twin (directory : String) : Path :=
  (sampleSources.child directory).child "m.s"

def twinPatch (location : Int) : Patch where
  name := "m"
  base := ({} : Settings).base
  writes := [{ location, value := [0] }]

theorem globbed_twins : Glob.files twins ({} : Settings).sourcePattern sampleSources =
    .ok [twin "a", twin "b"] := by
  cbv

theorem run_twins :
    ∃ result, ((assembleDirectory { encoder := .constant [0], fresh := .ok () } twins {}
        sampleSources sampleOverlays).run {}).1 = .ok result ∧
      result.document.patches = [twinPatch 0x020C8000, twinPatch 0x020C9000] := by
  have arm : Architecture.ofName ({} : Settings).architecture = .ok .arm := by decide
  obtain ⟨outcome, result, yields⟩ :=
    exists_yields (onlyRejects_constant [0]) () arm sampleOverlays globbed_twins
  have first : (Batch.alone (.constant [0]) () twins {} sampleOverlays (twin "a")).toOption.bind
      (·.toOption) = some (twinPatch 0x020C8000) := by decide +kernel
  have second : (Batch.alone (.constant [0]) () twins {} sampleOverlays (twin "b")).toOption.bind
      (·.toOption) = some (twinPatch 0x020C9000) := by decide +kernel
  rw [yields.alone] at first second
  have one : (outcome (twin "a")).toOption = some (twinPatch 0x020C8000) := first
  have two : (outcome (twin "b")).toOption = some (twinPatch 0x020C9000) := second
  refine ⟨result, yields.runs _ {}, ?_⟩
  simp [yields.patches, one, two]

/-- Two modules of one name claim the same address. -/
theorem document_names_twins :
    ∃ result, ((assembleDirectory { encoder := .constant [0], fresh := .ok () } twins {}
        sampleSources sampleOverlays).run {}).1 = .ok result ∧
      result.document.names = ["m", "m"] ∧
      ∃ address,
        Claims { encoder := .constant [0], fresh := .ok () } twins {} sampleOverlays (twin "a")
          address ∧
        Claims { encoder := .constant [0], fresh := .ok () } twins {} sampleOverlays (twin "b")
          address := by
  obtain ⟨result, ran, -⟩ := run_twins
  obtain ⟨found, globbed, -, names, -, -, -, clash⟩ := document_names ran
  obtain rfl : [twin "a", twin "b"] = found := Except.ok.inj (globbed_twins.symm.trans globbed)
  have both : [twin "a", twin "b"].filter
      (assembles { encoder := .constant [0], fresh := .ok () } twins {} sampleOverlays) =
      [twin "a", twin "b"] := by decide +kernel
  rw [both] at names clash
  refine ⟨result, ran, names, (clash (twin "a") (by simp) (twin "b") (by simp) ?_).2⟩
  decide

/-- A document may hold two patches of one name, and `get?` does not reach the second. -/
theorem names_repeated :
    ∃ result, ((assembleDirectory { encoder := .constant [0], fresh := .ok () } twins {}
        sampleSources sampleOverlays).run {}).1 = .ok result ∧
      ¬ result.document.names.Nodup ∧
      ∃ patch ∈ result.document.patches, result.document.get? patch.name ≠ some patch := by
  obtain ⟨result, ran, patches⟩ := run_twins
  refine ⟨result, ran, ?_, twinPatch 0x020C9000, by simp [patches], ?_⟩
  · rw [Document.names, patches]
    decide
  · rw [Document.get?, patches]
    decide

end Batch

end OverlayPatch
