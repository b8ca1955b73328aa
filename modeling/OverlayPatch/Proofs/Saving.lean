import OverlayPatch.Command.Run
import OverlayPatch.Proofs.Deletion

/-!
# Saving a document

Saving makes the directories of the output and then writes the file. Making directories touches no
file (`FileTree.Grows`), so whatever goes wrong on the way leaves every file as it was. A file that
is written is found by the path it was written to, and all others stay (`FileTree.Rewrites`).
`Command.save_cases` says that saving ends in one of these two ways.
-/

namespace OverlayPatch

set_option autoImplicit false

namespace FileTree

variable {tree later last : FileTree} {location target : Location} {path : Path}
  {data : List UInt8}

theorem read_eq_ok :
    tree.read path = .ok data ↔
      ∃ place, tree.locate path = .ok place ∧ tree.files.lookup place = some data := by
  have file : tree.read path = .ok data ↔ tree.lookup path = .ok (.file data) := by
    unfold read
    cases tree.lookup path with
    | error problem => simp [bind, Except.bind]
    | ok node => cases node <;> simp [bind, Except.bind]
  rw [file, lookup_eq_ok]
  simp only [node?_eq_file]

/-- A way goes on to lead where it led, as long as the directories on it are there. -/
theorem walk_of_kept
    (kept : ∀ place, tree.hasDirectory place = true → later.hasDirectory place = true)
    {names : List String} (walked : tree.walk location names = .ok target)
    (there : (later.node? target).isSome = true) : later.walk location names = .ok target := by
  induction names generalizing location with
  | nil =>
      obtain ⟨rfl, -⟩ := walk_nil_eq_ok.mp walked
      exact walk_nil_eq_ok.mpr ⟨rfl, there⟩
  | cons name names ih =>
      obtain ⟨directory, on⟩ := walk_cons_eq_ok.mp walked
      exact walk_cons_eq_ok.mpr ⟨kept location directory, ih on⟩

/-! ## Making directories -/

/-- The same files, and directories added perhaps. -/
structure Grows (tree later : FileTree) : Prop where
  files : later.files = tree.files
  here : later.here = tree.here
  directories : tree.directories ⊆ later.directories

namespace Grows

theorem refl (tree : FileTree) : tree.Grows tree :=
  ⟨rfl, rfl, List.Subset.refl _⟩

theorem trans (first : tree.Grows later) (second : later.Grows last) : tree.Grows last where
  files := second.files.trans first.files
  here := second.here.trans first.here
  directories := List.Subset.trans first.directories second.directories

theorem mem_allDirectories (grows : tree.Grows later) (there : location ∈ tree.allDirectories) :
    location ∈ later.allDirectories := by
  obtain ⟨listed, member, below⟩ := FileTree.mem_allDirectories.mp there
  refine FileTree.mem_allDirectories.mpr ⟨listed, ?_, below⟩
  rw [grows.here, grows.files]
  simp only [List.cons_append, List.mem_cons, List.mem_append] at member ⊢
  exact member.imp_right (Or.imp_left fun listed => grows.directories listed)

theorem hasDirectory (grows : tree.Grows later) (there : tree.hasDirectory location = true) :
    later.hasDirectory location = true := by
  obtain ⟨noFile, directory⟩ := hasDirectory_iff.mp there
  exact hasDirectory_iff.mpr ⟨grows.files ▸ noFile, grows.mem_allDirectories directory⟩

/-- A file that a path led to is still there. -/
theorem read (grows : tree.Grows later) (old : tree.read path = .ok data) :
    later.read path = .ok data := by
  obtain ⟨place, leads, file⟩ := read_eq_ok.mp old
  have file' : later.files.lookup place = some data := grows.files ▸ file
  refine read_eq_ok.mpr ⟨place, ?_, file'⟩
  have there : (later.node? place).isSome = true := by
    rw [node?_eq_file.mpr file']
    rfl
  have begins : later.start path.anchor = tree.start path.anchor := by
    rw [start, start, grows.here]
  rw [locate, begins]
  exact walk_of_kept (fun _ => grows.hasDirectory) leads there

end Grows

/-- Making a directory touches no file. -/
theorem makeDirectory_grows (made : tree.makeDirectory path = .ok later) : tree.Grows later := by
  unfold makeDirectory at made
  split at made
  · cases made
  · cases above : tree.locate path.parent with
    | error problem =>
        rw [above] at made
        cases made
    | ok place =>
        rw [above] at made
        simp only [bind, Except.bind, pure, Except.pure, throw, throwThe,
          MonadExceptOf.throw] at made
        split at made
        · cases made
        · cases made
          exact ⟨rfl, rfl, List.subset_append_left _ _⟩
  · cases made

theorem ensureWith_grows {above : FileTree → Except PathProblem FileTree}
    (grows : ∀ middle, above tree = .ok middle → tree.Grows middle)
    (made : ensureWith above tree path = .ok later) : tree.Grows later := by
  unfold ensureWith at made
  simp only at made
  split at made
  · rename_i next first
    cases made
    exact makeDirectory_grows first
  · cases middle : above tree with
    | error problem =>
        rw [middle] at made
        cases made
    | ok below =>
        rw [middle] at made
        simp only [bind, Except.bind] at made
        have first := grows below middle
        split at made
        · rename_i next second
          cases made
          exact first.trans (makeDirectory_grows second)
        · split at made
          · cases made
            exact first
          · cases made
  · split at made
    · cases made
      exact .refl tree
    · cases made

theorem ensureReversed_grows {anchor : Anchor} {names : List String}
    (made : ensureReversed anchor names tree = .ok later) : tree.Grows later := by
  induction names generalizing tree later with
  | nil =>
      refine ensureWith_grows ?_ made
      rintro middle ⟨⟩
      exact .refl tree
  | cons name names ih => exact ensureWith_grows (fun _ => ih) made

theorem ensureDirectory_grows (made : tree.ensureDirectory path = .ok later) : tree.Grows later :=
  ensureReversed_grows made

/-! ## Writing a file -/

/-- The path leads to a file of these bytes, and all others are as they were. -/
structure Rewrites (tree : FileTree) (path : Path) (data : List UInt8) (later : FileTree) :
    Prop where
  read : later.read path = .ok data
  others : ∃ place, later.locate path = .ok place ∧
    ∀ other, other ≠ place → later.files.lookup other = tree.files.lookup other

/-- A file may be written where directories were made for it. -/
theorem Grows.rewrites (grows : tree.Grows later) (rewrites : later.Rewrites path data last) :
    tree.Rewrites path data last where
  read := rewrites.read
  others := grows.files ▸ rewrites.others

/-- The bytes lie at a place, the directories are still there and all other files as they were. -/
structure Puts (tree : FileTree) (place : Location) (data : List UInt8) (later : FileTree) :
    Prop where
  here : later.here = tree.here
  directories : ∀ other ∈ tree.allDirectories, other ∈ later.allDirectories
  lookup : later.files.lookup place = some data
  others : ∀ other, other ≠ place → later.files.lookup other = tree.files.lookup other

namespace Puts

variable {place : Location}

theorem isSome_node? (puts : tree.Puts place data later) :
    (later.node? place).isSome = true := by
  rw [node?_eq_file.mpr puts.lookup]
  rfl

theorem hasDirectory (puts : tree.Puts place data later)
    (free : tree.hasDirectory place = false) (other : Location)
    (directory : tree.hasDirectory other = true) : later.hasDirectory other = true := by
  have apart : other ≠ place := by
    rintro rfl
    rw [free] at directory
    cases directory
  obtain ⟨noFile, listed⟩ := hasDirectory_iff.mp directory
  exact hasDirectory_iff.mpr
    ⟨(puts.others other apart).trans noFile, puts.directories other listed⟩

theorem rewrites (puts : tree.Puts place data later)
    (leads : later.walk (tree.start path.anchor) path.parts = .ok place) :
    tree.Rewrites path data later := by
  have located : later.locate path = .ok place := by
    rw [locate, start, puts.here]
    exact leads
  exact ⟨read_eq_ok.mpr ⟨place, located, puts.lookup⟩, place, located, puts.others⟩

end Puts

theorem lookup_append_single (files : List (Location × List UInt8)) (place other : Location)
    (data : List UInt8) :
    (files ++ [(place, data)]).lookup other =
      (files.lookup other).or (if other = place then some data else none) := by
  rw [List.lookup_append]
  by_cases same : other = place
  · simp [same]
  · rw [List.lookup_cons, beq_false_of_ne same, if_neg same, List.lookup_nil]

theorem lookup_filter_ne (tree : FileTree) (place other : Location) :
    (tree.files.filter (·.1 ≠ place)).lookup other =
      if other = place then none else tree.files.lookup other := by
  have same : tree.files.filter (·.1 ≠ place) = (tree.delete [place]).files :=
    List.filter_congr fun file _ => by simp
  rw [same, lookup_delete_files]
  simp

/-- A file in the place of another. The directory it lies in stays, even if nothing else kept it. -/
theorem puts_replace (tree : FileTree) (place : Location) (data : List UInt8) :
    tree.Puts place data
      { tree with files := tree.files.filter (·.1 ≠ place) ++ [(place, data)] } where
  here := rfl
  directories other listed := by
    obtain ⟨known, member, below⟩ := mem_allDirectories.mp listed
    refine mem_allDirectories.mpr ⟨known, ?_, below⟩
    simp only [List.mem_append, List.mem_cons, List.mem_map, List.mem_filter] at member ⊢
    rcases member with listed | ⟨file, member, rfl⟩
    · exact .inl listed
    · by_cases same : file.1 = place
      · exact .inr ⟨(place, data), by simp, by rw [same]⟩
      · exact .inr ⟨file, .inl ⟨member, by simpa using same⟩, rfl⟩
  lookup := by
    rw [lookup_append_single, lookup_filter_ne]
    simp
  others other apart := by
    rw [lookup_append_single, lookup_filter_ne]
    simp [apart]

/-- A file where none was. -/
theorem puts_add {place : Location} (noFile : tree.files.lookup place = none)
    (data : List UInt8) :
    tree.Puts place data { tree with files := tree.files ++ [(place, data)] } where
  here := rfl
  directories other listed := by
    obtain ⟨known, member, below⟩ := mem_allDirectories.mp listed
    refine mem_allDirectories.mpr ⟨known, ?_, below⟩
    simp only [List.map_append, List.mem_append] at member ⊢
    exact member.imp_right Or.inl
  lookup := by
    rw [lookup_append_single, noFile]
    simp
  others other apart := by rw [lookup_append_single, if_neg apart, Option.or_none]

/-- Where a path leads that ends in a name nobody has. -/
theorem walk_missing {names : List String} {name : String} {above : Location}
    (missing : tree.walk location (names ++ [name]) = .error .missing)
    (walked : tree.walk location names = .ok above)
    (directory : tree.hasDirectory above = true) :
    next above name = above ++ [name] ∧ tree.node? (above ++ [name]) = none := by
  have absent : tree.node? (next above name) = none := by
    rw [← Option.not_isSome_iff_eq_none]
    intro there
    have found := walk_concat_eq_ok.mpr ⟨above, walked, directory, rfl, there⟩
    rw [missing] at found
    cases found
  have away : next above name ∉ tree.allDirectories := by
    intro listed
    have there := FileTree.isSome_node?.mpr (.inl listed)
    rw [absent] at there
    cases there
  have step := next_of_not_mem (hasDirectory_iff.mp directory).2 away
  exact ⟨step, step ▸ absent⟩

theorem rewrites_replace {place : Location} (leads : tree.locate path = .ok place)
    (free : tree.hasDirectory place = false) :
    tree.Rewrites path data
      { tree with files := tree.files.filter (·.1 ≠ place) ++ [(place, data)] } := by
  have puts := puts_replace tree place data
  exact puts.rewrites (walk_of_kept (puts.hasDirectory free) leads puts.isSome_node?)

/-- A file that was not there is found in its directory. -/
theorem rewrites_add {above : Location} (missing : tree.locate path = .error .missing)
    (leads : tree.locate path.parent = .ok above)
    (directory : tree.hasDirectory above = true) :
    tree.Rewrites path data
      { tree with files := tree.files ++ [(above ++ [path.name], data)] } := by
  rcases List.eq_nil_or_concat' path.parts with empty | ⟨names, name, split⟩
  · -- A path without names is its own parent, so it cannot be missing there.
    have same : path.parent = path := by
      rw [Path.parent, empty, List.dropLast_nil, ← empty]
    rw [same, missing] at leads
    cases leads
  · have named : path.name = name := by simp [Path.name, split]
    have walked : tree.walk (tree.start path.anchor) names = .ok above := by
      simpa [locate, Path.parent, split] using leads
    rw [locate, split] at missing
    obtain ⟨step, absent⟩ := walk_missing missing walked directory
    have noFile : tree.files.lookup (above ++ [name]) = none := by
      cases found : tree.files.lookup (above ++ [name]) with
      | none => rfl
      | some data =>
          rw [node?_eq_file.mpr found] at absent
          cases absent
    have puts := puts_add noFile data
    have kept := puts.hasDirectory (by simp [FileTree.hasDirectory, absent])
    have above' := kept above directory
    rw [named]
    refine puts.rewrites ?_
    rw [split]
    exact walk_concat_eq_ok.mpr ⟨above, walk_of_kept kept walked (isSome_of_hasDirectory above'),
      above', step, puts.isSome_node?⟩

/-- Writing a file changes just the file that its path leads to. -/
theorem writeFile_rewrites (written : tree.writeFile path data = .ok later) :
    tree.Rewrites path data later := by
  unfold writeFile at written
  split at written
  · rename_i place leads
    split at written
    · cases written
    · rename_i free
      cases written
      exact rewrites_replace leads (Bool.eq_false_iff.mpr free)
  · rename_i missing
    cases leads : tree.locate path.parent with
    | error problem =>
        rw [leads] at written
        cases written
    | ok above =>
        rw [leads] at written
        simp only [bind, Except.bind, pure, Except.pure, throw, throwThe,
          MonadExceptOf.throw] at written
        split at written
        · cases written
        · rename_i directory
          cases written
          exact rewrites_add missing leads (by simpa using directory)
  · cases written

/-- Why no file can be written to a path. -/
inductive Refuses (tree : FileTree) (path : Path) : PathProblem → Prop where
  /-- A directory it would lie in cannot be made. -/
  | directories {problem : PathProblem}
      (refused : tree.ensureDirectory path.parent = .error problem) : Refuses tree path problem
  /-- Its directory is there, but the file cannot be opened. -/
  | file {later : FileTree} {data : List UInt8} {problem : SystemProblem}
      (made : tree.ensureDirectory path.parent = .ok later)
      (refused : later.writeFile path data = .error problem) : Refuses tree path { problem, path }

end FileTree

/-! ## Saving -/

/-- A document is saved, or else no file has changed: it cannot be written as text, or the file
tree refuses the output. -/
theorem Command.save_cases (document : Document) (path : Path) (tree : FileTree) :
    (∃ text later, document.write = .ok text ∧ save document path tree = (.ok (), later) ∧
      tree.Rewrites path (Text.Utf8.encode text) later) ∨
    (∃ error later, document.write = .error error ∧
      save document path tree = (.error (.usage error.message), later) ∧ tree.Grows later) ∨
    ∃ problem later, tree.Refuses path problem ∧
      save document path tree = (.error (.ofProblem problem), later) ∧ tree.Grows later := by
  cases made : tree.ensureDirectory path.parent with
  | error problem =>
      refine .inr (.inr ⟨problem, tree, .directories made, ?_, .refl tree⟩)
      simp only [save, made]
  | ok middle =>
      have grows := FileTree.ensureDirectory_grows made
      cases shown : document.write with
      | error error =>
          refine .inr (.inl ⟨error, middle, rfl, ?_, grows⟩)
          simp only [save, made, shown]
      | ok text =>
          cases written : middle.writeFile path (Text.Utf8.encode text) with
          | error problem =>
              refine .inr (.inr ⟨_, middle, .file made written, ?_, grows⟩)
              simp only [save, made, shown, written]
          | ok later =>
              have rewrites := grows.rewrites (FileTree.writeFile_rewrites written)
              refine .inl ⟨text, later, rfl, ?_, rewrites⟩
              simp only [save, made, shown, written]

end OverlayPatch
