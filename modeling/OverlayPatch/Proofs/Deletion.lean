import OverlayPatch.FileTree
import Mathlib

/-!
# Deleting files

`FileTree.delete` takes files out of a tree and leaves every directory where it was. In a tree in
which files and directories lie apart (`Consistent`), what is left is just what was there before,
without those files (`node?_delete`): a path leads where it led unless that is gone
(`lookup_delete`). Several paths may lead to one file, but all of them by the file's own name
(`name_of_locate`).
-/

namespace OverlayPatch.FileTree

set_option autoImplicit false

variable {tree : FileTree} {gone : List Location} {location target : Location}

/-! ## Directories -/

theorem mem_ancestors {place : Location} : place ∈ ancestors location ↔ place <+: location := by
  simp only [ancestors, List.mem_map, List.mem_range]
  constructor
  · rintro ⟨n, -, rfl⟩
    exact List.take_prefix n location
  · intro above
    exact ⟨place.length, Nat.lt_succ_of_le above.length_le, (List.prefix_iff_eq_take.mp above).symm⟩

theorem mem_allDirectories :
    location ∈ tree.allDirectories ↔
      ∃ listed ∈ tree.here :: tree.directories ++ tree.files.map (·.1.dropLast),
        location <+: listed := by
  simp only [allDirectories, List.mem_eraseDups, List.mem_flatMap, mem_ancestors]

theorem above_mem_allDirectories {above : Location} (there : location ∈ tree.allDirectories)
    (leads : above <+: location) : above ∈ tree.allDirectories := by
  obtain ⟨listed, member, below⟩ := mem_allDirectories.mp there
  exact mem_allDirectories.mpr ⟨listed, member, leads.trans below⟩

/-- A path starts at a directory. -/
theorem start_mem_allDirectories (anchor : Anchor) : tree.start anchor ∈ tree.allDirectories := by
  have here : tree.here ∈ tree.allDirectories :=
    mem_allDirectories.mpr ⟨tree.here, by simp, List.prefix_rfl⟩
  unfold start
  split
  · exact here
  · exact above_mem_allDirectories here List.nil_prefix

/-! ## Consistent trees -/

/-- Files lie apart from directories, and their names are no dots. -/
structure Consistent (tree : FileTree) : Prop where
  apart : ∀ file ∈ tree.files, file.1 ∉ tree.allDirectories
  proper : ∀ file ∈ tree.files, ∀ name ∈ file.1, name ∉ ["", ".", ".."]

theorem mem_of_lookup {data : List UInt8} (found : tree.files.lookup location = some data) :
    (location, data) ∈ tree.files := by
  obtain ⟨front, back, split, -⟩ := List.lookup_eq_some_iff.mp found
  simp [split]

theorem node?_eq_file {data : List UInt8} :
    tree.node? location = some (.file data) ↔ tree.files.lookup location = some data := by
  unfold node?
  split
  · rename_i found
    simp [found]
  · rename_i absent
    rw [absent]
    split <;> simp

theorem Consistent.lookup_eq_none (consistent : tree.Consistent)
    (there : location ∈ tree.allDirectories) : tree.files.lookup location = none := by
  cases found : tree.files.lookup location with
  | none => rfl
  | some data => exact absurd there (consistent.apart _ (mem_of_lookup found))

/-- A directory lies where one is listed and no file is in its place. -/
theorem hasDirectory_iff :
    tree.hasDirectory location = true ↔
      tree.files.lookup location = none ∧ location ∈ tree.allDirectories := by
  unfold hasDirectory node?
  cases tree.files.lookup location with
  | some data => simp [Node.isDirectory]
  | none =>
      by_cases there : location ∈ tree.allDirectories
      · simp [there, Node.isDirectory]
      · simp [there]

/-- With files apart from directories, a directory is one that is listed. -/
theorem Consistent.hasDirectory_iff (consistent : tree.Consistent) :
    tree.hasDirectory location = true ↔ location ∈ tree.allDirectories := by
  rw [FileTree.hasDirectory_iff, and_iff_right_iff_imp]
  exact consistent.lookup_eq_none

theorem isSome_of_hasDirectory (directory : tree.hasDirectory location = true) :
    (tree.node? location).isSome = true := by
  unfold hasDirectory at directory
  cases there : tree.node? location with
  | none =>
      rw [there] at directory
      cases directory
  | some node => rfl

theorem isSome_node? :
    (tree.node? location).isSome = true ↔
      location ∈ tree.allDirectories ∨ ∃ file ∈ tree.files, file.1 = location := by
  unfold node?
  split
  · rename_i data found
    simp only [Option.isSome_some, true_iff]
    exact .inr ⟨_, mem_of_lookup found, rfl⟩
  · rename_i absent
    have unlisted : ¬ ∃ file ∈ tree.files, file.1 = location := by
      rintro ⟨file, member, rfl⟩
      simpa using List.lookup_eq_none_iff.mp absent file member
    split <;> simp_all

/-- Whatever has a name lies in a directory. -/
theorem mem_allDirectories_of_concat {name : String}
    (there : (tree.node? (location ++ [name])).isSome = true) : location ∈ tree.allDirectories := by
  rcases isSome_node?.mp there with directory | ⟨file, member, same⟩
  · exact above_mem_allDirectories directory (List.prefix_append location [name])
  · refine mem_allDirectories.mpr ⟨file.1.dropLast, ?_, ?_⟩
    · simp only [List.mem_append, List.mem_map]
      exact .inr ⟨file, member, rfl⟩
    · rw [same, List.dropLast_concat]

/-! ## Walking -/

/-- Where a name leads from a directory. -/
def next (location : Location) (name : String) : Location :=
  if name = "" ∨ name = "." then location
  else if name = ".." then location.dropLast
  else location ++ [name]

theorem walk_nil_eq_ok :
    tree.walk location [] = .ok target ↔
      location = target ∧ (tree.node? target).isSome = true := by
  rw [walk]
  split
  · rename_i there
    simp only [Except.ok.injEq, iff_self_and]
    exact fun same => same ▸ there
  · rename_i absent
    simp only [reduceCtorEq, false_iff, not_and]
    exact fun same => same ▸ absent

theorem walk_cons_eq_ok {name : String} {names : List String} :
    tree.walk location (name :: names) = .ok target ↔
      tree.hasDirectory location = true ∧
        tree.walk (next location name) names = .ok target := by
  rw [walk, hasDirectory]
  cases tree.node? location with
  | none => simp
  | some node =>
      cases node with
      | file data => simp [Node.isDirectory]
      | directory size =>
          simp only [Option.any_some, Node.isDirectory, next, true_and]
          split
          · rfl
          · split <;> rfl

theorem walk_concat_eq_ok {names : List String} {name : String} :
    tree.walk location (names ++ [name]) = .ok target ↔
      ∃ place, tree.walk location names = .ok place ∧ tree.hasDirectory place = true ∧
        next place name = target ∧ (tree.node? target).isSome = true := by
  induction names generalizing location with
  | nil =>
      rw [List.nil_append, walk_cons_eq_ok, walk_nil_eq_ok]
      simp only [walk_nil_eq_ok]
      constructor
      · rintro ⟨directory, leads⟩
        exact ⟨location, ⟨rfl, isSome_of_hasDirectory directory⟩, directory, leads⟩
      · rintro ⟨place, ⟨rfl, -⟩, on⟩
        exact on
  | cons first names ih =>
      rw [List.cons_append, walk_cons_eq_ok, ih]
      simp only [walk_cons_eq_ok, and_assoc, exists_and_left]

/-- A step away from the directories is taken by a name as it is. -/
theorem next_of_not_mem {name : String} (start : location ∈ tree.allDirectories)
    (away : next location name ∉ tree.allDirectories) :
    next location name = location ++ [name] := by
  by_cases dot : name = "" ∨ name = "."
  · rw [next, if_pos dot] at away
    exact absurd start away
  by_cases dots : name = ".."
  · rw [next, if_neg dot, if_pos dots] at away
    exact absurd (above_mem_allDirectories start (List.dropLast_prefix location)) away
  rw [next, if_neg dot, if_neg dots]

/-- A way that leads to a file ends with the name of the file. -/
theorem Consistent.getLast?_of_walk (consistent : tree.Consistent) {names : List String}
    (start : location ∈ tree.allDirectories) (walked : tree.walk location names = .ok target)
    (away : target ∉ tree.allDirectories) : target.getLast? = names.getLast? := by
  induction names generalizing location with
  | nil =>
      obtain ⟨rfl, -⟩ := walk_nil_eq_ok.mp walked
      exact absurd start away
  | cons name names ih =>
      have on := (walk_cons_eq_ok.mp walked).2
      cases names with
      | nil =>
          obtain ⟨rfl, -⟩ := walk_nil_eq_ok.mp on
          rw [next_of_not_mem start away, List.getLast?_concat, List.getLast?_singleton]
      | cons name' names =>
          have there := consistent.hasDirectory_iff.mp (walk_cons_eq_ok.mp on).1
          rw [ih there on, List.getLast?_cons_cons]

/-- Paths to one file end in one name. -/
theorem Consistent.name_of_locate (consistent : tree.Consistent) {path : Path} {data : List UInt8}
    (leads : tree.locate path = .ok location) (file : tree.node? location = some (.file data)) :
    path.name = location.getLastD "" := by
  have away : location ∉ tree.allDirectories :=
    consistent.apart _ (mem_of_lookup (node?_eq_file.mp file))
  have same := consistent.getLast?_of_walk (start_mem_allDirectories path.anchor) leads away
  rw [Path.name, List.getLastD_eq_getLast?, List.getLastD_eq_getLast?, same]

theorem locate_child {path : Path} {name : String} :
    tree.locate (path.child name) = .ok target ↔
      ∃ place, tree.locate path = .ok place ∧ tree.hasDirectory place = true ∧
        next place name = target ∧ (tree.node? target).isSome = true :=
  walk_concat_eq_ok

/-- The name of a file leads to it from the directory it lies in. -/
theorem Consistent.next_of_file (consistent : tree.Consistent) {file : Location × List UInt8}
    (member : file ∈ tree.files) {name : String} (named : name ∈ file.1) :
    next location name = location ++ [name] := by
  have proper := consistent.proper file member name named
  simp only [List.mem_cons, not_or] at proper
  rw [next, if_neg (by simp [proper]), if_neg proper.2.2.1]

theorem lookup_eq_ok {path : Path} {node : Node} :
    tree.lookup path = .ok node ↔
      ∃ place, tree.locate path = .ok place ∧ tree.node? place = some node := by
  unfold lookup
  cases leads : tree.locate path with
  | error problem => simp [bind, Except.bind]
  | ok place =>
      cases there : tree.node? place with
      | none => simp [bind, Except.bind, there]
      | some node => simp [bind, Except.bind, there]

theorem isFile_iff {path : Path} :
    tree.isFile path = true ↔ ∃ data, tree.lookup path = .ok (.file data) := by
  unfold isFile
  split <;> simp_all

theorem isDirectory_iff {path : Path} :
    tree.isDirectory path = true ↔ ∃ size, tree.lookup path = .ok (.directory size) := by
  unfold isDirectory
  split <;> simp_all

theorem contains_iff {path : Path} :
    tree.contains path = true ↔ ∃ node, tree.lookup path = .ok node := by
  unfold contains
  cases tree.lookup path <;> simp [Except.isOk, Except.toBool]

theorem contains_of_isDirectory {path : Path} (directory : tree.isDirectory path = true) :
    tree.contains path = true := by
  obtain ⟨size, found⟩ := isDirectory_iff.mp directory
  exact contains_iff.mpr ⟨_, found⟩

theorem contains_of_isFile {path : Path} (file : tree.isFile path = true) :
    tree.contains path = true := by
  obtain ⟨data, found⟩ := isFile_iff.mp file
  exact contains_iff.mpr ⟨_, found⟩

/-! ## Deletion -/

/-- The tree without the files at some locations. The directories they lay in stay. -/
def delete (tree : FileTree) (gone : List Location) : FileTree where
  files := tree.files.filter fun file => !gone.contains file.1
  directories := tree.directories ++ tree.files.map (·.1.dropLast)
  here := tree.here
  directorySize := tree.directorySize

theorem mem_allDirectories_delete :
    location ∈ (tree.delete gone).allDirectories ↔ location ∈ tree.allDirectories := by
  have same : ∀ listed : Location,
      listed ∈ (tree.delete gone).here :: (tree.delete gone).directories ++
        (tree.delete gone).files.map (·.1.dropLast) ↔
      listed ∈ tree.here :: tree.directories ++ tree.files.map (·.1.dropLast) := by
    intro listed
    simp only [delete, List.mem_append, List.mem_cons, List.mem_map, List.mem_filter]
    grind
  simp only [mem_allDirectories, same]

theorem lookup_delete_files :
    (tree.delete gone).files.lookup location =
      if location ∈ gone then none else tree.files.lookup location := by
  show (tree.files.filter _).lookup location = _
  induction tree.files with
  | nil => simp
  | cons file files ih =>
      obtain ⟨place, data⟩ := file
      by_cases out : place ∈ gone
      · rw [List.filter_cons_of_neg (by simpa using out), ih]
        by_cases same : location = place
        · simp [same, out]
        · rw [List.lookup_cons, beq_false_of_ne same]
      · rw [List.filter_cons_of_pos (by simpa using out), List.lookup_cons, List.lookup_cons, ih]
        by_cases same : location = place
        · simp [same, out]
        · rw [beq_false_of_ne same]

/-- What lies at a location when files are gone. -/
theorem Consistent.node?_delete (consistent : tree.Consistent) :
    (tree.delete gone).node? location =
      if location ∈ gone ∧ location ∉ tree.allDirectories then none else tree.node? location := by
  have size : (tree.delete gone).directorySize = tree.directorySize := rfl
  rw [node?, node?, lookup_delete_files, size]
  simp only [mem_allDirectories_delete]
  by_cases there : location ∈ tree.allDirectories
  · simp [there, consistent.lookup_eq_none there]
  · by_cases out : location ∈ gone
    · simp [there, out]
    · simp [out]

theorem Consistent.delete (consistent : tree.Consistent) : (tree.delete gone).Consistent where
  apart file member there :=
    consistent.apart file (List.mem_filter.mp member).1 (mem_allDirectories_delete.mp there)
  proper file member := consistent.proper file (List.mem_filter.mp member).1

theorem Consistent.isSome_of_delete (consistent : tree.Consistent)
    (there : ((tree.delete gone).node? location).isSome = true) :
    (tree.node? location).isSome = true := by
  rw [consistent.node?_delete] at there
  split at there
  · cases there
  · exact there

/-- A way leads where it led, if that is still there. -/
theorem Consistent.walk_delete (consistent : tree.Consistent) {names : List String} :
    (tree.delete gone).walk location names = .ok target ↔
      tree.walk location names = .ok target ∧
        ((tree.delete gone).node? target).isSome = true := by
  induction names generalizing location with
  | nil =>
      rw [walk_nil_eq_ok, walk_nil_eq_ok]
      constructor
      · rintro ⟨here, there⟩
        exact ⟨⟨here, consistent.isSome_of_delete there⟩, there⟩
      · rintro ⟨⟨here, -⟩, there⟩
        exact ⟨here, there⟩
  | cons name names ih =>
      rw [walk_cons_eq_ok, walk_cons_eq_ok, ih, consistent.hasDirectory_iff,
        consistent.delete.hasDirectory_iff, mem_allDirectories_delete, and_assoc]

theorem Consistent.locate_delete (consistent : tree.Consistent) {path : Path} :
    (tree.delete gone).locate path = .ok target ↔
      tree.locate path = .ok target ∧ ((tree.delete gone).node? target).isSome = true :=
  consistent.walk_delete

/-- A path leads to none of some locations. -/
def avoids (tree : FileTree) (gone : List Location) (path : Path) : Bool :=
  match tree.locate path with
  | .ok place => !gone.contains place
  | .error _ => true

theorem avoids_of_locate {path : Path} (leads : tree.locate path = .ok location) :
    tree.avoids gone path = true ↔ location ∉ gone := by
  simp [avoids, leads]

/-- A path leads to what it led to, unless that is gone. -/
theorem Consistent.lookup_delete (consistent : tree.Consistent) {path : Path} {node : Node} :
    (tree.delete gone).lookup path = .ok node ↔
      tree.lookup path = .ok node ∧
        (node.isDirectory = true ∨ tree.avoids gone path = true) := by
  rw [lookup_eq_ok, lookup_eq_ok]
  simp only [consistent.locate_delete, consistent.node?_delete]
  constructor
  · rintro ⟨place, ⟨leads, -⟩, there⟩
    split at there
    · cases there
    · rename_i stays
      refine ⟨⟨place, leads, there⟩, ?_⟩
      by_cases directory : place ∈ tree.allDirectories
      · have holds := consistent.hasDirectory_iff.mpr directory
        rw [hasDirectory, there] at holds
        exact .inl holds
      · exact .inr ((avoids_of_locate leads).mpr fun out => stays ⟨out, directory⟩)
  · rintro ⟨⟨place, leads, there⟩, stays⟩
    have stays' : ¬ (place ∈ gone ∧ place ∉ tree.allDirectories) := by
      rintro ⟨out, away⟩
      rcases stays with directory | stays
      · refine away (consistent.hasDirectory_iff.mp ?_)
        rw [hasDirectory, there]
        exact directory
      · exact (avoids_of_locate leads).mp stays out
    exact ⟨place, ⟨leads, by rw [if_neg stays', there]; rfl⟩, by rw [if_neg stays', there]⟩

/-- What has a name in a directory is still there if the name leads to something. -/
theorem Consistent.isSome_delete_of_child (consistent : tree.Consistent) {path : Path}
    {name : String} (here : tree.locate path = .ok location)
    (there : (tree.node? (location ++ [name])).isSome = true)
    (left : (tree.delete gone).contains (path.child name) = true) :
    ((tree.delete gone).node? (location ++ [name])).isSome = true := by
  rcases isSome_node?.mp there with directory | ⟨file, member, same⟩
  · exact isSome_node?.mpr (.inl (mem_allDirectories_delete.mpr directory))
  · have above := consistent.hasDirectory_iff.mpr (mem_allDirectories_of_concat there)
    have named : next location name = location ++ [name] :=
      consistent.next_of_file member (by simp [same])
    have leads : tree.locate (path.child name) = .ok (location ++ [name]) :=
      locate_child.mpr ⟨location, here, above, named, there⟩
    obtain ⟨node, found⟩ := contains_iff.mp left
    obtain ⟨place, leads', -⟩ := lookup_eq_ok.mp found
    obtain ⟨leads'', stays⟩ := consistent.locate_delete.mp leads'
    exact Except.ok.inj (leads''.symm.trans leads) ▸ stays

theorem Consistent.isDirectory_delete (consistent : tree.Consistent) (gone : List Location)
    (path : Path) :
    (tree.delete gone).isDirectory path = tree.isDirectory path := by
  rw [Bool.eq_iff_iff, isDirectory_iff, isDirectory_iff]
  simp [consistent.lookup_delete, Node.isDirectory]

/-- A path leads to a file still if it avoids what is gone. -/
theorem Consistent.isFile_delete (consistent : tree.Consistent) {path : Path} :
    (tree.delete gone).isFile path = true ↔
      tree.isFile path = true ∧ tree.avoids gone path = true := by
  rw [isFile_iff, isFile_iff]
  simp only [consistent.lookup_delete, Node.isDirectory, Bool.false_eq_true, false_or,
    exists_and_right]

end OverlayPatch.FileTree
