import OverlayPatch.Glob
import OverlayPatch.Proofs.Deletion

/-!
# The sources of a batch

The files that a pattern describes come in the order of their paths, each path once
(`files_sorted`). Deleting some of them takes just these out of the list (`files_delete`): on the
way to a file a pattern meets directories only, and those stay.
-/

namespace OverlayPatch

set_option autoImplicit false

/-! ## The order of paths -/

namespace Path

/-- Lists of names are ordered as lists are, by their first difference. -/
theorem leNames_iff {as bs : List String} : leNames as bs = true ↔ List.instLE.le as bs := by
  induction as generalizing bs with
  | nil => simp [leNames]
  | cons a as ih =>
      cases bs with
      | nil => simp [leNames]
      | cons b bs =>
          rw [leNames, List.cons_le_cons_iff]
          by_cases same : a = b
          · simp [same, ih]
          · simp [same]

theorem le_trans {a b c : Path} (first : a.le b = true) (second : b.le c = true) :
    a.le c = true :=
  leNames_iff.mpr (List.le_trans (leNames_iff.mp first) (leNames_iff.mp second))

theorem le_total (a b : Path) : (a.le b || b.le a) = true := by
  rw [Bool.or_eq_true, le, le, leNames_iff, leNames_iff]
  exact List.le_total a.key b.key

/-- Paths that start at the same place are told apart by their order. -/
theorem le_antisymm {a b : Path} (start : a.anchor = b.anchor) (first : a.le b = true)
    (second : b.le a = true) : a = b := by
  have keys : a.key = b.key := List.le_antisymm (leNames_iff.mp first) (leNames_iff.mp second)
  obtain ⟨anchor, parts⟩ := a
  obtain ⟨anchor', parts'⟩ := b
  obtain rfl : anchor = anchor' := start
  unfold key at keys
  split at keys
  · rw [show parts = parts' from keys]
  · rw [show parts = parts' from (List.cons.inj keys).2]

end Path

/-! ## What a pattern leads to -/

namespace FileTree

variable {tree : FileTree} {location : Location}

theorem mem_namesAt {name : String} :
    name ∈ tree.namesAt location ↔ (tree.node? (location ++ [name])).isSome = true := by
  have snoc : ∀ place : Location,
      (if place.dropLast = location then place.getLast? else none) = some name ↔
        place = location ++ [name] := by
    intro place
    constructor
    · intro named
      split at named
      · rename_i above
        obtain ⟨front, rfl⟩ := List.getLast?_eq_some_iff.mp named
        rw [← above, List.dropLast_concat]
      · cases named
    · rintro rfl
      simp
  simp only [namesAt, List.mem_eraseDups, List.mem_filterMap, snoc, exists_eq_right,
    List.mem_append, List.mem_map, isSome_node?]

theorem mem_waysBelow {way : List String} :
    way ∈ tree.waysBelow location ↔ location ++ way ∈ tree.allDirectories := by
  simp only [waysBelow, List.mem_filterMap]
  constructor
  · rintro ⟨place, there, below⟩
    split at below
    · rename_i leads
      obtain ⟨rest, rfl⟩ := List.isPrefixOf_iff_prefix.mp leads
      rw [List.drop_left, Option.some.injEq] at below
      exact below ▸ there
    · cases below
  · intro there
    refine ⟨_, there, ?_⟩
    rw [if_pos (List.isPrefixOf_iff_prefix.mpr (List.prefix_append location way)), List.drop_left]

end FileTree

namespace Glob

variable {tree : FileTree} {gone : List Location} {parts : List Part} {path target : Path}

theorem mem_below {ways : Location → List (List String)} :
    target ∈ below tree path ways ↔
      ∃ location, tree.locate path = .ok location ∧
        ∃ way ∈ ways location, path.join { parts := way } = target := by
  unfold below
  cases tree.locate path with
  | error problem => simp
  | ok location => simp

theorem mem_below_namesAt {wilds : List Wild} :
    target ∈ below tree path (fun location =>
        (tree.namesAt location).filterMap fun name =>
          if isMatch wilds name.toList then some [name] else none) ↔
      ∃ location name, tree.locate path = .ok location ∧
        (tree.node? (location ++ [name])).isSome = true ∧ isMatch wilds name.toList = true ∧
        path.child name = target := by
  rw [mem_below]
  simp only [List.mem_filterMap, FileTree.mem_namesAt]
  constructor
  · rintro ⟨location, here, way, ⟨name, there, named⟩, rfl⟩
    split at named
    · rename_i same
      cases named
      exact ⟨location, name, here, there, same, rfl⟩
    · cases named
  · rintro ⟨location, name, here, there, same, rfl⟩
    exact ⟨location, here, [name], ⟨name, there, by rw [if_pos same]⟩, rfl⟩

/-- One part of a pattern leads from a path to the next. Only the last part may lead to anything
but a directory. -/
inductive Leads (tree : FileTree) (last : Bool) (path : Path) : Part → Path → Prop
  | deep {location : Location} {way : List String} (here : tree.locate path = .ok location)
      (there : location ++ way ∈ tree.allDirectories) :
      Leads tree last path .deep { path with parts := path.parts ++ way }
  | wild {location : Location} {wilds : List Wild} {name : String}
      (here : tree.locate path = .ok location)
      (there : (tree.node? (location ++ [name])).isSome = true)
      (same : isMatch wilds name.toList = true)
      (on : last = true ∨ tree.isDirectory (path.child name) = true) :
      Leads tree last path (.wild wilds) (path.child name)
  | exact {name : String} (there : tree.contains (path.child name) = true)
      (on : last = true ∨ tree.isDirectory (path.child name) = true) :
      Leads tree last path (.exact name) (path.child name)

/-- A path is selected if a part of the pattern leads there from one that is on the way. -/
theorem mem_select_cons {part : Part} :
    target ∈ select tree (part :: parts) path ↔
      part = .stop ∧ target = path ∨
        ∃ next, Leads tree parts.isEmpty path part next ∧ target ∈ select tree parts next := by
  cases part with
  | stop =>
      rw [select, List.mem_singleton]
      constructor
      · exact fun same => .inl ⟨rfl, same⟩
      · rintro (⟨-, same⟩ | ⟨next, leads, -⟩)
        · exact same
        · cases leads
  | deep =>
      rw [select, List.mem_flatMap]
      constructor
      · rintro ⟨next, near, on⟩
        obtain ⟨location, here, way, below, rfl⟩ := mem_below.mp near
        exact .inr ⟨_, .deep here (FileTree.mem_waysBelow.mp below), on⟩
      · rintro (⟨stop, -⟩ | ⟨next, leads, on⟩)
        · cases stop
        · cases leads with
          | deep here there =>
              exact ⟨_, mem_below.mpr ⟨_, here, _, FileTree.mem_waysBelow.mpr there, rfl⟩, on⟩
  | wild wilds =>
      rw [select, List.mem_flatMap]
      constructor
      · rintro ⟨next, near, on⟩
        split at near
        · rename_i last
          obtain ⟨location, name, here, there, same, rfl⟩ := mem_below_namesAt.mp near
          exact .inr ⟨_, .wild here there same (.inl last), on⟩
        · obtain ⟨near, directory⟩ := List.mem_filter.mp near
          obtain ⟨location, name, here, there, same, rfl⟩ := mem_below_namesAt.mp near
          exact .inr ⟨_, .wild here there same (.inr directory), on⟩
      · rintro (⟨stop, -⟩ | ⟨next, leads, on⟩)
        · cases stop
        · cases leads with
          | wild here there same directory =>
              have near := mem_below_namesAt.mpr ⟨_, _, here, there, same, rfl⟩
              refine ⟨_, ?_, on⟩
              split
              · exact near
              · rename_i more
                exact List.mem_filter.mpr ⟨near, directory.resolve_left more⟩
  | exact name =>
      have there : (if parts.isEmpty then tree.contains (path.child name)
            else tree.isDirectory (path.child name)) = true ↔
          tree.contains (path.child name) = true ∧
            (parts.isEmpty = true ∨ tree.isDirectory (path.child name) = true) := by
        cases parts.isEmpty with
        | true => simp
        | false => simpa using FileTree.contains_of_isDirectory
      simp only [select, List.mem_ite_nil_right, there]
      constructor
      · rintro ⟨⟨there, directory⟩, on⟩
        exact .inr ⟨_, .exact there directory, on⟩
      · rintro (⟨stop, -⟩ | ⟨next, leads, on⟩)
        · cases stop
        · cases leads with
          | exact there directory => exact ⟨⟨there, directory⟩, on⟩

/-- Everything that is found starts where the search does. -/
theorem anchor_of_mem_select (found : target ∈ select tree parts path) :
    target.anchor = path.anchor := by
  induction parts generalizing path with
  | nil => rw [List.mem_singleton.mp found]
  | cons part parts ih =>
      obtain ⟨-, rfl⟩ | ⟨next, leads, on⟩ := mem_select_cons.mp found
      · rfl
      · rw [ih on]
        cases leads <;> rfl

/-! ## What is left when files are gone -/

/-- Deleting files opens no way. -/
theorem Leads.of_delete (consistent : tree.Consistent) {last : Bool} {part : Part} {next : Path}
    (leads : Leads (tree.delete gone) last path part next) : Leads tree last path part next := by
  cases leads with
  | deep here there =>
      exact .deep (consistent.locate_delete.mp here).1 (FileTree.mem_allDirectories_delete.mp there)
  | wild here there same on =>
      refine .wild (consistent.locate_delete.mp here).1 ?_ same ?_
      · exact consistent.isSome_of_delete there
      · rwa [consistent.isDirectory_delete] at on
  | exact there on =>
      refine .exact ?_ ?_
      · obtain ⟨node, there⟩ := FileTree.contains_iff.mp there
        exact FileTree.contains_iff.mpr ⟨node, (consistent.lookup_delete.mp there).1⟩
      · rwa [consistent.isDirectory_delete] at on

/-- A way stays open if what it leads to stays. -/
theorem Leads.delete (consistent : tree.Consistent) {last : Bool} {part : Part} {next : Path}
    (leads : Leads tree last path part next)
    (stays : last = true → (tree.delete gone).contains next = true) :
    Leads (tree.delete gone) last path part next := by
  have start : ∀ {location : Location}, tree.locate path = .ok location →
      location ∈ tree.allDirectories → (tree.delete gone).locate path = .ok location := by
    intro location here there
    refine consistent.locate_delete.mpr ⟨here, ?_⟩
    exact FileTree.isSome_node?.mpr (.inl (FileTree.mem_allDirectories_delete.mpr there))
  have stays' : last = true ∨ tree.isDirectory next = true →
      (tree.delete gone).contains next = true := by
    rintro (last | directory)
    · exact stays last
    · exact FileTree.contains_of_isDirectory (consistent.isDirectory_delete gone _ ▸ directory)
  cases leads with
  | deep here there =>
      refine .deep (start here ?_) (FileTree.mem_allDirectories_delete.mpr there)
      exact FileTree.above_mem_allDirectories there (List.prefix_append _ _)
  | wild here there same on =>
      have above := FileTree.mem_allDirectories_of_concat there
      have left := consistent.isSome_delete_of_child here there (stays' on)
      rw [← consistent.isDirectory_delete gone] at on
      exact .wild (start here above) left same on
  | exact there on =>
      have left := stays' on
      rw [← consistent.isDirectory_delete gone] at on
      exact .exact left on

theorem mem_select_of_delete (consistent : tree.Consistent)
    (found : target ∈ select (tree.delete gone) parts path) : target ∈ select tree parts path := by
  induction parts generalizing path with
  | nil => exact found
  | cons part parts ih =>
      rw [mem_select_cons] at found ⊢
      obtain stop | ⟨next, leads, on⟩ := found
      · exact .inl stop
      · exact .inr ⟨next, leads.of_delete consistent, ih on⟩

theorem mem_select_delete (consistent : tree.Consistent)
    (found : target ∈ select tree parts path)
    (stays : (tree.delete gone).contains target = true) :
    target ∈ select (tree.delete gone) parts path := by
  induction parts generalizing path with
  | nil => exact found
  | cons part parts ih =>
      rw [mem_select_cons] at found ⊢
      obtain stop | ⟨next, leads, on⟩ := found
      · exact .inl stop
      · refine .inr ⟨next, leads.delete consistent fun last => ?_, ih on⟩
        rw [List.isEmpty_iff.mp last] at on
        exact List.mem_singleton.mp on ▸ stays

theorem eraseDups_nodup (paths : List Path) : paths.eraseDups.Nodup := by
  induction length : paths.length using Nat.strongRecOn generalizing paths with
  | ind n ih =>
      cases paths with
      | nil => simp
      | cons path paths =>
          rw [List.eraseDups_cons, List.nodup_cons]
          constructor
          · simp
          · refine ih _ ?_ _ rfl
            rw [← length]
            exact Nat.lt_succ_of_le (List.length_filter_le _ _)

variable {pattern : String} {directory : Path} {found : List Path}

/-- What a search gives: the files among what the pattern leads to, sorted. -/
theorem files_eq_ok (globbed : files tree pattern directory = .ok found) :
    ∃ parts, read pattern = .ok parts ∧
      found = if tree.isDirectory directory then
          (((select tree parts directory).filter tree.isFile).eraseDups).mergeSort Path.le
        else [] := by
  unfold files at globbed
  cases known : read pattern with
  | error failure => simp [known, bind, Except.bind] at globbed
  | ok parts =>
      refine ⟨parts, rfl, ?_⟩
      rw [known] at globbed
      cases there : tree.isDirectory directory with
      | false => simpa [there, bind, Except.bind, pure, Except.pure] using globbed.symm
      | true => simpa [there, bind, Except.bind, pure, Except.pure] using globbed.symm

theorem mem_files {parts : List Part} {path : Path} :
    path ∈ (((select tree parts directory).filter tree.isFile).eraseDups).mergeSort Path.le ↔
      path ∈ select tree parts directory ∧ tree.isFile path = true := by
  rw [List.mem_mergeSort, List.mem_eraseDups, List.mem_filter]

/-- The sources are in order, each once. -/
theorem sorted_mergeSort (paths : List Path) :
    (paths.eraseDups.mergeSort Path.le).Pairwise (fun a b => a.le b = true) ∧
      (paths.eraseDups.mergeSort Path.le).Nodup := by
  constructor
  · exact List.pairwise_mergeSort (fun a b c => Path.le_trans (a := a)) Path.le_total _
  · exact (List.mergeSort_perm _ _).nodup_iff.mpr (eraseDups_nodup _)

/-- The sources come in the order of their paths, and each comes once. -/
theorem files_sorted (globbed : files tree pattern directory = .ok found) :
    found.Pairwise (fun a b => a.le b = true) ∧ found.Nodup := by
  obtain ⟨parts, -, rfl⟩ := files_eq_ok globbed
  split
  · exact sorted_mergeSort _
  · simp

theorem isFile_of_mem_files (globbed : files tree pattern directory = .ok found)
    (member : path ∈ found) : tree.isFile path = true := by
  obtain ⟨parts, -, rfl⟩ := files_eq_ok globbed
  split at member
  · exact (mem_files.mp member).2
  · cases member

/-- Deleting files takes just their paths out of the sources. -/
theorem files_delete (consistent : tree.Consistent) (gone : List Location)
    (globbed : files tree pattern directory = .ok found) :
    files (tree.delete gone) pattern directory = .ok (found.filter (tree.avoids gone)) := by
  obtain ⟨parts, known, rfl⟩ := files_eq_ok globbed
  have files_eq : files (tree.delete gone) pattern directory =
      .ok (if tree.isDirectory directory then
        (((select (tree.delete gone) parts directory).filter
          (tree.delete gone).isFile).eraseDups).mergeSort Path.le else []) := by
    rw [files, known, consistent.isDirectory_delete]
    cases tree.isDirectory directory <;> rfl
  rw [files_eq]
  split
  · -- Both lists are sorted and hold the same paths once each.
    have sorted := sorted_mergeSort ((select tree parts directory).filter tree.isFile)
    have sorted' := sorted_mergeSort
      ((select (tree.delete gone) parts directory).filter (tree.delete gone).isFile)
    refine congrArg Except.ok (List.Perm.eq_of_pairwise ?_ sorted'.1 (sorted.1.filter _) ?_)
    · intro a b left right
      have left' := (mem_files.mp left).1
      have right' := (mem_files.mp (List.mem_filter.mp right).1).1
      exact Path.le_antisymm
        ((anchor_of_mem_select left').trans (anchor_of_mem_select right').symm)
    · refine (List.perm_ext_iff_of_nodup sorted'.2 (sorted.2.filter _)).mpr fun path => ?_
      rw [mem_files, List.mem_filter, mem_files, consistent.isFile_delete]
      constructor
      · rintro ⟨found, file, stays⟩
        exact ⟨⟨mem_select_of_delete consistent found, file⟩, stays⟩
      · rintro ⟨⟨found, file⟩, stays⟩
        refine ⟨mem_select_delete consistent found ?_, file, stays⟩
        exact FileTree.contains_of_isFile (consistent.isFile_delete.mpr ⟨file, stays⟩)
  · rfl

end Glob

end OverlayPatch
