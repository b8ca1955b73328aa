import Mathlib
import OverlayPatch.DryRun
import OverlayPatch.Proofs.Layout

/-!
# Addresses at the end of the address space

Allocation and linking compare the end of every variable and hook with the end of the address
space, and not its location. For whatever has a byte that comes to the same. What is empty ends
where it begins, so it may also stand right behind the last address: `assembleSource_addresses`
says that this is the only address out of range that is ever given away, and `empty_past_end` that
it is given away, put in place of references and branched to.
-/

namespace OverlayPatch

set_option autoImplicit false

variable {σ : Type}

/-- Every region of a tiling lies between its ends. -/
theorem Tiles.bounds {start stop : Int} {regions : List Region} (tiles : Tiles start regions stop) :
    ∀ region ∈ regions, start ≤ region.location ∧ region.limit ≤ stop := by
  induction regions generalizing start with
  | nil => simp
  | cons head regions ih =>
      obtain ⟨rfl, rest⟩ := tiles
      have grows : head.location ≤ head.limit := by
        unfold Region.limit
        omega
      intro region member
      rcases List.mem_cons.mp member with rfl | member
      · have stop := rest.stop_eq
        exact ⟨le_rfl, by omega⟩
      · obtain ⟨low, high⟩ := ih rest region member
        exact ⟨grows.trans low, high⟩

/-- The last address is `0xFFFFFFFF`. -/
theorem addressLimit_eq : Number.addressLimit = 0xFFFFFFFF + 1 :=
  rfl

/-- The region ends within the address space, and it also begins there unless it is empty and
stands right behind the last address. -/
def Region.Fits (region : Region) : Prop :=
  0 ≤ region.location ∧ region.limit ≤ 0xFFFFFFFF + 1 ∧
    (0xFFFFFFFF < region.location ↔ region.location = 0xFFFFFFFF + 1 ∧ region.bytes = [])

theorem Region.fits_of_limit_le {region : Region} (low : 0 ≤ region.location)
    (high : region.limit ≤ Number.addressLimit) : region.Fits := by
  rw [addressLimit_eq] at high
  refine ⟨low, high, ?_⟩
  rw [← List.length_eq_zero_iff]
  unfold Region.limit at high
  omega

/-- In a module that was assembled from an address on, every variable and every hook ends within
the address space. An address beyond it is given to none of them, except that what is empty may
stand right behind the last address. -/
theorem assembleSource_addresses (encoder : Encoder σ) (settings : Settings)
    (arch : Option Architecture) (name text : String) {start : Int} (positive : 0 ≤ start)
    {bench later : Bench σ} {patch : Patch}
    (ran : (assembleSource encoder settings arch name text start).run bench = (.ok patch, later)) :
    ∃ target, settings.target arch = .ok target ∧
    ∃ stages : Stages encoder settings target name text start bench patch,
      (∀ v ∈ stages.allocation.vars, v.region.Fits) ∧
      ∀ routine ∈ stages.linked, routine.isHook = true →
        ∃ location, routine.placement = some location ∧
          Region.Fits { location, bytes := routine.data } := by
  obtain ⟨target, chosen, ⟨stages⟩⟩ := stages_of_assembleSource ran
  have fits (present : stages.allocation.vars ≠ [] ∨
      ∃ routine ∈ stages.linked, routine.isHook = true) :
      ∀ region ∈ stages.regions, region.Fits := by
    intro region member
    obtain ⟨low, high⟩ := stages.tiles.bounds region member
    exact Region.fits_of_limit_le (positive.trans low) (high.trans (stages.limit_le present))
  refine ⟨target, chosen, stages, ?_, ?_⟩
  · intro v member
    exact fits (.inl (List.ne_nil_of_mem member)) _
      (List.mem_append_left _ (List.mem_map_of_mem member))
  · intro routine member moves
    obtain ⟨location, -, placed, -⟩ :=
      Routine.placed_of_completes stages.completes routine member moves
    refine ⟨location, placed, fits (.inr ⟨routine, member, moves⟩) _
      (List.mem_append_right _ ?_)⟩
    exact List.mem_filterMap.mpr ⟨routine, member, by simp [Routine.region?, moves, placed]⟩

/-- A word, a label behind it and a replacement that reads the label. -/
def fullText : String :=
  "aappend_00000000:\nlast: .word 7\nend:\narepl_FFFFFFF0:\nldr r0, =end \n"

def fullRun : Except Failure Patch × Bench Unit :=
  (assembleSource DryRun.encoder {} none "menu" fullText 0xFFFFFFFC).run { state := () }

/-- The last word of the address space is taken, and the empty variable behind it still fits. -/
theorem assembleSource_addresses_full :
    ∃ patch, fullRun.1 = .ok patch ∧ patch.blob = [0, 0, 0, 0, 7, 0, 0, 0] ∧
      ∃ stages : Stages DryRun.encoder {} .arm "menu" fullText 0xFFFFFFFC { state := () } patch,
        ∀ v ∈ stages.allocation.vars, v.region.Fits := by
  have blob : fullRun.1.map (·.blob) = .ok [0, 0, 0, 0, 7, 0, 0, 0] := by decide +kernel
  obtain ⟨patch, finished, bytes⟩ := map_ok blob
  have ran := (Prod.eta fullRun).symm
  rw [finished] at ran
  obtain ⟨target, chosen, stages, vars, -⟩ :=
    assembleSource_addresses DryRun.encoder {} none "menu" fullText (by decide) ran
  obtain rfl : Architecture.arm = target := by
    have arm : ({} : Settings).target none = .ok .arm := by decide
    exact Except.ok.inj (arm.symm.trans chosen)
  exact ⟨patch, finished, bytes.symm, stages, vars⟩

/-- A label, an alias of it that is a comment, and a hook, all empty. -/
def emptyText : String :=
  "aappend_00000000:\nz:\np: @[z]\nahook_02000000:\n"

def emptyRun : Except Failure Assembled × Bench Unit :=
  (assembleWith DryRun.encoder {} .arm "m" emptyText 0x100000000).run { state := () }

/-- What is empty is placed behind the last address; references are replaced by that address, and
the branch of the hook leads there. -/
theorem empty_past_end :
    emptyRun.1.map (fun assembled => assembled.allocation.vars.map (·.location)) =
        .ok [0x100000000, 0x100000000] ∧
      emptyRun.1.map (fun assembled => assembled.routines.map (·.placement)) =
        .ok [some 0x100000000] ∧
      emptyRun.2.calls = ["z:", "p: @0x100000000", "\n", "bl 0xFE000000"] := by
  refine ⟨by decide +kernel, by decide +kernel, by decide +kernel⟩

end OverlayPatch
