import OverlayPatch.Patch
import Mathlib.Data.List.Basic

/-!
# Regions of memory

A `Region` is a run of bytes together with the address that was computed for it. Addresses and
bytes come about in different places: addresses are counted up while variables and hooks are
placed, and the bytes are strung together afterwards. Two notions say that the two agree.

* `Tiles start regions stop`: by their addresses the regions follow one another from `start` to
  `stop`, without a gap and without an overlap;
* `Region.LiesIn`: in an image that is loaded at some base, the bytes of the region stand at its
  address.

`Tiles.liesIn` is the bridge: regions that tile from the right address lie where their bytes end
up when they are strung together.
-/

namespace OverlayPatch

set_option autoImplicit false

/-- Bytes and the address they are meant for. -/
structure Region where
  location : Int
  bytes : List UInt8
deriving Repr, DecidableEq

def Region.limit (region : Region) : Int :=
  region.location + region.bytes.length

/-- In the image loaded at `base`, the bytes of the region stand at its location. -/
def Region.LiesIn (base : Int) (image : List UInt8) (region : Region) : Prop :=
  ∃ before after, image = before ++ region.bytes ++ after ∧
    region.location = base + before.length

/-- The regions follow one another from `start` to `stop`. -/
def Tiles : Int → List Region → Int → Prop
  | start, [], stop => start = stop
  | start, region :: regions, stop => region.location = start ∧ Tiles region.limit regions stop

def Variable.region (v : Variable) : Region where
  location := v.location
  bytes := v.value

def Routine.region? (routine : Routine) : Option Region :=
  if routine.isHook then routine.placement.map fun location => { location, bytes := routine.data }
  else none

/-! ## Tilings -/

/-- A layout can be taken apart anywhere. -/
theorem tiles_append {start stop : Int} {first later : List Region} :
    Tiles start (first ++ later) stop ↔
      ∃ middle, Tiles start first middle ∧ Tiles middle later stop := by
  induction first generalizing start with
  | nil => simp [Tiles]
  | cons region first ih => simp only [List.cons_append, Tiles, ih, and_assoc, exists_and_left]

theorem tiles_snoc {start stop : Int} {regions : List Region} {region : Region}
    (tiles : Tiles start regions stop) (next : region.location = stop) :
    Tiles start (regions ++ [region]) region.limit :=
  tiles_append.mpr ⟨stop, tiles, next, rfl⟩

/-- A tiling is as long as its bytes. -/
theorem Tiles.stop_eq {start stop : Int} {regions : List Region}
    (tiles : Tiles start regions stop) :
    stop = start + (regions.flatMap (·.bytes)).length := by
  induction regions generalizing start with
  | nil => simpa [Tiles] using tiles.symm
  | cons region regions ih =>
      obtain ⟨rfl, rest⟩ := tiles
      rw [ih rest, Region.limit, List.flatMap_cons, List.length_append]
      push_cast
      omega

/-- Regions that tile from the end of `lead` lie where their bytes are strung together behind
it. -/
theorem Tiles.liesIn {start stop base : Int} {regions : List Region} {lead : List UInt8}
    (tiles : Tiles start regions stop) (begins : start = base + lead.length) :
    ∀ region ∈ regions, region.LiesIn base (lead ++ regions.flatMap (·.bytes)) := by
  induction regions generalizing start lead with
  | nil => simp
  | cons head regions ih =>
      obtain ⟨rfl, rest⟩ := tiles
      intro region member
      rcases List.mem_cons.mp member with rfl | member
      · exact ⟨lead, regions.flatMap (·.bytes), by simp, begins⟩
      · have later : head.limit = base + (lead ++ head.bytes).length := by
          rw [Region.limit, begins, List.length_append]
          push_cast
          omega
        simpa using ih rest later region member

end OverlayPatch
