import Mathlib
import OverlayPatch.Proofs.Layout

/-!
# The order of declarations that does not show

Allocation places what stands on its own before the aliases, and routines are assembled after both.
So a module says the same however its append blocks are split, wherever they stand among the
routines, and however direct declarations and aliases alternate in them, as long as each of these
three strands keeps its own order (`SameStrands`).

Two things look at the whole list of declarations: the hint of a reference that does not resolve,
and the search for a repeated name. The hint asks for membership only, so it is the same for lists
with the same members (`unresolved_congr`). The search follows the list; whether a name repeats is
the same (`SameStrands.nodup_iff`), but which one is found first may differ.
`assembleSource_interleaving` draws both together for whole modules.
-/

namespace OverlayPatch

set_option autoImplicit false

variable {σ : Type}

namespace Declaration

/-! ## Strands -/

/-- Two lists hold the same declarations that stand on their own and the same aliases, in the same
order each. -/
structure SameStrands (one other : List Declaration) : Prop where
  direct : one.filter (!·.isAlias) = other.filter (!·.isAlias)
  aliases : one.filter (·.isAlias) = other.filter (·.isAlias)

variable {one other : List Declaration}

theorem SameStrands.perm (same : SameStrands one other) : one.Perm other := by
  have parts (declarations : List Declaration) :
      (declarations.filter (·.isAlias) ++ declarations.filter (!·.isAlias)).Perm declarations :=
    List.filter_append_perm _ _
  refine (parts one).symm.trans ?_
  rw [same.direct, same.aliases]
  exact parts other

/-- Names are distinct in both or in none. -/
theorem SameStrands.nodup_iff (same : SameStrands one other) :
    (one.map (·.name)).Nodup ↔ (other.map (·.name)).Nodup :=
  (same.perm.map _).nodup_iff

theorem firstRepeated?_of_nodup (distinct : (one.map (·.name)).Nodup) :
    firstRepeated? [] one = none := by
  cases search : firstRepeated? [] one with
  | none => rfl
  | some name =>
      have repeated : FirstRepeated one name := by
        simpa [FirstRepeated] using firstRepeated?_eq_some List.nodup_nil search
      exact absurd distinct repeated.not_nodup

theorem firstRepeated?_of_not_nodup (twice : ¬ (one.map (·.name)).Nodup) :
    ∃ name, firstRepeated? [] one = some name ∧ FirstRepeated one name := by
  cases search : firstRepeated? [] one with
  | none =>
      have distinct := firstRepeated?_eq_none List.nodup_nil search
      exact absurd (by simpa using distinct) twice
  | some name =>
      have found := firstRepeated?_eq_some List.nodup_nil search
      exact ⟨name, rfl, by simpa [FirstRepeated] using found⟩

-- Which of two repeated names is found first depends on how direct declarations and aliases
-- alternate.
example :
    let a : Declaration := { name := "a", text := "a: 7" }
    let b : Declaration := { name := "b", text := "b: 9" }
    let a' : Declaration := { name := "a", text := "a: [b]", references := ["b"] }
    let b' : Declaration := { name := "b", text := "b: [a]", references := ["a"] }
    SameStrands [a, b, b', a'] [a, b', a', b] ∧
      firstRepeated? [] [a, b, b', a'] = some "b" ∧
      firstRepeated? [] [a, b', a', b] = some "a" :=
  ⟨⟨by decide, by decide⟩, by decide, by decide⟩

end Declaration

namespace Allocation

open Declaration

variable {one other : List Declaration}

/-! ## Allocation -/

/-- Why a reference does not resolve is told by the members of the list alone. -/
theorem unresolved_congr (perm : one.Perm other) (origin : Option String)
    (declaration : Declaration) (allocation : Allocation) (reference : String) :
    unresolved one origin declaration allocation reference =
      unresolved other origin declaration allocation reference := by
  have later : one.any (·.name = reference) = other.any (·.name = reference) := by
    rw [Bool.eq_iff_iff, List.any_eq_true, List.any_eq_true]
    exact exists_congr fun d => and_congr_left' perm.mem_iff
  simp only [unresolved, later]

/-- References resolve by the declarations there are, not by their order. -/
theorem resolve_congr (perm : one.Perm other) (origin : Option String)
    (declaration : Declaration) (allocation : Allocation) (references : List String) :
    (resolve one origin declaration allocation references : Work σ Locations) =
      resolve other origin declaration allocation references := by
  induction references with
  | nil => rfl
  | cons reference references ih =>
      simp only [resolve, ih, unresolved_congr perm]

theorem placeAlias_congr (encoder : Encoder σ) (perm : one.Perm other) (origin : Option String) :
    placeAlias encoder one origin = placeAlias encoder other origin := by
  funext allocation declaration
  simp only [placeAlias, resolve_congr perm]

/-- As long as no name repeats, allocation works through the strands and sees nothing else. -/
theorem ofDeclarations_congr (encoder : Encoder σ) (origin : Option String) (start : Int)
    (same : SameStrands one other) (distinct : (one.map (·.name)).Nodup) :
    ofDeclarations encoder origin start one = ofDeclarations encoder origin start other := by
  have search := firstRepeated?_of_nodup distinct
  have search' := firstRepeated?_of_nodup (same.nodup_iff.mp distinct)
  simp only [ofDeclarations, search, search', same.direct, same.aliases,
    placeAlias_congr encoder same.perm]

/-- A name that is declared twice is found before anything is placed. -/
theorem ofDeclarations_repeated (encoder : Encoder σ) (origin : Option String) (start : Int)
    (twice : ¬ (one.map (·.name)).Nodup) :
    ∃ name, FirstRepeated one name ∧
      ofDeclarations encoder origin start one = Work.fail (Fault.duplicate name origin) := by
  obtain ⟨name, search, first⟩ := firstRepeated?_of_not_nodup twice
  exact ⟨name, first, by simp only [ofDeclarations, search]⟩

end Allocation

/-! ## Modules -/

theorem Work.ofExcept_ok_bind {α β : Type} (a : α) (next : α → Work σ β) :
    (ofExcept (.ok a) >>= next) = next a :=
  rfl

theorem Work.ofReading_ok_bind {α β : Type} (a : α) (next : α → Work σ β) :
    (ofReading (.ok a) >>= next) = next a :=
  rfl

theorem Work.fail_bind {α β : Type} (fault : Fault) (next : α → Work σ β) :
    (fail fault >>= next) = fail fault :=
  rfl

/-- The architecture is settled before the text is looked at. -/
theorem assembleSource_eq (encoder : Encoder σ) (settings : Settings) (arch : Option Architecture)
    (name text : String) (start : Int) :
    assembleSource encoder settings arch name text start =
      Work.ofExcept (settings.target arch) >>= fun target =>
        assembleWith encoder settings target name text start >>= fun assembled =>
          pure assembled.patch := by
  cases arch <;> rfl

/-- What a text comes to under the name of a module: its directives and its declarations. -/
structure Reads (name text : String) (directives : List Directive)
    (declarations : List Declaration) : Prop where
  read : Directive.readAll name text = .ok directives
  collected : Declaration.collect name directives = .ok declarations

section Modules

open Declaration

variable {settings : Settings} {name text text' : String}
  {directives directives' : List Directive} {declarations declarations' : List Declaration}

/-- Texts with the same strands of declarations and the same routines are assembled alike. -/
theorem assembleWith_congr (encoder : Encoder σ) (settings : Settings) (arch : Architecture)
    (start : Int) (reads : Reads name text directives declarations)
    (reads' : Reads name text' directives' declarations')
    (same : SameStrands declarations declarations')
    (routines : directives.filter (·.mode ≠ .append) = directives'.filter (·.mode ≠ .append))
    (distinct : (declarations.map (·.name)).Nodup) :
    assembleWith encoder settings arch name text start =
      assembleWith encoder settings arch name text' start := by
  have placed := Allocation.ofDeclarations_congr encoder (some name) start same distinct
  unfold assembleWith
  rw [reads.read, reads'.read, Work.ofReading_ok_bind, Work.ofReading_ok_bind, reads.collected,
    reads'.collected, Work.ofReading_ok_bind, Work.ofReading_ok_bind, placed]
  simp only [Routine.assembleAll, routines]

theorem assembleWith_repeated (encoder : Encoder σ) (settings : Settings) (arch : Architecture)
    (start : Int) (reads : Reads name text directives declarations)
    (twice : ¬ (declarations.map (·.name)).Nodup) :
    ∃ repeated, FirstRepeated declarations repeated ∧
      assembleWith encoder settings arch name text start =
        Work.fail (Fault.duplicate repeated (some name)) := by
  obtain ⟨repeated, first, fails⟩ :=
    Allocation.ofDeclarations_repeated encoder (some name) start twice
  refine ⟨repeated, first, ?_⟩
  unfold assembleWith
  rw [reads.read, Work.ofReading_ok_bind, reads.collected, Work.ofReading_ok_bind, fails,
    Work.fail_bind]

theorem assembleSource_repeated (encoder : Encoder σ) {arch : Option Architecture}
    {target : Architecture} (chosen : settings.target arch = .ok target) (start : Int)
    (reads : Reads name text directives declarations)
    (twice : ¬ (declarations.map (·.name)).Nodup) :
    ∃ repeated, FirstRepeated declarations repeated ∧
      assembleSource encoder settings arch name text start =
        Work.fail (Fault.duplicate repeated (some name)) := by
  obtain ⟨repeated, first, fails⟩ :=
    assembleWith_repeated encoder settings target start reads twice
  refine ⟨repeated, first, ?_⟩
  rw [assembleSource_eq, chosen, Work.ofExcept_ok_bind, fails, Work.fail_bind]

/-- Two texts with the same direct declarations, the same aliases and the same routines, each in
their order, are handed to the encoder alike and leave the same bench. Unless a name is declared
twice they also have the same outcome. A name that is declared twice is refused in both before
anything is encoded, though perhaps not the same one; only if there is no architecture to assemble
for, both fail for that reason. -/
theorem assembleSource_interleaving (encoder : Encoder σ) (settings : Settings)
    (arch : Option Architecture) (start : Int) (bench : Bench σ)
    (reads : Reads name text directives declarations)
    (reads' : Reads name text' directives' declarations')
    (direct : declarations.filter (!·.isAlias) = declarations'.filter (!·.isAlias))
    (aliases : declarations.filter (·.isAlias) = declarations'.filter (·.isAlias))
    (routines : directives.filter (·.mode ≠ .append) = directives'.filter (·.mode ≠ .append)) :
    let one := (assembleSource encoder settings arch name text start).run bench
    let other := (assembleSource encoder settings arch name text' start).run bench
    one.2 = other.2 ∧
    ((declarations.map (·.name)).Nodup → one.1 = other.1) ∧
    (¬ (declarations.map (·.name)).Nodup →
      match settings.target arch with
      | .error failure => one = (.error failure, bench) ∧ other = (.error failure, bench)
      | .ok _ => ∃ repeated repeated',
          FirstRepeated declarations repeated ∧ FirstRepeated declarations' repeated' ∧
          one = (.error (.fault (Fault.duplicate repeated (some name))), bench) ∧
          other = (.error (.fault (Fault.duplicate repeated' (some name))), bench)) := by
  have same : SameStrands declarations declarations' := ⟨direct, aliases⟩
  by_cases distinct : (declarations.map (·.name)).Nodup
  · have equal : assembleSource encoder settings arch name text start =
        assembleSource encoder settings arch name text' start := by
      simp only [assembleSource_eq,
        assembleWith_congr encoder settings _ start reads reads' same routines distinct]
    simp only [equal, distinct, not_true_eq_false, false_implies, implies_true, and_self]
  · have twice' : ¬ (declarations'.map (·.name)).Nodup := mt same.nodup_iff.mpr distinct
    cases chosen : settings.target arch with
    | error failure =>
        have fails (text : String) :
            (assembleSource encoder settings arch name text start).run bench =
              (.error failure, bench) := by
          rw [assembleSource_eq, chosen]
          rfl
        simp only [fails, distinct, and_self, implies_true]
    | ok target =>
        obtain ⟨repeated, first, fails⟩ :=
          assembleSource_repeated encoder chosen start reads distinct
        obtain ⟨repeated', first', fails'⟩ :=
          assembleSource_repeated encoder chosen start reads' twice'
        rw [fails, fails']
        exact ⟨rfl, fun unique => absurd unique distinct,
          fun _ => ⟨repeated, repeated', first, first', rfl, rfl⟩⟩

end Modules

/-- An encoder that numbers the texts it is handed. -/
def Encoder.numbering : Encoder Nat where
  answer _ count := (.accepted [0, 0, 0, UInt8.ofNat count] [], count + 1)

/-- A module with all its declarations in front. -/
def gathered : String :=
  "aappend_00000000:\nb: [a]\na: 7\nc: 9\narepl_020C7700:\nnop\nahook_020C7710:\nldr r0, =b \n"

/-- The same module with its declarations spread among the routines. -/
def scattered : String :=
  "arepl_020C7700:\nnop\naappend_00000000:\na: 7\nahook_020C7710:\nldr r0, =b \n" ++
    "aappend_00000000:\nc: 9\naappend_00000000:\n@ pointers\nb: [a]\n"

def numberedRun (text : String) : Except Failure Patch × Bench Nat :=
  (assembleSource .numbering {} none "menu" text 100).run { state := 0 }

/-- Declarations in front and spread among routines, with an encoder that counts. -/
theorem assembleSource_interleaving_scattered :
    (numberedRun gathered).1.isOk = true ∧
      (numberedRun gathered).2.calls.take 3 = ["a: 7", "c: 9", "b: 0x00000064"] ∧
      (numberedRun gathered).2 = (numberedRun scattered).2 ∧
      (numberedRun gathered).1 = (numberedRun scattered).1 := by
  have reads : Reads "menu" gathered
      [{ site := .append, body := "\nb: [a]\na: 7\nc: 9\n" },
        { site := .repl 0x020C7700, body := "\nnop\n" },
        { site := .hook 0x020C7710, body := "\nldr r0, =b \n" }]
      [{ name := "b", text := "b: [a]", references := ["a"] }, { name := "a", text := "a: 7" },
        { name := "c", text := "c: 9" }] :=
    ⟨by decide +kernel, by decide +kernel⟩
  have reads' : Reads "menu" scattered
      [{ site := .repl 0x020C7700, body := "\nnop\n" },
        { site := .append, body := "\na: 7\n" },
        { site := .hook 0x020C7710, body := "\nldr r0, =b \n" },
        { site := .append, body := "\nc: 9\n" },
        { site := .append, body := "\n@ pointers\nb: [a]\n" }]
      [{ name := "a", text := "a: 7" }, { name := "c", text := "c: 9" },
        { name := "b", text := "b: [a]", references := ["a"] }] :=
    ⟨by decide +kernel, by decide +kernel⟩
  obtain ⟨bench, outcome, -⟩ := assembleSource_interleaving .numbering {} none 100 { state := 0 }
    reads reads' (by decide) (by decide) (by decide)
  exact ⟨by decide +kernel, by decide +kernel, bench, outcome (by decide)⟩

end OverlayPatch
