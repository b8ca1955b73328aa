import OverlayPatch.Proofs.Allocation

/-!
# Which references resolve

Allocation goes through the declarations twice, and what an alias may refer to grows on the way.
Seen from the list of declarations alone, the rule is simple: a reference resolves if it names a
variable that stands on its own, wherever it is declared, or an alias that is declared strictly
earlier (`Resolves`).

`ofDeclarations_ends` follows both passes with one invariant, `Progress`: which declarations are
placed, that their regions tile from the start to the cursor, and which bytes came back for the
texts handed over. From it the outcome of allocation is read off the declarations:
`ofDeclarations_outcome` says when it succeeds, with which variables, and at which name it fails
otherwise.
-/

namespace OverlayPatch

set_option autoImplicit false

namespace Declaration

/-! ## The rule -/

/-- A reference in the alias that stands behind `before` names a variable that stands on its
own, or an earlier alias. -/
def Resolves (declarations before : List Declaration) (reference : String) : Prop :=
  (∃ target ∈ declarations, target.isAlias = false ∧ target.name = reference) ∨
    ∃ target ∈ before, target.isAlias = true ∧ target.name = reference

/-- Every reference of every alias in the first part of the declarations resolves. -/
def Settled (declarations before : List Declaration) : Prop :=
  ∀ earlier referrer later, before = earlier ++ referrer :: later → referrer.isAlias = true →
    ∀ reference ∈ referrer.references, Resolves declarations earlier reference

def Resolvable (declarations : List Declaration) : Prop :=
  Settled declarations declarations

/-- The name is the first that is declared although an earlier declaration has taken it. -/
def FirstRepeated (declarations : List Declaration) (name : String) : Prop :=
  ∃ before declaration after, declarations = before ++ declaration :: after ∧
    declaration.name = name ∧ (before.map (·.name)).Nodup ∧ name ∈ before.map (·.name)

/-- The reference is the first that does not resolve in the first alias that has such. -/
def FirstUnresolvable (declarations : List Declaration) (reference : String) : Prop :=
  ∃ before referrer after, declarations = before ++ referrer :: after ∧ referrer.isAlias = true ∧
    Settled declarations before ∧
    ∃ known others, referrer.references = known ++ reference :: others ∧
      (∀ name ∈ known, Resolves declarations before name) ∧
      ¬ Resolves declarations before reference

/-- The declarations that stand on their own, then the aliases, both in order. -/
def placingOrder (declarations : List Declaration) : List Declaration :=
  declarations.filter (!·.isAlias) ++ declarations.filter (·.isAlias)

theorem FirstRepeated.not_nodup {declarations : List Declaration} {name : String}
    (repeated : FirstRepeated declarations name) : ¬ (declarations.map (·.name)).Nodup := by
  obtain ⟨before, declaration, after, rfl, rfl, -, taken⟩ := repeated
  intro distinct
  rw [List.map_append, List.map_cons] at distinct
  exact (List.nodup_append.mp distinct).2.2 _ taken _ (by simp) rfl

theorem FirstUnresolvable.not_resolvable {declarations : List Declaration} {reference : String}
    (missing : FirstUnresolvable declarations reference) : ¬ Resolvable declarations := by
  obtain ⟨before, referrer, after, split, isAlias, -, known, others, listed, -, unresolved⟩ :=
    missing
  intro resolvable
  exact unresolved (resolvable before referrer after split isAlias reference (by simp [listed]))

/-! ## Repeated names -/

/-- The search stops at the first name that is taken. -/
theorem firstRepeated?_eq_some {taken : List String} {declarations : List Declaration}
    {name : String} (distinct : taken.Nodup)
    (found : firstRepeated? taken declarations = some name) :
    ∃ before declaration after, declarations = before ++ declaration :: after ∧
      declaration.name = name ∧ (taken ++ before.map (·.name)).Nodup ∧
      name ∈ taken ++ before.map (·.name) := by
  induction declarations generalizing taken with
  | nil => simp [firstRepeated?] at found
  | cons declaration rest ih =>
      simp only [firstRepeated?] at found
      split at found
      · rename_i member
        obtain rfl : declaration.name = name := by simpa using found
        exact ⟨[], declaration, rest, rfl, rfl, by simpa using distinct, by simpa using member⟩
      · rename_i fresh
        have more : (taken ++ [declaration.name]).Nodup := by
          rw [List.nodup_append]
          exact ⟨distinct, by simp, by rintro a inside b here rfl; simp_all⟩
        obtain ⟨before, repeated, after, rfl, same, distinct', member⟩ := ih more found
        exact ⟨declaration :: before, repeated, after, rfl, same, by simpa using distinct',
          by simpa using member⟩

theorem firstRepeated?_eq_none {taken : List String} {declarations : List Declaration}
    (distinct : taken.Nodup) (found : firstRepeated? taken declarations = none) :
    (taken ++ declarations.map (·.name)).Nodup := by
  induction declarations generalizing taken with
  | nil => simpa using distinct
  | cons declaration rest ih =>
      simp only [firstRepeated?] at found
      split at found
      · cases found
      · rename_i fresh
        have more : (taken ++ [declaration.name]).Nodup := by
          rw [List.nodup_append]
          exact ⟨distinct, by simp, by rintro a inside b here rfl; simp_all⟩
        simpa using ih more found

/-! ## References by placing order

The second pass sees the aliases only, so what it settles is first said of the list of aliases. -/

/-- What is placed before an alias, `done` being the aliases before it. -/
def placedBefore (declarations done : List Declaration) : List Declaration :=
  declarations.filter (!·.isAlias) ++ done

/-- A reference resolves if it names something placed before. -/
theorem resolves_iff {declarations before : List Declaration} {reference : String} :
    Resolves declarations before reference ↔
      reference ∈ (placedBefore declarations (before.filter (·.isAlias))).map (·.name) := by
  simp only [Resolves, placedBefore, List.map_append, List.mem_append, List.mem_map,
    List.mem_filter, Bool.not_eq_true', and_assoc]

/-- Every reference of the aliases in `done` names something placed before. -/
def SettledAliases (declarations done : List Declaration) : Prop :=
  ∀ earlier referrer later, done = earlier ++ referrer :: later →
    ∀ reference ∈ referrer.references, reference ∈ (placedBefore declarations earlier).map (·.name)

theorem settled_of_aliases {declarations before : List Declaration}
    (settled : SettledAliases declarations (before.filter (·.isAlias))) :
    Settled declarations before := by
  rintro earlier referrer later rfl isAlias reference member
  refine resolves_iff.mpr (settled _ referrer (later.filter (·.isAlias)) ?_ reference member)
  simp [List.filter_append, isAlias]

theorem SettledAliases.snoc {declarations done : List Declaration} {referrer : Declaration}
    (settled : SettledAliases declarations done)
    (known : ∀ reference ∈ referrer.references,
      reference ∈ (placedBefore declarations done).map (·.name)) :
    SettledAliases declarations (done ++ [referrer]) := by
  intro earlier other later split reference member
  rcases List.eq_nil_or_concat later with rfl | ⟨later, last, rfl⟩
  · obtain ⟨rfl, same⟩ := List.append_inj' split rfl
    obtain rfl : referrer = other := by simpa using same
    exact known reference member
  · have split' : done ++ [referrer] = (earlier ++ other :: later) ++ [last] := by simpa using split
    obtain ⟨rfl, -⟩ := List.append_inj' split' rfl
    exact settled earlier other later rfl reference member

/-- An alias in the list of aliases has a place among all declarations. -/
theorem exists_place_of_aliases {declarations done rest : List Declaration} {referrer : Declaration}
    (split : declarations.filter (·.isAlias) = done ++ referrer :: rest) :
    ∃ before after, declarations = before ++ referrer :: after ∧ referrer.isAlias = true ∧
      before.filter (·.isAlias) = done := by
  obtain ⟨front, back, rfl, frontDone, backRest⟩ := List.filter_eq_append_iff.mp split
  obtain ⟨skipped, after, rfl, none, isAlias, -⟩ := List.filter_eq_cons_iff.mp backRest
  refine ⟨front ++ skipped, after, by simp, isAlias, ?_⟩
  rw [List.filter_append, frontDone, List.filter_eq_nil_iff.mpr none, List.append_nil]

end Declaration

namespace Allocation

open Declaration

variable {σ : Type}

/-! ## One invariant for both passes -/

/-- What is true while declarations are placed from `start` on: `done` are placed, and between
the benches `first` and `bench` their bytes came back from the encoder. -/
structure Progress (encoder : Encoder σ) (start : Int) (first bench : Bench σ)
    (done : List Declaration) (allocation : Allocation) : Prop where
  handed : ∃ texts, Handed encoder first bench texts ∧
    allocation.vars.map (·.value) = encoder.yields first.state texts
  declared : allocation.vars.map (fun v => (v.name, v.references)) =
    done.map (fun d => (d.name, d.references))
  tiled : Tiles start (allocation.vars.map Variable.region) allocation.cursor
  within : allocation.vars ≠ [] → allocation.cursor ≤ Number.addressLimit

/-- The bytes that came back between two benches, laid out from `start` on, go past the last
address. -/
def PastEnd (encoder : Encoder σ) (start : Int) (first later : Bench σ) : Prop :=
  ∃ texts, texts ≠ [] ∧ Handed encoder first later texts ∧
    Number.addressLimit < start + (encoder.yields first.state texts).flatten.length

theorem progress_start (encoder : Encoder σ) (start : Int) (bench : Bench σ) :
    Progress encoder start bench bench [] (Allocation.start start) where
  handed := ⟨[], .refl encoder bench, rfl⟩
  declared := rfl
  tiled := rfl
  within := by simp [Allocation.start]

theorem find?_ne_none_iff {encoder : Encoder σ} {start : Int} {first bench : Bench σ}
    {done : List Declaration} {allocation : Allocation}
    (progress : Progress encoder start first bench done allocation) {name : String} :
    allocation.find? name ≠ none ↔ name ∈ done.map (·.name) := by
  have names : allocation.vars.map (·.name) = done.map (·.name) := by
    simpa [Function.comp_def] using congrArg (List.map Prod.fst) progress.declared
  rw [← names]
  simp [find?, List.find?_eq_none]

/-- Placing one more variable goes on where the last one ended. -/
theorem Progress.step {encoder : Encoder σ} {start : Int} {first bench later : Bench σ}
    {done : List Declaration} {allocation next : Allocation} {declaration : Declaration}
    {text : String} (progress : Progress encoder start first bench done allocation)
    (places : Places encoder declaration text bench later allocation next) :
    Progress encoder start first later (done ++ [declaration]) next := by
  obtain ⟨texts, before, values⟩ := progress.handed
  obtain ⟨handed, rfl, within⟩ := places
  refine ⟨⟨texts ++ [text], before.trans handed, ?_⟩, ?_, ?_, fun _ => within⟩
  · rw [Encoder.yields_snoc, ← before.state, ← values]
    simp [push]
  · simp [push, progress.declared]
  · rw [push, List.map_append]
    exact tiles_snoc progress.tiled rfl

/-- If one variable runs past the last address, so do all the bytes that came back so far. -/
theorem Progress.pastEnd {encoder : Encoder σ} {start : Int} {first bench later : Bench σ}
    {done : List Declaration} {allocation : Allocation} {declaration : Declaration} {text : String}
    {failure : Failure} (progress : Progress encoder start first bench done allocation)
    (overruns : Overruns encoder declaration text bench later allocation failure) :
    PastEnd encoder start first later := by
  obtain ⟨texts, before, values⟩ := progress.handed
  refine ⟨texts ++ [text], by simp, before.trans overruns.handed, ?_⟩
  have cursor := progress.tiled.stop_eq
  have laid : (allocation.vars.map Variable.region).flatMap (·.bytes) =
      (encoder.yields first.state texts).flatten := by
    rw [← values, List.flatMap_map, List.flatMap_def]
    rfl
  have past := overruns.past
  rw [Encoder.yields_snoc, ← before.state, List.flatten_append, List.length_append]
  rw [cursor, laid] at past
  simpa [Int.add_assoc] using past

/-! ## Both passes -/

/-- The failures that allocation can come to. -/
inductive Refused (encoder : Encoder σ) (origin : Option String) (start : Int)
    (declarations : List Declaration) (bench later : Bench σ) (failure : Failure) : Prop where
  | repeated {name : String} (first : FirstRepeated declarations name)
      (fault : failure = .fault (Fault.duplicate name origin)) (untouched : later = bench)
  | encoder (fails : encoder.Fails failure)
  | pastEnd {name : String} {fault : Fault} (past : PastEnd encoder start bench later)
      (told : failure = .fault fault) (cause : fault.cause = .variablePastEnd name)
  | unresolved {reference : String} {similar : List String} {fault : Fault}
      (distinct : (declarations.map (·.name)).Nodup)
      (first : FirstUnresolvable declarations reference)
      (told : failure = .fault fault) (cause : fault.cause = .unresolved reference similar)

theorem direct_ends (encoder : Encoder σ) (origin : Option String) (start : Int)
    (declarations : List Declaration) (bench : Bench σ) :
    ((declarations.filter (!·.isAlias)).foldlM (fun allocation declaration =>
        place encoder origin declaration declaration.text allocation)
        (Allocation.start start)).Ends bench
      (fun allocation later => Progress encoder start bench later
        (declarations.filter (!·.isAlias)) allocation)
      (fun failure later => Refused encoder origin start declarations bench later failure) := by
  refine ExceptT.ends_foldlM (fun done allocation later =>
    Progress encoder start bench later done allocation) (progress_start encoder start bench) ?_
  intro done declaration rest allocation middle split progress
  refine (place_ends encoder origin declaration declaration.text allocation middle).mono ?_ ?_
  · intro next later places
    exact progress.step places
  · rintro failure later (fails | overruns)
    · exact .encoder fails
    · obtain ⟨fault, told, cause⟩ := overruns.fault
      exact .pastEnd (progress.pastEnd overruns) told cause

/-- The aliases are placed behind them, up to the first that does not resolve. -/
theorem aliases_ends (encoder : Encoder σ) (origin : Option String) (start : Int)
    {declarations : List Declaration} (faithful : ∀ d ∈ declarations, d.Faithful)
    (distinct : (declarations.map (·.name)).Nodup) {direct : Allocation} {first bench : Bench σ}
    (placed : Progress encoder start first bench (declarations.filter (!·.isAlias)) direct) :
    ((declarations.filter (·.isAlias)).foldlM
        (placeAlias encoder declarations origin) direct).Ends bench
      (fun allocation later => Progress encoder start first later (placingOrder declarations)
          allocation ∧ SettledAliases declarations (declarations.filter (·.isAlias)))
      (fun failure later => Refused encoder origin start declarations first later failure) := by
  refine ExceptT.ends_foldlM (fun done allocation later =>
    Progress encoder start first later (placedBefore declarations done) allocation ∧
      SettledAliases declarations done) ⟨by simpa [placedBefore] using placed, ?_⟩ ?_
  · intro earlier referrer later split
    simp at split
  rintro done referrer rest allocation middle split ⟨progress, settled⟩
  obtain ⟨before, after, place, isAlias, rfl⟩ := exists_place_of_aliases split
  have member : referrer ∈ declarations := by simp [place]
  refine (placeAlias_ends encoder declarations origin allocation (faithful referrer member)
    middle).mono ?_ ?_
  · rintro next later ⟨locations, text, known, -, places⟩
    refine ⟨by simpa [placedBefore] using progress.step places, settled.snoc ?_⟩
    intro reference listed
    obtain ⟨target, present, -⟩ := known reference listed
    exact (find?_ne_none_iff progress).mp (by simp [present])
  · rintro failure later (fails | ⟨text, overruns⟩ | ⟨reference, ⟨known, others, listed, found⟩,
      missing, told⟩)
    · exact .encoder fails
    · obtain ⟨fault, told, cause⟩ := overruns.fault
      exact .pastEnd (progress.pastEnd overruns) told cause
    · refine .unresolved distinct ⟨before, referrer, after, place, isAlias,
        settled_of_aliases settled, known, others, listed, ?_, ?_⟩ told rfl
      · intro name inside
        exact resolves_iff.mpr ((find?_ne_none_iff progress).mp (found name inside))
      · intro resolves
        exact (find?_ne_none_iff progress).mpr (resolves_iff.mp resolves) missing

/-- Every ending of allocation. -/
theorem ofDeclarations_ends (encoder : Encoder σ) (origin : Option String) (start : Int)
    {declarations : List Declaration} (faithful : ∀ d ∈ declarations, d.Faithful)
    (bench : Bench σ) :
    (ofDeclarations encoder origin start declarations).Ends bench
      (fun allocation later => (declarations.map (·.name)).Nodup ∧
        Resolvable declarations ∧
        Progress encoder start bench later (placingOrder declarations) allocation)
      (fun failure later => Refused encoder origin start declarations bench later failure) := by
  unfold ofDeclarations
  cases search : firstRepeated? [] declarations with
  | some name =>
      apply Work.ends_fail
      refine .repeated ?_ rfl rfl
      simpa [FirstRepeated] using firstRepeated?_eq_some List.nodup_nil search
  | none =>
      have distinct : (declarations.map (·.name)).Nodup := by
        simpa using firstRepeated?_eq_none List.nodup_nil search
      apply ExceptT.ends_bind
      refine (direct_ends encoder origin start declarations bench).mono ?_ (fun _ _ bad => bad)
      intro direct middle placed
      refine (aliases_ends encoder origin start faithful distinct placed).mono ?_
        (fun _ _ bad => bad)
      rintro allocation later ⟨progress, settled⟩
      exact ⟨distinct, settled_of_aliases settled, progress⟩

/-! ## The outcome -/

/-- An encoder that takes every text fails nothing. -/
theorem not_fails_of_accepting {encoder : Encoder σ}
    (accepting : ∀ text state, ∃ data remarks,
      (encoder.answer text state).1 = .accepted data remarks)
    (failure : Failure) : ¬ encoder.Fails failure := by
  rintro (⟨answer, -⟩ | answer) <;>
    · obtain ⟨data, remarks, accepted⟩ := accepting _ _
      rw [accepted] at answer
      cases answer

/-- With an encoder that takes every text, and unless what it gives back runs past the last
address, allocation succeeds exactly if no name repeats and every reference resolves. It then
holds the variables in placing order. Otherwise it fails at the first repeated name, before any
text is encoded, or at the first reference that does not resolve. -/
theorem ofDeclarations_outcome (encoder : Encoder σ)
    (accepting : ∀ text state, ∃ data remarks,
      (encoder.answer text state).1 = .accepted data remarks)
    (origin : Option String) (start : Int) {declarations : List Declaration}
    (read : ∀ d ∈ declarations, ∃ name body all, readBody name body = .ok all ∧ d ∈ all)
    {bench later : Bench σ} {outcome : Except Failure Allocation}
    (ran : (ofDeclarations encoder origin start declarations).run bench = (outcome, later))
    (fits : ¬ PastEnd encoder start bench later) :
    ((∃ allocation, outcome = .ok allocation) ↔
      (declarations.map (·.name)).Nodup ∧ Resolvable declarations) ∧
    (∀ allocation, outcome = .ok allocation →
      allocation.vars.map (fun v => (v.name, v.references)) =
        (placingOrder declarations).map (fun d => (d.name, d.references))) ∧
    (∀ failure, outcome = .error failure →
      (∃ name, FirstRepeated declarations name ∧
        failure = .fault (Fault.duplicate name origin) ∧ later = bench) ∨
      ((declarations.map (·.name)).Nodup ∧ ∃ reference fault similar,
        FirstUnresolvable declarations reference ∧ failure = .fault fault ∧
        fault.cause = .unresolved reference similar)) := by
  have faithful : ∀ d ∈ declarations, d.Faithful := by
    intro d member
    obtain ⟨name, body, all, found, inside⟩ := read d member
    exact readBody_faithful found d inside
  have ends := ofDeclarations_ends encoder origin start faithful bench
  cases outcome with
  | ok allocation =>
      obtain ⟨distinct, resolvable, progress⟩ := ends.of_ok ran
      refine ⟨⟨fun _ => ⟨distinct, resolvable⟩, fun _ => ⟨allocation, rfl⟩⟩, ?_, by simp⟩
      rintro _ ⟨⟩
      exact progress.declared
  | error failure =>
      refine ⟨⟨by simp, ?_⟩, by simp, ?_⟩
      · rintro ⟨distinct, resolvable⟩
        cases ends.of_error ran with
        | repeated first _ _ => exact absurd distinct first.not_nodup
        | encoder fails => exact absurd fails (not_fails_of_accepting accepting failure)
        | pastEnd past _ _ => exact absurd past fits
        | unresolved _ first _ _ => exact absurd resolvable first.not_resolvable
      · rintro _ ⟨⟩
        cases ends.of_error ran with
        | repeated first told untouched => exact .inl ⟨_, first, told, untouched⟩
        | encoder fails => exact absurd fails (not_fails_of_accepting accepting failure)
        | pastEnd past _ _ => exact absurd past fits
        | unresolved distinct first told cause =>
            exact .inr ⟨distinct, _, _, _, first, told, cause⟩

/-- An alias of a later variable, that variable, and an alias of both. -/
def chained : List Declaration :=
  [{ name := "first", text := "first: .word [base]", references := ["base"] },
    { name := "base", text := "base: .word 7" },
    { name := "both", text := "both: .word [first], [base]", references := ["first", "base"] }]

def chainedRun : Except Failure Allocation × Bench Unit :=
  (ofDeclarations (.constant [1, 2, 3, 4]) (some "menu") 100 chained).run { state := () }

/-- An alias may refer to a variable that comes later and to an alias that comes before. -/
theorem ofDeclarations_outcome_chained :
    Resolvable chained ∧ chainedRun.1.map (·.names) = .ok ["base", "first", "both"] := by
  have read : readBody "menu" "first: .word [base]\nbase: .word 7\nboth: .word [first], [base]" =
      .ok chained := by decide +kernel
  have names : chainedRun.1.map (·.names) = .ok ["base", "first", "both"] := by decide +kernel
  have calls : chainedRun.2.calls =
      ["base: .word 7", "first: .word 0x00000064", "both: .word 0x00000068, 0x00000064"] := by
    decide +kernel
  have fits : ¬ PastEnd (.constant [1, 2, 3, 4]) 100 { state := () } chainedRun.2 := by
    rintro ⟨texts, -, handed, past⟩
    have same : chainedRun.2.calls = texts := handed.calls
    rw [calls] at same
    subst same
    revert past
    decide +kernel
  have outcome := ofDeclarations_outcome (.constant [1, 2, 3, 4]) (fun _ _ => ⟨_, _, rfl⟩)
    (some "menu") 100 (fun _ member => ⟨_, _, _, read, member⟩) (Prod.eta chainedRun).symm fits
  obtain ⟨allocation, placed, -⟩ := map_ok names
  exact ⟨(outcome.1.mp ⟨allocation, placed⟩).2, names⟩

end Allocation

end OverlayPatch
