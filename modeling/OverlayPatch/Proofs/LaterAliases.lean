import OverlayPatch.Proofs.Resolution

/-!
# Aliases that come too late

A reference that does not resolve is told with a hint if it names an alias declared later. The
hint is given for any name in the list of declarations, and the reason why this is nearly right
lies in the order of placing: variables that stand on their own and earlier aliases would have
resolved. That leaves the aliases behind the line at fault, and the line itself
(`UnresolvedAt.exists_name_iff`).

For the line itself the hint is wrong, as no alias is declared after itself.
`ofDeclarations_later_hint` says that this is the only case.
-/

namespace OverlayPatch

set_option autoImplicit false

variable {σ : Type} {encoder : Encoder σ}

/-- What the encoder rejects is reported as a fault of encoding. -/
def Encoder.Candid (encoder : Encoder σ) : Prop :=
  ∀ text state fault, (encoder.answer text state).1 = .rejected fault → fault.cause.kind = .encoding

theorem Encoder.Candid.kind (candid : encoder.Candid) {fault : Fault}
    (fails : encoder.Fails (.fault fault)) : fault.cause.kind = .encoding := by
  cases fails with
  | rejected answer same => rw [same, candid _ _ _ answer]

namespace Declaration

/-- The alias behind `before` is the first with a reference that does not resolve, and this is the
first such reference in it. -/
structure UnresolvedAt (declarations before : List Declaration) (referrer : Declaration)
    (after : List Declaration) (reference : String) : Prop where
  split : declarations = before ++ referrer :: after
  refers : referrer.isAlias = true
  settled : Settled declarations before
  first : ∃ known others, referrer.references = known ++ reference :: others ∧
    ∀ name ∈ known, Resolves declarations before name
  missing : ¬ Resolves declarations before reference

variable {declarations before after : List Declaration} {referrer : Declaration}
  {reference : String}

/-- What does not resolve can be declared in no other place than the line at fault or behind it, and
there as an alias. -/
theorem UnresolvedAt.exists_name_iff
    (here : UnresolvedAt declarations before referrer after reference) :
    (∃ target ∈ declarations, target.name = reference) ↔
      reference = referrer.name ∨
        ∃ target ∈ after, target.isAlias = true ∧ target.name = reference := by
  constructor
  · rintro ⟨target, member, same⟩
    have refers : target.isAlias = true := by
      by_contra direct
      exact here.missing (.inl ⟨target, member, by simpa using direct, same⟩)
    rw [here.split] at member
    rcases List.mem_append.mp member with early | rest
    · exact absurd (.inr ⟨target, early, refers, same⟩) here.missing
    · rcases List.mem_cons.mp rest with rfl | late
      · exact .inl same.symm
      · exact .inr ⟨target, late, refers, same⟩
  · rintro (rfl | ⟨target, late, -, same⟩)
    · exact ⟨referrer, by simp [here.split], rfl⟩
    · exact ⟨target, by simp [here.split, late], same⟩

end Declaration

namespace Allocation

open Declaration

variable {declarations before after done : List Declaration} {referrer : Declaration}
  {reference : String} {allocation : Allocation}

/-! ## The hint -/

def laterHint (reference name : String) : String :=
  s!"'{reference}' is an alias declared after '{name}'"

theorem head_laterHint (reference name : String) :
    (laterHint reference name).toList.head? = some '\'' := by
  show ("'" ++ reference ++ "' is an alias declared after '" ++ name ++ "'").toList.head? = _
  simp

/-- The hint blames the order just where the reference names something that is declared. -/
theorem unresolved_hint_iff (declarations : List Declaration) (origin : Option String)
    (referrer : Declaration) (allocation : Allocation) (reference : String) :
    (unresolved declarations origin referrer allocation reference).hint =
        some (laterHint reference referrer.name) ↔
      ∃ target ∈ declarations, target.name = reference := by
  have head := head_laterHint reference referrer.name
  by_cases declared : ∃ target ∈ declarations, target.name = reference
  · have any : declarations.any (·.name = reference) = true := by simpa using declared
    have filled : laterHint reference referrer.name ≠ "" := by
      intro empty
      rw [empty] at head
      cases head
    have shown : shown? (some (laterHint reference referrer.name)) =
        some (laterHint reference referrer.name) := by simp [shown?, filled]
    refine ⟨fun _ => declared, fun _ => ?_⟩
    simp only [unresolved, any, if_true, Fault.unresolved]
    exact congrArg (· <|> _) shown
  · have any : declarations.any (·.name = reference) = false := by simpa using declared
    refine ⟨fun told => ?_, fun found => absurd found declared⟩
    simp only [unresolved, any, Bool.false_eq_true, if_false, Fault.unresolved] at told
    have other : (if (Text.closeNames reference allocation.names).isEmpty then none else some _) =
      some (laterHint reference referrer.name) := told
    split at other
    · cases other
    · -- Names that come close are told in other words.
      rw [← Option.some.inj other] at head
      change ("did you mean " ++ _ ++ "?").toList.head? = some '\'' at head
      simp at head

/-! ## Both passes -/

/-- If the failure is that of a reference, it is the first that does not resolve. -/
def Traced (declarations : List Declaration) (origin : Option String) (failure : Failure) : Prop :=
  ∀ fault reference similar, failure = .fault fault → fault.cause = .unresolved reference similar →
    ∃ before referrer after allocation,
      UnresolvedAt declarations before referrer after reference ∧
      fault = unresolved declarations origin referrer allocation reference

theorem traced_of_kind {origin : Option String} {fault : Fault}
    (other : fault.cause.kind ≠ .unresolved) : Traced declarations origin (.fault fault) := by
  rintro fault' reference similar same cause
  cases same
  exact absurd (congrArg Cause.kind cause) other

theorem traced_of_fails {origin : Option String} (candid : encoder.Candid) {failure : Failure}
    (fails : encoder.Fails failure) : Traced declarations origin failure := by
  cases failure with
  | fault fault =>
      have kind := candid.kind fails
      exact traced_of_kind (by simp [kind])
  | _ => exact fun _ _ _ same => nomatch same

theorem traced_of_overruns {origin : Option String} {declaration : Declaration} {text : String}
    {bench later : Bench σ} {failure : Failure}
    (overruns : Overruns encoder declaration text bench later allocation failure) :
    Traced declarations origin failure := by
  obtain ⟨fault, rfl, cause⟩ := overruns.fault
  exact traced_of_kind (by simp [cause, Cause.kind])

theorem traced_of_substitute {origin : Option String} {locations : Locations} {text : String}
    {failure : Failure} (unwritten : substitute locations text = .error failure) :
    Traced declarations origin failure := by
  intro fault reference similar same
  exact (substitute_faultless (fun _ => False) locations text failure unwritten fault same).elim

/-- With one more variable placed, what is placed has the names of what is done. -/
theorem names_of_places {declaration : Declaration} {text : String} {bench later : Bench σ}
    {next : Allocation} (places : Places encoder declaration text bench later allocation next)
    (placed : allocation.names = done.map (·.name)) :
    next.names = (done ++ [declaration]).map (·.name) := by
  rw [places.pushed, List.map_append, ← placed]
  simp [names, push]

/-- At the turn of an alias its references resolve if there are variables for them. -/
theorem resolves_iff_find? {name : String}
    (placed : allocation.names =
      (placedBefore declarations (before.filter (·.isAlias))).map (·.name)) :
    Resolves declarations before name ↔ allocation.find? name ≠ none := by
  rw [resolves_iff, ← placed]
  simp [find?, names]

theorem direct_traced (candid : encoder.Candid) (origin : Option String) (start : Int)
    (declarations : List Declaration) (bench : Bench σ) :
    ((declarations.filter (!·.isAlias)).foldlM (fun allocation declaration =>
        place encoder origin declaration declaration.text allocation)
        (Allocation.start start)).Ends bench
      (fun allocation _ => allocation.names = (declarations.filter (!·.isAlias)).map (·.name))
      (fun failure _ => Traced declarations origin failure) := by
  refine ExceptT.ends_foldlM
    (fun (done : List Declaration) (allocation : Allocation) _ =>
      allocation.names = done.map (·.name)) rfl ?_
  intro done declaration rest allocation middle _ placed
  refine (place_ends encoder origin declaration declaration.text allocation middle).mono
    (fun next later places => names_of_places places placed) ?_
  rintro failure later (fails | overruns)
  · exact traced_of_fails candid fails
  · exact traced_of_overruns overruns

theorem aliases_traced (candid : encoder.Candid) (origin : Option String)
    {declarations : List Declaration} {direct : Allocation}
    (placed : direct.names = (declarations.filter (!·.isAlias)).map (·.name)) (bench : Bench σ) :
    ((declarations.filter (·.isAlias)).foldlM
        (placeAlias encoder declarations origin) direct).Ends bench
      (fun allocation _ => allocation.names = (placingOrder declarations).map (·.name) ∧
        SettledAliases declarations (declarations.filter (·.isAlias)))
      (fun failure _ => Traced declarations origin failure) := by
  refine ExceptT.ends_foldlM (fun done (allocation : Allocation) _ =>
    allocation.names = (placedBefore declarations done).map (·.name) ∧
      SettledAliases declarations done) ⟨by simpa [placedBefore] using placed, ?_⟩ ?_
  · intro earlier referrer later split
    simp at split
  rintro done referrer rest allocation middle split ⟨names, settled⟩
  obtain ⟨before, after, place, refers, rfl⟩ := exists_place_of_aliases split
  refine (placeAlias_all_ends encoder declarations origin allocation referrer middle).mono ?_ ?_
  · rintro next later ⟨locations, text, known, -, places⟩
    refine ⟨by simpa [placedBefore] using names_of_places places names, settled.snoc ?_⟩
    intro reference listed
    obtain ⟨target, present, -⟩ := known reference listed
    exact resolves_iff.mp ((resolves_iff_find? names).mpr (by simp [present]))
  · rintro failure later (fails | ⟨text, overruns⟩ | ⟨reference, ⟨known, others, listed, found⟩,
      missing, rfl⟩ | ⟨locations, -, unwritten⟩)
    · exact traced_of_fails candid fails
    · exact traced_of_overruns overruns
    · rintro fault symbol similar same cause
      cases same
      obtain ⟨rfl, -⟩ := Cause.unresolved.inj cause
      refine ⟨before, referrer, after, allocation, ⟨place, refers, settled_of_aliases settled,
        ⟨known, others, listed, ?_⟩, ?_⟩, rfl⟩
      · intro name inside
        exact (resolves_iff_find? names).mpr (found name inside)
      · intro resolves
        exact (resolves_iff_find? names).mp resolves missing
    · exact traced_of_substitute unwritten

/-- A reference that fails is the first one that does not resolve. -/
theorem ofDeclarations_traced (candid : encoder.Candid) (origin : Option String) (start : Int)
    (declarations : List Declaration) (bench : Bench σ) :
    (ofDeclarations encoder origin start declarations).Ends bench (fun _ _ => True)
      (fun failure _ => (∃ name, failure = .fault (Fault.duplicate name origin)) ∨
        (declarations.map (·.name)).Nodup ∧ Traced declarations origin failure) := by
  unfold ofDeclarations
  cases search : firstRepeated? [] declarations with
  | some name => exact Work.ends_fail (.inl ⟨name, rfl⟩)
  | none =>
      have distinct : (declarations.map (·.name)).Nodup := by
        simpa using firstRepeated?_eq_none List.nodup_nil search
      apply ExceptT.ends_bind
      refine (direct_traced candid origin start declarations bench).mono ?_
        fun failure later traced => .inr ⟨distinct, traced⟩
      intro direct middle placed
      exact (aliases_traced candid origin placed middle).mono (fun _ _ _ => trivial)
        fun failure later traced => .inr ⟨distinct, traced⟩

/-- If allocation fails at a reference, then no name repeats, and there is the alias that it fails
in: the first with a reference that does not resolve. The hint that the reference is an alias
declared after that line is given exactly if it names an alias declared after that line or the
line itself. So it tells where the name is declared unless the line refers to itself. -/
theorem ofDeclarations_later_hint (candid : encoder.Candid) (origin : Option String) (start : Int)
    {declarations : List Declaration} {bench later : Bench σ} {fault : Fault} {reference : String}
    {similar : List String}
    (ran : (ofDeclarations encoder origin start declarations).run bench =
      (.error (.fault fault), later))
    (cause : fault.cause = .unresolved reference similar) :
    (declarations.map (·.name)).Nodup ∧
    ∃ before referrer after, UnresolvedAt declarations before referrer after reference ∧
      (fault.hint = some (laterHint reference referrer.name) ↔
        reference = referrer.name ∨
          ∃ target ∈ after, target.isAlias = true ∧ target.name = reference) ∧
      ((fault.hint = some (laterHint reference referrer.name) ↔
          ∃ target ∈ after, target.isAlias = true ∧ target.name = reference) ↔
        reference ≠ referrer.name) := by
  rcases (ofDeclarations_traced candid origin start declarations bench).of_error ran with
    ⟨name, same⟩ | ⟨distinct, traced⟩
  · cases same
    cases cause
  · obtain ⟨before, referrer, after, allocation, here, rfl⟩ := traced _ _ _ rfl cause
    have told := (unresolved_hint_iff declarations origin referrer allocation reference).trans
      here.exists_name_iff
    refine ⟨distinct, before, referrer, after, here, told, ?_⟩
    rw [told]
    constructor
    · rintro same rfl
      obtain ⟨target, late, -, named⟩ := same.mp (.inl rfl)
      rw [here.split, List.map_append, List.map_cons] at distinct
      have fresh := (List.nodup_cons.mp (List.nodup_append.mp distinct).2.1).1
      exact fresh (List.mem_map.mpr ⟨target, late, named⟩)
    · intro other
      simp [other]

def crossed : List Declaration :=
  [{ name := "buf", text := "buf: .word 0" },
    { name := "p2", text := "p2: .word [buf], [p1]", references := ["buf", "p1"] },
    { name := "p1", text := "p1: .word [buf]", references := ["buf"] }]

def crossedRun : Except Failure Allocation × Bench Unit :=
  (ofDeclarations (.constant [1, 2, 3, 4]) (some "menu") 100 crossed).run { state := () }

theorem candid_constant (data : List UInt8) : (Encoder.constant data).Candid := by
  intro text state fault rejected
  cases rejected

/-- An alias of an alias that is declared after it gets the hint. -/
theorem ofDeclarations_later_hint_crossed :
    ∃ fault before referrer after, crossedRun.1 = .error (.fault fault) ∧
      crossed = before ++ referrer :: after ∧
      ("p1" ≠ referrer.name ↔ (fault.hint = some (laterHint "p1" referrer.name) ↔
        ∃ target ∈ after, target.isAlias = true ∧ target.name = "p1")) := by
  have failed : crossedRun.1 = .error (.fault
      { cause := .unresolved "p1" [], origin := some "menu", mode := some "append"
        hint := some "'p1' is an alias declared after 'p2'" }) := by decide +kernel
  have ran := (Prod.eta crossedRun).symm
  rw [failed] at ran
  obtain ⟨-, before, referrer, after, here, -, exactly⟩ :=
    ofDeclarations_later_hint (candid_constant [1, 2, 3, 4]) (some "menu") 100 ran rfl
  exact ⟨_, before, referrer, after, failed, here.split, exactly.symm⟩

def selfAlias : Declaration :=
  { name := "x", text := "x: .word [x]", references := ["x"] }

def selfRun : Except Failure Allocation × Bench Unit :=
  (ofDeclarations (.constant [1, 2, 3, 4]) (some "menu") 100 [selfAlias]).run { state := () }

/-- An alias that refers to itself is told to be declared after itself, with nothing behind it. -/
theorem self_declared_later :
    ∃ fault, selfRun.1 = .error (.fault fault) ∧ fault.cause = .unresolved "x" [] ∧
      ¬ (fault.hint = some (laterHint "x" selfAlias.name) ↔
        ∃ target ∈ ([] : List Declaration), target.isAlias = true ∧ target.name = "x") := by
  have failed : selfRun.1 = .error (.fault
      { cause := .unresolved "x" [], origin := some "menu", mode := some "append"
        hint := some (laterHint "x" selfAlias.name) }) := by decide +kernel
  exact ⟨_, failed, rfl, by simp⟩

end Allocation

end OverlayPatch
