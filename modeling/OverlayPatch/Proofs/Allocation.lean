import OverlayPatch.Proofs.Region
import OverlayPatch.Proofs.Stage

/-!
# What placing a variable comes to

Every declaration is placed by `Allocation.place`, an alias after its references were looked up.
Each of these steps has one statement about all its endings here:

* `place_ends`: the variable stands at the cursor and the cursor behind it (`Places`), or it
  would run past the last address (`Overruns`), or the failure is the encoder's;
* `resolve_ends`: every reference has an address, or the first that has none is at fault
  (`Unresolved`);
* `placeAlias_ends`: both together. Replacing the references of an alias never lacks an address,
  because a declaration that was read lists every reference of its text
  (`Declaration.Faithful`).
-/

namespace OverlayPatch

set_option autoImplicit false

namespace Declaration

/-! ## References of what was read -/

/-- The references that a declaration lists are those of its text. -/
def Faithful (declaration : Declaration) : Prop :=
  declaration.references = referencesOf declaration.text.toList

theorem ofLine_faithful {origin : String} {line : List Char} {declaration : Declaration}
    (read : ofLine origin line = .ok declaration) : declaration.Faithful := by
  unfold ofLine at read
  split at read
  · cases read
    simp [Faithful]
  · cases read

theorem readBody_faithful {origin body : String} {declarations : List Declaration}
    (read : readBody origin body = .ok declarations) :
    ∀ declaration ∈ declarations, declaration.Faithful := by
  intro declaration member
  obtain ⟨line, -, found⟩ := exists_of_forall₂ (forall₂_of_mapM_ok read) member
  exact ofLine_faithful found

theorem collect_faithful {origin : String} {directives : List Directive}
    {declarations : List Declaration} (read : collect origin directives = .ok declarations) :
    ∀ declaration ∈ declarations, declaration.Faithful := by
  obtain ⟨blocks, found, rfl⟩ := map_ok read
  intro declaration member
  obtain ⟨block, blockMember, inside⟩ := List.mem_flatten.mp member
  obtain ⟨directive, -, body⟩ := exists_of_forall₂ (forall₂_of_mapM_ok found) blockMember
  exact readBody_faithful body declaration inside

/-- Where every reference of a text has an address, all of them can be replaced. -/
theorem substitute_of_covered {locations : Locations} {text : String}
    (covered : ∀ name ∈ referencesOf text.toList,
      ∃ location, locations.lookup name = some location) :
    ∃ written, substitute locations text = .ok written := by
  have each : ∀ piece ∈ Text.scan referencePattern text.toList,
      ∃ written, writePiece locations piece = .ok written := by
    intro piece member
    cases piece with
    | plain c => exact ⟨[c], rfl⟩
    | find name covers =>
        have listed : name ∈ referencesOf text.toList := List.mem_filterMap.mpr ⟨_, member, rfl⟩
        obtain ⟨location, known⟩ := covered name listed
        exact ⟨(Number.address location).toList, by simp [writePiece, known]⟩
  obtain ⟨pieces, written⟩ := mapM_ok_of_forall each
  exact ⟨String.ofList pieces.flatten, by simp [substitute, written]⟩

/-- A reference without an address is no fault of the module. -/
theorem substitute_faultless (these : Fault → Prop) (locations : Locations)
    (text : String) : OnlyErrors (Failure.IfFault these) (substitute locations text) := by
  refine onlyErrors_bind (onlyErrors_mapM fun piece _ => ?_) fun written => onlyErrors_ok _
  unfold writePiece
  split
  · exact onlyErrors_ok _
  · split
    · exact onlyErrors_ok _
    · exact onlyErrors_other fun _ same => nomatch same

end Declaration

namespace Allocation

variable {σ : Type}

/-! ## Placing -/

/-- From `bench` to `later` the variable of a declaration was placed: `text` was encoded for it,
and it stands where the cursor was. -/
structure Places (encoder : Encoder σ) (declaration : Declaration) (text : String)
    (bench later : Bench σ) (allocation next : Allocation) : Prop where
  handed : Handed encoder bench later [text]
  pushed : next = allocation.push
    { name := declaration.name
      location := allocation.cursor
      value := (encoder.answer text bench.state).1.data
      references := declaration.references }
  within : next.cursor ≤ Number.addressLimit

/-- The variable of a declaration was encoded, and it runs past the last address. -/
structure Overruns (encoder : Encoder σ) (declaration : Declaration) (text : String)
    (bench later : Bench σ) (allocation : Allocation) (failure : Failure) : Prop where
  handed : Handed encoder bench later [text]
  past : Number.addressLimit <
    allocation.cursor + (encoder.answer text bench.state).1.data.length
  fault : ∃ fault, failure = .fault fault ∧ fault.cause = .variablePastEnd declaration.name

/-- All that placing one variable can come to. -/
theorem place_ends (encoder : Encoder σ) (origin : Option String) (declaration : Declaration)
    (text : String) (allocation : Allocation) (bench : Bench σ) :
    (place encoder origin declaration text allocation).Ends bench
      (fun next later => Places encoder declaration text bench later allocation next)
      (fun failure later => encoder.Fails failure ∨
        Overruns encoder declaration text bench later allocation failure) := by
  unfold place
  apply ExceptT.ends_bind
  apply Work.ends_encode
  · intro fault
    rfl
  · intro data remarks later answer handed
    have same : (encoder.answer text bench.state).1.data = data := by rw [answer]; rfl
    dsimp only
    split
    · rename_i past
      apply ExceptT.ends_bind
      apply Work.ends_fail
      refine .inr ⟨handed, ?_, _, rfl, rfl⟩
      simpa [Variable.limit, same] using past
    · rename_i fits
      apply ExceptT.ends_bind
      apply Work.ends_note
      apply ExceptT.ends_pure
      refine ⟨handed.note _ _, by rw [same], ?_⟩
      simpa [push] using fits
  · intro failure later fails _
    exact .inl fails

/-! ## Resolving -/

/-- Among the references of a declaration, this is the first without a variable. -/
structure Unresolved (declarations : List Declaration) (origin : Option String)
    (declaration : Declaration) (allocation : Allocation) (references : List String)
    (failure : Failure) (reference : String) : Prop where
  split : ∃ before after, references = before ++ reference :: after ∧
    ∀ known ∈ before, allocation.find? known ≠ none
  missing : allocation.find? reference = none
  fault : failure = .fault (unresolved declarations origin declaration allocation reference)

/-- References are looked up in order, up to the first without a variable. -/
theorem resolve_ends (encoder : Encoder σ) (declarations : List Declaration)
    (origin : Option String) (declaration : Declaration) (allocation : Allocation) :
    ∀ (references : List String) (bench : Bench σ),
      (resolve declarations origin declaration allocation references).Ends bench
        (fun locations later => Handed encoder bench later [] ∧
          ∀ reference ∈ references, ∃ target, allocation.find? reference = some target ∧
            locations.lookup reference = some target.location)
        (fun failure _ => ∃ reference,
          Unresolved declarations origin declaration allocation references failure reference)
  | [], bench => ⟨.refl encoder bench, by simp⟩
  | reference :: references, bench => by
      unfold resolve
      cases found : allocation.find? reference with
      | none =>
          apply Work.ends_fail
          exact ⟨reference, ⟨[], references, rfl, by simp⟩, found, rfl⟩
      | some target =>
          apply ExceptT.ends_bind
          apply Work.ends_note
          apply ExceptT.ends_bind
          refine (resolve_ends encoder declarations origin declaration allocation references _).mono
            ?_ ?_
          · rintro locations later ⟨handed, known⟩
            refine ExceptT.ends_pure ⟨⟨handed.calls, handed.state⟩, ?_⟩
            intro wanted member
            by_cases here : wanted = reference
            · subst here
              exact ⟨target, found, by simp⟩
            · obtain ⟨other, present, located⟩ := known wanted (by simpa [here] using member)
              have differs : (wanted == reference) = false := by simpa using here
              exact ⟨other, present, by rw [List.lookup_cons, differs]; exact located⟩
          · rintro failure later ⟨wanted, ⟨before, after, rfl, known⟩, missing, fault⟩
            refine ⟨wanted, ⟨reference :: before, after, rfl, ?_⟩, missing, fault⟩
            intro earlier member
            rcases List.mem_cons.mp member with rfl | member
            · simp [found]
            · exact known earlier member

/-- Every ending for an alias, also one that does not list all references of its text. -/
theorem placeAlias_all_ends (encoder : Encoder σ) (declarations : List Declaration)
    (origin : Option String) (allocation : Allocation) (declaration : Declaration)
    (bench : Bench σ) :
    (placeAlias encoder declarations origin allocation declaration).Ends bench
      (fun next later => ∃ locations text,
        (∀ reference ∈ declaration.references, ∃ target,
          allocation.find? reference = some target ∧
          locations.lookup reference = some target.location) ∧
        Declaration.substitute locations declaration.text = .ok text ∧
        Places encoder declaration text bench later allocation next)
      (fun failure later => encoder.Fails failure ∨
        (∃ text, Overruns encoder declaration text bench later allocation failure) ∨
        (∃ reference, Unresolved declarations origin declaration allocation
          declaration.references failure reference) ∨
        ∃ locations,
          (∀ reference ∈ declaration.references, ∃ target,
            allocation.find? reference = some target ∧
            locations.lookup reference = some target.location) ∧
          Declaration.substitute locations declaration.text = .error failure) := by
  unfold placeAlias
  apply ExceptT.ends_bind
  refine (resolve_ends encoder declarations origin declaration allocation _ bench).mono ?_ ?_
  · rintro locations middle ⟨handed, known⟩
    apply ExceptT.ends_bind
    refine Work.ends_ofExcept (fun text written => ?_) fun failure unwritten =>
      .inr (.inr (.inr ⟨locations, known, unwritten⟩))
    -- Resolving handed nothing over, so encoding goes on from the state at the start.
    have sameState : middle.state = bench.state := handed.state
    have together : ∀ later, Handed encoder middle later [text] →
        Handed encoder bench later [text] := by
      intro later second
      simpa using handed.trans second
    refine (place_ends encoder origin declaration text allocation middle).mono ?_ ?_
    · rintro next later ⟨second, pushed, within⟩
      exact ⟨locations, text, known, written, together later second,
        by rw [← sameState]; exact pushed, within⟩
    · rintro failure later (fails | ⟨second, past, fault⟩)
      · exact .inl fails
      · exact .inr (.inl ⟨text, together later second, by rw [← sameState]; exact past, fault⟩)
  · intro failure later unresolved
    exact .inr (.inr (.inl unresolved))

theorem placeAlias_ends (encoder : Encoder σ) (declarations : List Declaration)
    (origin : Option String) (allocation : Allocation) {declaration : Declaration}
    (faithful : declaration.Faithful) (bench : Bench σ) :
    (placeAlias encoder declarations origin allocation declaration).Ends bench
      (fun next later => ∃ locations text,
        (∀ reference ∈ declaration.references, ∃ target,
          allocation.find? reference = some target ∧
          locations.lookup reference = some target.location) ∧
        Declaration.substitute locations declaration.text = .ok text ∧
        Places encoder declaration text bench later allocation next)
      (fun failure later => encoder.Fails failure ∨
        (∃ text, Overruns encoder declaration text bench later allocation failure) ∨
        ∃ reference, Unresolved declarations origin declaration allocation
          declaration.references failure reference) := by
  refine (placeAlias_all_ends encoder declarations origin allocation declaration bench).mono
    (fun _ _ good => good) ?_
  rintro failure later (fails | overruns | unresolved | ⟨locations, known, unwritten⟩)
  · exact .inl fails
  · exact .inr (.inl overruns)
  · exact .inr (.inr unresolved)
  · have covered : ∀ name ∈ Declaration.referencesOf declaration.text.toList,
        ∃ location, locations.lookup name = some location := by
      intro name member
      rw [← faithful] at member
      obtain ⟨target, -, located⟩ := known name member
      exact ⟨target.location, located⟩
    obtain ⟨text, written⟩ := Declaration.substitute_of_covered covered
    rw [written] at unwritten
    cases unwritten

end Allocation

end OverlayPatch
