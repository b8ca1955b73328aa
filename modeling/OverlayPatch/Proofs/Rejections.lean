import OverlayPatch.Proofs.Aliases
import OverlayPatch.Proofs.Branches
import OverlayPatch.Proofs.Origins

/-!
# What was accepted before a text is rejected

A text is handed over for each variable, then one for each replacement and hook, and at last a
branch for each hook. The first that is rejected ends the run. So a rejection tells how far the run
got: every text before it was accepted (`RejectedLast`), and whose text it is decides at which
stage and at whose turn this was.

Each stage gets one statement here. If it ends well, all its texts were accepted (`Accepted`), and
if it fails with a fault of encoding, that fault is what the stage made of a rejection
(`OnEncoding`), met at the turn of a variable (`VariableTurn`), of a body (`BodyTurn`) or of a
branch (`BranchTurn`). All other faults of a stage are of other kinds.
-/

namespace OverlayPatch

set_option autoImplicit false

variable {σ : Type} {encoder : Encoder σ}

/-! ## Answers -/

/-- All texts are accepted, handed over one after the other. -/
def Encoder.Takes (encoder : Encoder σ) : σ → List String → Prop
  | _, [] => True
  | state, text :: texts =>
      (∃ data remarks, (encoder.answer text state).1 = .accepted data remarks) ∧
        encoder.Takes (encoder.answer text state).2 texts

theorem Encoder.takes_append {state : σ} {first second : List String} :
    encoder.Takes state (first ++ second) ↔
      encoder.Takes state first ∧ encoder.Takes (encoder.stateAfter state first) second := by
  induction first generalizing state with
  | nil => simp [Takes, stateAfter]
  | cons text first ih =>
      simp only [List.cons_append, Takes, ih, and_assoc]
      rfl

/-- Between two benches just these texts were handed over, and all were accepted. -/
structure Accepted (encoder : Encoder σ) (before later : Bench σ) (texts : List String) : Prop
    extends Handed encoder before later texts where
  takes : encoder.Takes before.state texts

/-- After texts that were accepted this one was rejected, and nothing was handed over since. -/
structure RejectedLast (encoder : Encoder σ) (before later : Bench σ) (taken : List String)
    (text : String) (raw : Fault) : Prop where
  calls : later.calls = before.calls ++ (taken ++ [text])
  takes : encoder.Takes before.state taken
  answer : (encoder.answer text (encoder.stateAfter before.state taken)).1 = .rejected raw

section Texts

variable {before middle later : Bench σ} {first second taken texts : List String} {text : String}
  {raw : Fault}

theorem accepted_of_handed (handed : Handed encoder before later []) :
    Accepted encoder before later [] :=
  ⟨handed, trivial⟩

theorem Accepted.trans (one : Accepted encoder before middle first)
    (two : Accepted encoder middle later second) :
    Accepted encoder before later (first ++ second) where
  toHanded := one.toHanded.trans two.toHanded
  takes := Encoder.takes_append.mpr ⟨one.takes, one.state ▸ two.takes⟩

theorem Accepted.note (accepted : Accepted encoder before later texts) (level : Level)
    (entry : String) : Accepted encoder before (later.note level entry) texts :=
  ⟨accepted.toHanded.note level entry, accepted.takes⟩

/-- A rejection comes behind all that was accepted before. -/
theorem Accepted.rejected (accepted : Accepted encoder before middle first)
    (last : RejectedLast encoder middle later taken text raw) :
    RejectedLast encoder before later (first ++ taken) text raw where
  calls := by rw [last.calls, accepted.calls, List.append_assoc, List.append_assoc]
  takes := Encoder.takes_append.mpr ⟨accepted.takes, accepted.state ▸ last.takes⟩
  answer := by
    have state : encoder.stateAfter before.state (first ++ taken) =
        encoder.stateAfter middle.state taken := by
      rw [accepted.state, Encoder.stateAfter, Encoder.stateAfter, Encoder.stateAfter,
        List.foldl_append]
    rw [state]
    exact last.answer

theorem Accepted.rejected_next (accepted : Accepted encoder before middle taken)
    (last : RejectedLast encoder middle later [] text raw) :
    RejectedLast encoder before later taken text raw := by
  simpa using accepted.rejected last

end Texts

/-- If the failure is a fault of encoding, the fault and the bench are `told` so. -/
def OnEncoding (told : Fault → Bench σ → Prop) (failure : Failure) (later : Bench σ) : Prop :=
  failure.IfFault fun fault => fault.cause.kind = .encoding → told fault later

section Endings

variable {told : Fault → Bench σ → Prop} {later : Bench σ}

theorem onEncoding_of_kind {fault : Fault} (kind : FaultKind) (is : fault.cause.kind = kind)
    (other : kind ≠ .encoding) : OnEncoding told (.fault fault) later :=
  Failure.ifFault_fault fun encoding => absurd (is.symm.trans encoding) other

/-- What the encoder rejects is a fault of encoding only if it was completed as one. -/
theorem onEncoding_amended {raw : Fault} {amend : Fault → Fault}
    (tells : told (amend raw) later) : OnEncoding told (.fault (raw.amended amend)) later := by
  refine Failure.ifFault_fault fun encoding => ?_
  by_cases kind : raw.cause.kind = .encoding
  · rw [Fault.amended_of_encoding kind]
    exact tells
  · rw [Fault.amended, if_neg kind] at encoding
    exact absurd encoding kind

theorem OnEncoding.mono {told' : Fault → Bench σ → Prop} {failure : Failure}
    (here : OnEncoding told failure later)
    (weaker : ∀ fault, told fault later → told' fault later) : OnEncoding told' failure later :=
  fun fault same encoding => weaker fault (here fault same encoding)

/-- What was found away from the bench fails with no fault of encoding. -/
theorem Work.ends_ofExcept_of_kind {α : Type} {result : Except Failure α} {bench : Bench σ}
    {good : α → Bench σ → Prop}
    (other : OnlyErrors (Failure.IfFault fun fault => fault.cause.kind ≠ .encoding) result)
    (found : ∀ a, result = .ok a → good a bench) :
    (Work.ofExcept result : Work σ α).Ends bench good (OnEncoding told) :=
  Work.ends_ofExcept found fun failure failed fault same encoding =>
    absurd encoding (other failure failed fault same)

/-- A text is accepted, or it is the last that was handed over. -/
theorem Work.ends_encode_last {amend : Fault → Fault} {text : String} {bench : Bench σ}
    {good : List UInt8 → Bench σ → Prop}
    (accepts : ∀ data later, (encoder.answer text bench.state).1.data = data →
      Accepted encoder bench later [text] → good data later)
    (rejects : ∀ raw later, RejectedLast encoder bench later [] text raw → told (amend raw) later) :
    (encoder.encode amend text).Ends bench good (OnEncoding told) := by
  unfold ExceptT.Ends
  rw [Encoder.run_encode]
  cases answer : (encoder.answer text bench.state).1 with
  | accepted data remarks =>
      exact accepts data _ (by rw [answer]; rfl) ⟨⟨rfl, rfl⟩, ⟨data, remarks, answer⟩, trivial⟩
  | rejected raw => exact onEncoding_amended (rejects raw _ ⟨rfl, trivial, answer⟩)
  | crashed breakdown => exact fun _ same => nomatch same

end Endings

/-! ## Variables -/

/-- What placing makes of a fault that the encoder finds in the text of a variable. -/
def Fault.forVariable (origin : Option String) (name : String) (raw : Fault) : Fault :=
  (raw.withHint s!"while encoding variable '{name}'").within
    { origin, mode := some Mode.append.name }

namespace Allocation

open Declaration

/-- It is the turn of a declaration, for which a text is handed over: those of the declarations
before it in the order of placing have been `taken`. -/
structure VariableTurn (start : Int) (declarations : List Declaration) (declaration : Declaration)
    (taken : List String) (text : String) : Prop where
  there : ∃ before after allocation, placingOrder declarations = before ++ declaration :: after ∧
    List.Forall₂ (HandedFor start allocation) before taken ∧
    HandedFor start allocation declaration text

/-- A text was rejected when it was the turn of a variable. -/
def VariableRejected (encoder : Encoder σ) (origin : Option String) (start : Int)
    (declarations : List Declaration) (bench : Bench σ) (fault : Fault) (later : Bench σ) : Prop :=
  ∃ declaration taken text raw, VariableTurn start declarations declaration taken text ∧
    RejectedLast encoder bench later taken text raw ∧
    fault = raw.forVariable origin declaration.name

variable {origin : Option String} {start : Int} {declarations done : List Declaration}
  {allocation : Allocation} {first bench : Bench σ}

/-- A variable is placed with one text, or that was rejected. -/
theorem place_rejects (encoder : Encoder σ) (origin : Option String) (declaration : Declaration)
    (text : String) (allocation : Allocation) (bench : Bench σ) :
    (place encoder origin declaration text allocation).Ends bench
      (fun _ later => Accepted encoder bench later [text])
      (OnEncoding fun fault later => ∃ raw, RejectedLast encoder bench later [] text raw ∧
        fault = raw.forVariable origin declaration.name) := by
  unfold place
  apply ExceptT.ends_bind
  refine Work.ends_encode_last (fun data later _ accepted => ?_) fun raw later last =>
    ⟨raw, last, rfl⟩
  dsimp only
  split
  · apply ExceptT.ends_bind
    exact Work.ends_fail (onEncoding_of_kind .range rfl (by decide))
  · apply ExceptT.ends_bind
    apply Work.ends_note
    exact ExceptT.ends_pure (accepted.note _ _)

theorem placeAlias_rejects (encoder : Encoder σ) (declarations : List Declaration)
    (origin : Option String) (allocation : Allocation) (declaration : Declaration)
    (bench : Bench σ) :
    (placeAlias encoder declarations origin allocation declaration).Ends bench
      (fun _ later => ∃ text, Accepted encoder bench later [text])
      (OnEncoding fun fault later => ∃ locations text raw,
        (∀ reference ∈ declaration.references, ∃ target,
          allocation.find? reference = some target ∧
          locations.lookup reference = some target.location) ∧
        substitute locations declaration.text = .ok text ∧
        RejectedLast encoder bench later [] text raw ∧
        fault = raw.forVariable origin declaration.name) := by
  unfold placeAlias
  apply ExceptT.ends_bind
  refine (resolve_ends encoder declarations origin declaration allocation _ bench).mono ?_ ?_
  · rintro locations middle ⟨handed, known⟩
    have silent := accepted_of_handed handed
    apply ExceptT.ends_bind
    refine Work.ends_ofExcept_of_kind (substitute_faultless _ _ _) fun text written => ?_
    refine (place_rejects encoder origin declaration text allocation middle).mono ?_ ?_
    · intro _ later accepted
      exact ⟨text, silent.trans accepted⟩
    · intro failure later rejects
      refine rejects.mono ?_
      rintro fault ⟨raw, last, same⟩
      exact ⟨locations, text, raw, known, written, silent.rejected last, same⟩
  · rintro failure later ⟨reference, -, -, rfl⟩
    exact onEncoding_of_kind .unresolved rfl (by decide)

/-- The texts that were told of are those that were accepted. -/
theorem Told.accepted (told : Told encoder start first bench done allocation)
    (accepted : ∃ texts, Accepted encoder first bench texts) :
    ∃ texts, Accepted encoder first bench texts ∧
      List.Forall₂ (HandedFor start allocation) done texts := by
  obtain ⟨texts, handed, each⟩ := told.handed
  obtain ⟨texts', accepted⟩ := accepted
  obtain rfl : texts = texts' :=
    List.append_cancel_left (handed.calls.symm.trans accepted.calls)
  exact ⟨texts, accepted, each⟩

theorem direct_rejects (encoder : Encoder σ) (origin : Option String) (start : Int)
    (declarations : List Declaration) (bench : Bench σ) :
    ((declarations.filter (!·.isAlias)).foldlM (fun allocation declaration =>
        place encoder origin declaration declaration.text allocation)
        (Allocation.start start)).Ends bench
      (fun allocation later =>
        Told encoder start bench later (declarations.filter (!·.isAlias)) allocation ∧
        ∃ texts, Accepted encoder bench later texts)
      (OnEncoding (VariableRejected encoder origin start declarations bench)) := by
  refine ExceptT.ends_foldlM (fun (done : List Declaration) allocation later =>
    Told encoder start bench later done allocation ∧ ∃ texts, Accepted encoder bench later texts)
    ⟨told_start encoder start bench, [], accepted_of_handed (.refl encoder bench)⟩ ?_
  rintro done declaration rest allocation middle split ⟨told, accepted⟩
  have member : declaration ∈ declarations.filter (!·.isAlias) := by simp [split]
  have direct : declaration.isAlias = false := by simpa using (List.mem_filter.mp member).2
  obtain ⟨taken, accepted, each⟩ := told.accepted accepted
  refine ((place_ends encoder origin declaration declaration.text allocation middle).and
    (place_rejects encoder origin declaration declaration.text allocation middle)).mono ?_ ?_
  · rintro next later ⟨places, more⟩
    exact ⟨told.step places (.direct direct), _, accepted.trans more⟩
  · rintro failure later ⟨-, rejects⟩
    refine rejects.mono ?_
    rintro fault ⟨raw, last, same⟩
    have order : placingOrder declarations =
        done ++ declaration :: (rest ++ declarations.filter (·.isAlias)) := by
      simp [placingOrder, split]
    exact ⟨declaration, taken, _, raw, ⟨done, _, allocation, order, each, .direct direct⟩,
      accepted.rejected_next last, same⟩

theorem aliases_rejects (encoder : Encoder σ) (origin : Option String) (start : Int)
    {declarations : List Declaration} (faithful : ∀ d ∈ declarations, d.Faithful)
    {direct : Allocation} {first bench : Bench σ}
    (placed : Told encoder start first bench (declarations.filter (!·.isAlias)) direct)
    (accepted : ∃ texts, Accepted encoder first bench texts) :
    ((declarations.filter (·.isAlias)).foldlM
        (placeAlias encoder declarations origin) direct).Ends bench
      (fun allocation later =>
        Told encoder start first later (placingOrder declarations) allocation ∧
        ∃ texts, Accepted encoder first later texts)
      (OnEncoding (VariableRejected encoder origin start declarations first)) := by
  refine ExceptT.ends_foldlM (fun (done : List Declaration) allocation later =>
    Told encoder start first later (placedBefore declarations done) allocation ∧
      ∃ texts, Accepted encoder first later texts)
    ⟨by simpa [placedBefore] using placed, accepted⟩ ?_
  rintro done referrer rest allocation middle split ⟨told, accepted⟩
  have member : referrer ∈ declarations.filter (·.isAlias) := by simp [split]
  obtain ⟨declared, isAlias⟩ := List.mem_filter.mp member
  obtain ⟨taken, accepted, each⟩ := told.accepted accepted
  refine ((placeAlias_ends encoder declarations origin allocation (faithful referrer declared)
    middle).and (placeAlias_rejects encoder declarations origin allocation referrer middle)).mono
    ?_ ?_
  · rintro next later ⟨⟨locations, text, known, written, places⟩, text', more⟩
    have here := handedFor_alias told (faithful referrer declared) isAlias known written
    exact ⟨by simpa [placedBefore] using told.step places here, _, accepted.trans more⟩
  · rintro failure later ⟨-, rejects⟩
    refine rejects.mono ?_
    rintro fault ⟨locations, text, raw, known, written, last, same⟩
    have here := handedFor_alias told (faithful referrer declared) isAlias known written
    have order : placingOrder declarations =
        placedBefore declarations done ++ referrer :: rest := by
      simp [placingOrder, placedBefore, split]
    exact ⟨referrer, taken, text, raw, ⟨_, rest, allocation, order, each, here⟩,
      accepted.rejected_next last, same⟩

/-- Placing variables of which the lines were read: all their texts are accepted, or one of them is
rejected at its turn, or the failure is of another kind. -/
theorem ofDeclarations_rejects (encoder : Encoder σ) (origin : Option String) (start : Int)
    {declarations : List Declaration} (faithful : ∀ d ∈ declarations, d.Faithful)
    (bench : Bench σ) :
    (ofDeclarations encoder origin start declarations).Ends bench
      (fun allocation later => ∃ texts, Accepted encoder bench later texts ∧
        List.Forall₂ (HandedFor start allocation) (placingOrder declarations) texts)
      (OnEncoding (VariableRejected encoder origin start declarations bench)) := by
  unfold ofDeclarations
  cases firstRepeated? [] declarations with
  | some name => exact Work.ends_fail (onEncoding_of_kind .duplicate rfl (by decide))
  | none =>
      apply ExceptT.ends_bind
      refine (direct_rejects encoder origin start declarations bench).mono ?_ fun _ _ bad => bad
      rintro direct middle ⟨placed, accepted⟩
      refine (aliases_rejects encoder origin start faithful placed accepted).mono ?_
        fun _ _ bad => bad
      rintro allocation later ⟨told, accepted⟩
      exact told.accepted accepted

end Allocation

/-! ## Bodies -/

def Directive.context (origin : Option String) (directive : Directive) : Context :=
  { origin, mode := some directive.mode.name, address := directive.address? }

namespace Routine

/-- The routine is what a directive comes to: meant for its site, with its markers resolved. -/
structure Made (arch : Architecture) (vars : List Variable) (origin : Option String)
    (directive : Directive) (routine : Routine) : Prop where
  site : MadeFor directive routine
  source : directive.resolveMarkers arch vars origin = .ok routine.source

/-- It is the turn of a directive, and its body is the text: the routines of the directives before
it are `done`. -/
structure BodyTurn (arch : Architecture) (vars : List Variable) (origin : Option String)
    (directives : List Directive) (directive : Directive) (done : List Routine) (text : String) :
    Prop where
  there : ∃ before after, directives = before ++ directive :: after ∧
    List.Forall₂ (Made arch vars origin) before done
  own : directive.resolveMarkers arch vars origin = .ok text

/-- The bodies of the routines were accepted one after the other, and their code came back. -/
structure Encoded (encoder : Encoder σ) (bench later : Bench σ) (routines : List Routine) :
    Prop where
  accepted : Accepted encoder bench later (routines.map (·.source))
  code : routines.map (·.data) = encoder.yields bench.state (routines.map (·.source))

variable {arch : Architecture} {vars : List Variable} {origin : Option String}
  {bench middle later : Bench σ} {directives : List Directive} {directive first : Directive}
  {routine : Routine} {routines done : List Routine} {text : String}

theorem encoded_nil (encoder : Encoder σ) (bench : Bench σ) : Encoded encoder bench bench [] :=
  ⟨accepted_of_handed (.refl encoder bench), rfl⟩

theorem Encoded.cons (one : Encoded encoder bench middle [routine])
    (others : Encoded encoder middle later routines) :
    Encoded encoder bench later (routine :: routines) where
  accepted := one.accepted.trans others.accepted
  code := by
    have state : middle.state = (encoder.answer routine.source bench.state).2 := one.accepted.state
    have here : routine.data = (encoder.answer routine.source bench.state).1.data :=
      (List.cons.inj one.code).1
    rw [List.map_cons, List.map_cons, others.code, state, here]
    rfl

theorem BodyTurn.cons (turn : BodyTurn arch vars origin directives directive done text)
    (made : Made arch vars origin first routine) :
    BodyTurn arch vars origin (first :: directives) directive (routine :: done) text := by
  obtain ⟨⟨before, after, rfl, earlier⟩, own⟩ := turn
  exact ⟨⟨first :: before, after, rfl, .cons made earlier⟩, own⟩

/-- The check of the size hands over nothing. -/
theorem checkSize_silent (encoder : Encoder σ) (arch : Architecture) (origin : Option String)
    (strict : Bool) (point : Int) (size : Nat) (bench : Bench σ)
    {told : Fault → Bench σ → Prop} :
    (checkSize arch origin strict point size).Ends bench
      (fun _ later => Accepted encoder bench later []) (OnEncoding told) := by
  have silent := accepted_of_handed (.refl encoder bench)
  unfold checkSize
  split
  · split
    · exact Work.ends_fail (onEncoding_of_kind .size rfl (by decide))
    · exact Work.ends_note (silent.note _ _)
  · exact ExceptT.ends_pure silent

/-- A routine is made with one text, or that was rejected. -/
theorem assemble_rejects (encoder : Encoder σ) (arch : Architecture) (vars : List Variable)
    (origin : Option String) (strict : Bool) (directive : Directive) (bench : Bench σ) :
    (assemble encoder arch vars origin strict directive).Ends bench
      (fun routine later => Made arch vars origin directive routine ∧
        Encoded encoder bench later [routine])
      (OnEncoding fun fault later => ∃ text raw,
        directive.resolveMarkers arch vars origin = .ok text ∧
        RejectedLast encoder bench later [] text raw ∧
        fault = raw.within (directive.context origin)) := by
  unfold assemble
  apply ExceptT.ends_bind
  refine Work.ends_ofExcept_of_kind ?_ fun source resolved => ?_
  · intro failure failed fault same
    rw [(directive.resolveMarkers_crowded arch vars origin failure failed fault same).1]
    decide
  apply ExceptT.ends_bind
  refine Work.ends_encode_last (fun data later gives accepted => ?_) fun raw later last =>
    ⟨source, raw, resolved, last, rfl⟩
  have code : [data] = encoder.yields bench.state [source] := by rw [← gives]; rfl
  cases site : directive.site with
  | append => simp [Directive.resolveMarkers, site] at resolved
  | repl point =>
      apply ExceptT.ends_bind
      refine (checkSize_silent encoder arch origin strict point data.length later).mono ?_
        fun _ _ bad => bad
      intro _ last silent
      have made : MadeFor directive
          { mode := .repl, insertionPoint := point, source := source, data := data } :=
        ⟨by rw [Directive.mode, site]; rfl, by rw [Directive.address?, site]; rfl⟩
      exact ExceptT.ends_pure ⟨⟨made, resolved⟩, accepted.trans silent, code⟩
  | hook point =>
      have made : MadeFor directive
          { mode := .hook, insertionPoint := point, source := source, data := data } :=
        ⟨by rw [Directive.mode, site]; rfl, by rw [Directive.address?, site]; rfl⟩
      exact ExceptT.ends_pure ⟨⟨made, resolved⟩, accepted, code⟩

/-- Assembling directives one after the other: all their bodies are accepted, or one of them is
rejected at its turn, or the failure is of another kind. -/
theorem assembleEach_rejects (encoder : Encoder σ) (arch : Architecture) (vars : List Variable)
    (origin : Option String) (strict : Bool) :
    ∀ (directives : List Directive) (bench : Bench σ),
      (directives.mapM (assemble encoder arch vars origin strict)).Ends bench
        (fun routines later => List.Forall₂ (Made arch vars origin) directives routines ∧
          Encoded encoder bench later routines)
        (OnEncoding fun fault later => ∃ directive done text raw,
          BodyTurn arch vars origin directives directive done text ∧
          RejectedLast encoder bench later (done.map (·.source)) text raw ∧
          fault = raw.within (directive.context origin))
  | [], bench => by
      rw [List.mapM_nil]
      exact ExceptT.ends_pure ⟨.nil, encoded_nil encoder bench⟩
  | first :: directives, bench => by
      rw [List.mapM_cons]
      apply ExceptT.ends_bind
      refine (assemble_rejects encoder arch vars origin strict first bench).mono ?_ ?_
      · rintro routine middle ⟨made, one⟩
        apply ExceptT.ends_bind
        refine (assembleEach_rejects encoder arch vars origin strict directives middle).mono ?_ ?_
        · rintro routines later ⟨others, encoded⟩
          exact ExceptT.ends_pure ⟨.cons made others, one.cons encoded⟩
        · intro failure later rejects
          refine rejects.mono ?_
          rintro fault ⟨directive, done, text, raw, turn, last, same⟩
          exact ⟨directive, routine :: done, text, raw, turn.cons made,
            one.accepted.rejected last, same⟩
      · intro failure later rejects
        refine rejects.mono ?_
        rintro fault ⟨text, raw, own, last, same⟩
        exact ⟨first, [], text, raw, ⟨⟨[], directives, rfl, .nil⟩, own⟩, last, same⟩

/-! ## Branches -/

/-- It is the turn of a hook, and its branch is the text: from the cursor on, the routines `done`
before it were linked with these branches. -/
structure BranchTurn (encoder : Encoder σ) (arch : Architecture) (cursor : Int) (state : σ)
    (done : List Routine) (hook : Routine) (branches : List String) (text : String) : Prop where
  moves : hook.isHook = true
  front : ∃ linked, Advances encoder arch cursor state done linked branches
  own : arch.branchText (cursor + hookRoom done - hook.insertionPoint) = .ok text

theorem Advances.takes {cursor : Int} {state : σ} {linked : List Routine} {texts : List String}
    (advances : Advances encoder arch cursor state routines linked texts) :
    encoder.Takes state texts := by
  induction advances with
  | nil => trivial
  | replacement _ _ ih => exact ih
  | hook _ _ answer _ ih => exact ⟨⟨_, _, answer⟩, ih⟩

/-- Hooks have their turns one after the other, each with its branch. -/
theorem linkAll_rejects (encoder : Encoder σ) (arch : Architecture) (origin : Option String)
    (cursor : Int) (routines : List Routine) (bench : Bench σ) :
    (linkAll encoder arch origin cursor routines).Ends bench (fun _ _ => True)
      (OnEncoding fun fault later => ∃ done hook rest branches text raw,
        routines = done ++ hook :: rest ∧
        BranchTurn encoder arch cursor bench.state done hook branches text ∧
        RejectedLast encoder bench later branches text raw ∧
        fault = raw.within
          { origin, mode := some hook.mode.name, address := some hook.insertionPoint }) := by
  unfold ExceptT.Ends
  rw [run_linkAll]
  rcases ran : (link encoder arch origin cursor routines).run bench with
    ⟨⟨linked, failure | limit⟩, later⟩
  · obtain ⟨k, branches, vain, advances, -, handed, ends⟩ := exists_linksUpTo ran
    cases ends with
    | unbranched there moves failed =>
        cases failed with
        | unwritten failed =>
            exact fun fault same _ =>
              (Architecture.fill_faultless (fun _ => False) _ _ _ failed fault same).elim
        | @rejected text raw written answer =>
            refine onEncoding_amended ?_
            refine ⟨routines.take k, _, routines.drop (k + 1), branches, text, raw, ?_,
              ⟨moves, ⟨_, advances⟩, written⟩, ⟨?_, advances.takes, answer⟩, rfl⟩
            · obtain ⟨small, here⟩ := List.getElem?_eq_some_iff.mp there
              rw [← here, ← List.drop_eq_getElem_cons small, List.take_append_drop]
            · rw [handed, List.append_assoc]
        | crashed _ _ => exact fun _ same => nomatch same
    | pastEnd _ _ _ => exact onEncoding_of_kind .range rfl (by decide)
  · trivial

end Routine

end OverlayPatch
