import OverlayPatch.Encoder
import OverlayPatch.Proofs.Results

/-!
# Stages

A stage runs from a state and either gives a result or fails; in both cases it leaves a state. That
is a bench where a module is assembled, a trail in a batch, and what is shown and done so far in a
run of the command.

`ExceptT.Ends work state good bad` says what holds of either ending. The rules below take a stage
apart along its steps (`ends_bind`), its loops over a list (`ends_foldlM`, `ends_mapM`) and its
calls of the encoder (`Work.ends_encode`), so that every stage gets one statement about all its
endings and no later proof opens the stage again. `ExceptT.Gives work outcome` is for stages whose
outcome is the same from every state.

What an encoder answers depends on its state, hence on the texts it was handed before.
`Handed encoder before later texts` says that exactly `texts` were handed over between two
benches, and `Encoder.yields` gives the bytes that came back for them.
-/

namespace ExceptT

set_option autoImplicit false

variable {ε s α β : Type}

/-! ## Runs -/

/-- A stage goes on with its second step unless the first one fails. -/
theorem run_bind_eq (work : ExceptT ε (StateM s) α) (next : α → ExceptT ε (StateM s) β)
    (state : s) :
    (work >>= next).run state =
      match work.run state with
      | (.ok a, later) => (next a).run later
      | (.error e, later) => (.error e, later) := by
  have step : (work >>= next).run state =
      ExceptT.bindCont next (work.run state).1 (work.run state).2 := rfl
  rw [step]
  rcases work.run state with ⟨_ | a, later⟩ <;> rfl

/-- A stage that succeeds succeeded in its first step and went on from there. -/
theorem run_bind_ok {work : ExceptT ε (StateM s) α} {next : α → ExceptT ε (StateM s) β}
    {state later : s} {b : β} (ran : (work >>= next).run state = (.ok b, later)) :
    ∃ a middle, work.run state = (.ok a, middle) ∧ (next a).run middle = (.ok b, later) := by
  rw [run_bind_eq] at ran
  rcases first : work.run state with ⟨e | a, middle⟩
  · rw [first] at ran
    cases ran
  · exact ⟨a, middle, rfl, by simpa [first] using ran⟩

/-! ## Endings -/

/-- From the state, the stage gives a result that is `good` or fails in a way that is `bad`; both
are told the state that is left. -/
def Ends (work : ExceptT ε (StateM s) α) (state : s) (good : α → s → Prop) (bad : ε → s → Prop) :
    Prop :=
  match work.run state with
  | (.ok a, later) => good a later
  | (.error e, later) => bad e later

variable {state : s} {good : α → s → Prop} {bad : ε → s → Prop}

theorem Ends.of_ok {work : ExceptT ε (StateM s) α} {later : s} {a : α}
    (ends : work.Ends state good bad) (ran : work.run state = (.ok a, later)) : good a later := by
  simpa [Ends, ran] using ends

theorem Ends.of_error {work : ExceptT ε (StateM s) α} {later : s} {e : ε}
    (ends : work.Ends state good bad) (ran : work.run state = (.error e, later)) : bad e later := by
  simpa [Ends, ran] using ends

/-- A stage has one of two endings. -/
theorem Ends.cases {work : ExceptT ε (StateM s) α} (ends : work.Ends state good bad) :
    (∃ a later, work.run state = (.ok a, later) ∧ good a later) ∨
      ∃ e later, work.run state = (.error e, later) ∧ bad e later := by
  rcases ran : work.run state with ⟨e | a, later⟩
  · exact .inr ⟨e, later, rfl, ends.of_error ran⟩
  · exact .inl ⟨a, later, rfl, ends.of_ok ran⟩

theorem Ends.mono {work : ExceptT ε (StateM s) α} {good' : α → s → Prop} {bad' : ε → s → Prop}
    (ends : work.Ends state good bad) (better : ∀ a later, good a later → good' a later)
    (worse : ∀ e later, bad e later → bad' e later) : work.Ends state good' bad' := by
  unfold Ends at ends ⊢
  rcases ran : work.run state with ⟨e | a, later⟩ <;> simp only [ran] at ends
  · exact worse e later ends
  · exact better a later ends

theorem Ends.and {work : ExceptT ε (StateM s) α} {good' : α → s → Prop} {bad' : ε → s → Prop}
    (one : work.Ends state good bad) (two : work.Ends state good' bad') :
    work.Ends state (fun a later => good a later ∧ good' a later)
      (fun e later => bad e later ∧ bad' e later) := by
  unfold Ends at one two ⊢
  rcases ran : work.run state with ⟨e | a, later⟩ <;> simp only [ran] at one two
  · exact ⟨one, two⟩
  · exact ⟨one, two⟩

theorem ends_run (work : ExceptT ε (StateM s) α) (state : s) :
    work.Ends state (fun a later => work.run state = (.ok a, later))
      (fun e later => work.run state = (.error e, later)) := by
  unfold Ends
  rcases work.run state with ⟨e | a, later⟩
  · rfl
  · rfl

theorem ends_pure {a : α} (here : good a state) :
    (pure a : ExceptT ε (StateM s) α).Ends state good bad :=
  here

/-- What was found away from the state leaves the state alone. -/
theorem ends_mk_pure {result : Except ε α} (found : ∀ a, result = .ok a → good a state)
    (failed : ∀ e, result = .error e → bad e state) :
    (mk (pure result) : ExceptT ε (StateM s) α).Ends state good bad := by
  cases result with
  | error e => exact failed e rfl
  | ok a => exact found a rfl

/-- The second step goes on from where the first one ended. -/
theorem ends_bind {work : ExceptT ε (StateM s) α} {next : α → ExceptT ε (StateM s) β}
    {good : β → s → Prop}
    (first : work.Ends state (fun a later => (next a).Ends later good bad) bad) :
    (work >>= next).Ends state good bad := by
  unfold Ends at first ⊢
  rw [run_bind_eq]
  rcases ran : work.run state with ⟨e | a, later⟩
  · simpa [ran] using first
  · simp only [ran] at first
    exact first

/-! ## Loops

A loop keeps an invariant over the items done so far. The step may use that the item at hand
comes right after them. -/

theorem ends_foldlM_from {step : β → α → ExceptT ε (StateM s) β} {inv : List α → β → s → Prop}
    (items : List α)
    (keeps : ∀ done item rest b state, items = done ++ item :: rest → inv done b state →
      (step b item).Ends state (inv (done ++ [item])) bad) :
    ∀ (rest done : List α) (b : β) (state : s), items = done ++ rest → inv done b state →
      (rest.foldlM step b).Ends state (inv items) bad
  | [], done, b, state, split, holds => by
      have same : items = done := by simpa using split
      subst same
      exact ends_pure holds
  | item :: rest, done, b, state, split, holds => by
      rw [List.foldlM_cons]
      apply ends_bind
      refine (keeps done item rest b state split holds).mono ?_ (fun _ _ bad => bad)
      intro b' later holds'
      exact ends_foldlM_from items keeps rest (done ++ [item]) b' later (by simpa using split)
        holds'

/-- What every step keeps holds after the loop. -/
theorem ends_foldlM {step : β → α → ExceptT ε (StateM s) β} (inv : List α → β → s → Prop)
    {items : List α} {b : β} (start : inv [] b state)
    (keeps : ∀ done item rest b state, items = done ++ item :: rest → inv done b state →
      (step b item).Ends state (inv (done ++ [item])) bad) :
    (items.foldlM step b).Ends state (inv items) bad :=
  ends_foldlM_from items keeps items [] b state rfl start

/-- Working through a list gives one result for each item, in order. -/
theorem ends_mapM {step : α → ExceptT ε (StateM s) β} {rel : α → β → Prop} {bad : ε → Prop} :
    ∀ (items : List α) (state : s),
      (∀ item ∈ items, ∀ state,
        (step item).Ends state (fun b _ => rel item b) (fun e _ => bad e)) →
      (items.mapM step).Ends state (fun results _ => List.Forall₂ rel items results)
        (fun e _ => bad e)
  | [], state, _ => by
      rw [List.mapM_nil]
      exact ends_pure .nil
  | item :: items, state, each => by
      rw [List.mapM_cons]
      apply ends_bind
      refine (each item (by simp) state).mono ?_ (fun _ _ bad => bad)
      intro b later related
      apply ends_bind
      refine (ends_mapM items later fun item' member => each item' (by simp [member])).mono ?_
        (fun _ _ bad => bad)
      intro results later' rest
      exact ends_pure (.cons related rest)

/-! ## Outcomes that do not hang on the state -/

/-- The stage has this outcome from every state. -/
def Gives (work : ExceptT ε (StateM s) α) (outcome : Except ε α) : Prop :=
  ∀ state, (work.run state).1 = outcome

/-- The outcome of a stage, step by step. -/
theorem run_bind_fst (work : ExceptT ε (StateM s) α) (next : α → ExceptT ε (StateM s) β)
    (state : s) :
    ((work >>= next).run state).1 =
      (work.run state).1 >>= fun a => ((next a).run (work.run state).2).1 := by
  rw [run_bind_eq]
  rcases work.run state with ⟨_ | a, later⟩ <;> rfl

theorem gives_bind_ok {work : ExceptT ε (StateM s) α} {next : α → ExceptT ε (StateM s) β} {a : α}
    {outcome : Except ε β} (first : work.Gives (.ok a)) (rest : (next a).Gives outcome) :
    (work >>= next).Gives outcome := by
  intro state
  rw [run_bind_fst, first state]
  exact rest _

theorem gives_bind_error {work : ExceptT ε (StateM s) α} {e : ε} (failed : work.Gives (.error e))
    (next : α → ExceptT ε (StateM s) β) : (work >>= next).Gives (.error e) := by
  intro state
  rw [run_bind_fst, failed state]
  rfl

/-- Steps that do not hang on the state make up a stage that does not. -/
theorem gives_bind {work : ExceptT ε (StateM s) α} {next : α → ExceptT ε (StateM s) β}
    {outcome : Except ε α} {rest : α → Except ε β} (first : work.Gives outcome)
    (others : ∀ a, (next a).Gives (rest a)) : (work >>= next).Gives (outcome >>= rest) := by
  cases outcome with
  | error e => exact gives_bind_error first next
  | ok a => exact gives_bind_ok first (others a)

theorem gives_pure (a : α) : (pure a : ExceptT ε (StateM s) α).Gives (.ok a) :=
  fun _ => rfl

theorem gives_mk_pure (result : Except ε α) :
    (mk (pure result) : ExceptT ε (StateM s) α).Gives result :=
  fun _ => rfl

theorem gives_throw (e : ε) : (throw e : ExceptT ε (StateM s) α).Gives (.error e) :=
  fun _ => rfl

theorem gives_modify (change : s → s) :
    (modify change : ExceptT ε (StateM s) PUnit).Gives (.ok ⟨⟩) :=
  fun _ => rfl

/-- A loop of steps that do not hang on the state does not. -/
theorem gives_mapM {step : α → ExceptT ε (StateM s) β} {code : α → Except ε β}
    (each : ∀ item, (step item).Gives (code item)) (items : List α) :
    (items.mapM step).Gives (items.mapM code) := by
  induction items with
  | nil => exact gives_pure []
  | cons item items ih =>
      rw [List.mapM_cons, List.mapM_cons]
      exact gives_bind (each item) fun b => gives_bind ih fun rest => gives_pure (b :: rest)

/-- A loop that is run for its effects and never left. -/
theorem gives_forIn {step : α → PUnit → ExceptT ε (StateM s) (ForInStep PUnit)} (items : List α)
    (each : ∀ item, (step item PUnit.unit).Gives (.ok (.yield PUnit.unit))) :
    (forIn items PUnit.unit step).Gives (.ok PUnit.unit) := by
  induction items with
  | nil =>
      rw [List.forIn_nil]
      exact gives_pure PUnit.unit
  | cons item items ih =>
      rw [List.forIn_cons]
      exact gives_bind_ok (each item) ih

end ExceptT

namespace OverlayPatch

set_option autoImplicit false

/-! ## Stages at the bench -/

namespace Work

variable {σ α β : Type} {bench later : Bench σ}

theorem run_ofExcept_bind_ok {result : Except Failure α} {next : α → Work σ β} {b : β}
    (ran : (ofExcept result >>= next).run bench = (.ok b, later)) :
    ∃ a, result = .ok a ∧ (next a).run bench = (.ok b, later) := by
  cases result with
  | error failure => cases ran
  | ok a => exact ⟨a, rfl, ran⟩

theorem run_ofReading_bind_ok {result : Except Fault α} {next : α → Work σ β} {b : β}
    (ran : (ofReading result >>= next).run bench = (.ok b, later)) :
    ∃ a, result = .ok a ∧ (next a).run bench = (.ok b, later) := by
  cases result with
  | error fault => cases ran
  | ok a => exact ⟨a, rfl, ran⟩

variable {good : α → Bench σ → Prop} {bad : Failure → Bench σ → Prop}

theorem ends_fail {fault : Fault} (here : bad (.fault fault) bench) :
    (fail fault : Work σ α).Ends bench good bad :=
  here

theorem ends_ofExcept {result : Except Failure α} (found : ∀ a, result = .ok a → good a bench)
    (failed : ∀ failure, result = .error failure → bad failure bench) :
    (ofExcept result : Work σ α).Ends bench good bad :=
  ExceptT.ends_mk_pure found failed

theorem ends_ofReading {result : Except Fault α} (found : ∀ a, result = .ok a → good a bench)
    (failed : ∀ fault, result = .error fault → bad (.fault fault) bench) :
    (ofReading result : Work σ α).Ends bench good bad := by
  cases result with
  | error fault => exact failed fault rfl
  | ok a => exact found a rfl

theorem ends_note {level : Level} {text : String} {good : Unit → Bench σ → Prop}
    (here : good () (bench.note level text)) : (note level text).Ends bench good bad :=
  here

end Work

/-! ## Encoders -/

/-- The bytes of an answer; an answer without any gives none. -/
def Verdict.data : Verdict → List UInt8
  | .accepted data _ => data
  | .rejected _ | .crashed _ => []

namespace Encoder

variable {σ : Type}

/-- The bytes that come back for texts handed over one after the other. -/
def yields (encoder : Encoder σ) : σ → List String → List (List UInt8)
  | _, [] => []
  | state, text :: texts =>
      (encoder.answer text state).1.data :: encoder.yields (encoder.answer text state).2 texts

def stateAfter (encoder : Encoder σ) (state : σ) (texts : List String) : σ :=
  texts.foldl (fun state text => (encoder.answer text state).2) state

/-- One more text adds what comes back for it. -/
theorem yields_snoc (encoder : Encoder σ) (state : σ) (texts : List String) (text : String) :
    encoder.yields state (texts ++ [text]) =
      encoder.yields state texts ++
        [(encoder.answer text (encoder.stateAfter state texts)).1.data] := by
  induction texts generalizing state with
  | nil => rfl
  | cons first texts ih => simp [yields, stateAfter, ih]

def constant (data : List UInt8) : Encoder Unit where
  answer _ state := (.accepted data [], state)

/-- A failure that is the encoder's: it rejected a text, and only the context of its fault was
filled in since, or it broke down. -/
inductive Fails (encoder : Encoder σ) : Failure → Prop where
  | rejected {text : String} {state : σ} {fault told : Fault}
      (answer : (encoder.answer text state).1 = .rejected fault)
      (same : told.cause = fault.cause) : Fails encoder (.fault told)
  | crashed {text : String} {state : σ} {breakdown : Breakdown}
      (answer : (encoder.answer text state).1 = .crashed breakdown) :
      Fails encoder (.crash breakdown)

end Encoder

variable {σ : Type}

/-- Between the two benches exactly these texts were handed to the encoder. -/
structure Handed (encoder : Encoder σ) (before later : Bench σ) (texts : List String) : Prop where
  calls : later.calls = before.calls ++ texts
  state : later.state = encoder.stateAfter before.state texts

theorem Handed.refl (encoder : Encoder σ) (bench : Bench σ) : Handed encoder bench bench [] where
  calls := (List.append_nil _).symm
  state := rfl

theorem Handed.trans {encoder : Encoder σ} {before middle later : Bench σ}
    {first second : List String} (one : Handed encoder before middle first)
    (two : Handed encoder middle later second) : Handed encoder before later (first ++ second) where
  calls := by rw [two.calls, one.calls, List.append_assoc]
  state := by rw [two.state, one.state, Encoder.stateAfter, Encoder.stateAfter,
    Encoder.stateAfter, List.foldl_append]

/-- Notes in the journal are no texts for the encoder. -/
theorem Handed.note {encoder : Encoder σ} {before later : Bench σ} {texts : List String}
    (handed : Handed encoder before later texts) (level : Level) (text : String) :
    Handed encoder before (later.note level text) texts where
  calls := handed.calls
  state := handed.state

theorem Fault.amended_of_encoding {fault : Fault} (encoding : fault.cause.kind = .encoding)
    (amend : Fault → Fault) : fault.amended amend = amend fault :=
  if_pos encoding

theorem Fault.cause_amended {amend : Fault → Fault}
    (keeps : ∀ fault, (amend fault).cause = fault.cause) (fault : Fault) :
    (fault.amended amend).cause = fault.cause := by
  unfold amended
  split
  · exact keeps fault
  · rfl

/-- What the bench looks like when a text was handed over. -/
theorem Encoder.run_encode (encoder : Encoder σ) (amend : Fault → Fault) (text : String)
    (bench : Bench σ) :
    (encoder.encode amend text).run bench =
      (match (encoder.answer text bench.state).1 with
      | .accepted data remarks =>
          (.ok data,
            { state := (encoder.answer text bench.state).2
              calls := bench.calls ++ [text]
              journal := bench.journal ++ remarks })
      | .rejected fault =>
          (.error (.fault (fault.amended amend)),
            { bench with
              state := (encoder.answer text bench.state).2, calls := bench.calls ++ [text] })
      | .crashed breakdown =>
          (.error (.crash breakdown),
            { bench with
              state := (encoder.answer text bench.state).2, calls := bench.calls ++ [text] })) :=
  rfl

/-- All that encoding a text can come to. -/
theorem Work.ends_encode {encoder : Encoder σ} {amend : Fault → Fault} {text : String}
    {bench : Bench σ} {good : List UInt8 → Bench σ → Prop} {bad : Failure → Bench σ → Prop}
    (keeps : ∀ fault, (amend fault).cause = fault.cause)
    (accepts : ∀ data remarks later, (encoder.answer text bench.state).1 = .accepted data remarks →
      Handed encoder bench later [text] → good data later)
    (fails : ∀ failure later, encoder.Fails failure →
      (∀ data remarks, (encoder.answer text bench.state).1 ≠ .accepted data remarks) →
      bad failure later) :
    (encoder.encode amend text).Ends bench good bad := by
  unfold ExceptT.Ends
  rw [Encoder.run_encode]
  cases answer : (encoder.answer text bench.state).1 with
  | accepted data remarks => exact accepts data remarks _ answer ⟨rfl, rfl⟩
  | rejected fault =>
      exact fails _ _ (.rejected answer (Fault.cause_amended keeps fault)) (by simp [answer])
  | crashed breakdown => exact fails _ _ (.crashed answer) (by simp [answer])

end OverlayPatch
