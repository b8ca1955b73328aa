import OverlayPatch.Proofs.Bodies
import OverlayPatch.Proofs.Interleaving
import OverlayPatch.Proofs.Rejections

/-!
# Whom a rejection is ascribed to

An encoder does not know what a text is for. Where it rejects one, the stage at hand fills in the
module, the mode and the address, and for a variable its name. The name may come in by two ways: a
text handed over for a variable begins with it, so the first line of the text tells the name
(`HandedFor.begins`, `firstLine?_of_dark`), and where the encoder does not quote the text the hint
says whose it is.

`assembleSource_rejected` follows a rejection through all stages. The fault names the module; it
leads to the variable, replacement or hook whose own text was rejected, with everything of which
the turn was earlier accepted before; and its text shows what was filled in.
-/

namespace OverlayPatch

set_option autoImplicit false

variable {σ : Type} {encoder : Encoder σ}

/-! ## First lines -/

namespace Text

theorem isBlank_of_isBreak {c : Char} (breaks : isBreak c = true) : isBlank c = true := by
  simp only [isBreak, Bool.or_eq_true, decide_eq_true_eq, beq_iff_eq] at breaks
  simp only [isBlank, Bool.or_eq_true, decide_eq_true_eq, beq_iff_eq]
  omega

/-- What has no break in it stands on the first line as a whole. -/
theorem splitBreaks_append {front : List Char} (unbroken : ∀ c ∈ front, isBreak c = false)
    (filled : front ≠ []) (rest : List Char) :
    ∃ more lines, splitBreaks (front ++ rest) = (front ++ more) :: lines := by
  induction front with
  | nil => exact absurd rfl filled
  | cons c front ih =>
      have whole : isBreak c = false := unbroken c List.mem_cons_self
      have step : splitBreaks (c :: (front ++ rest)) =
          consLine c (splitBreaks (front ++ rest)) := by
        rw [splitBreaks, if_neg (by simp [whole])]
        rintro cs rfl
        simp [isBreak] at whole
      rw [List.cons_append, step]
      cases front with
      | nil =>
          cases splitBreaks ([] ++ rest) with
          | nil => exact ⟨[], [], rfl⟩
          | cons line lines => exact ⟨line, lines, rfl⟩
      | cons d front =>
          obtain ⟨more, lines, same⟩ := ih
            (fun c member => unbroken c (List.mem_cons_of_mem _ member)) (List.cons_ne_nil _ _)
          rw [same]
          exact ⟨more, lines, rfl⟩

end Text

open Text in
/-- A word that a text begins with is at the start of its first line. -/
theorem Fault.firstLine?_of_dark {text : String} {front rest : List Char}
    (begins : text.toList = front ++ rest) (dark : ∀ c ∈ front, isBlank c = false)
    (filled : front ≠ []) : ∃ more, firstLine? text = some (String.ofList (front ++ more)) := by
  have trimmed : trim text.toList = front ++ trimEnd rest := by
    have blanks : Blanks [] := fun _ member => absurd member List.not_mem_nil
    rw [begins]
    exact trim_of_dark blanks dark filled rest
  have unbroken : ∀ c ∈ front, isBreak c = false := by
    intro c member
    by_contra breaks
    have blank := isBlank_of_isBreak (by simpa using breaks)
    rw [dark c member] at blank
    cases blank
  obtain ⟨more, lines, same⟩ := splitBreaks_append unbroken filled (trimEnd rest)
  exact ⟨more, by rw [firstLine?, trimmed, same]; rfl⟩

/-! ## Names in front -/

namespace Declaration

open Text

/-- The name is a word, and the text begins with it. -/
structure Labelled (declaration : Declaration) : Prop where
  filled : declaration.name.toList ≠ []
  worded : ∀ c ∈ declaration.name.toList, isWord c = true
  begins : ∃ rest, declaration.text.toList = declaration.name.toList ++ rest

theorem Declares.labelled {line : List Char} {declaration : Declaration}
    (declares : Declares line declaration) : declaration.Labelled := by
  obtain ⟨filled, worded, rest, same⟩ := nameOf?_eq_some.mp (named_iff.mp declares.named)
  exact ⟨filled, worded, ':' :: rest, declares.text.trans same⟩

/-- The line of every declared variable begins with its name. -/
theorem collect_labelled {origin : String} {directives : List Directive}
    {declarations : List Declaration} (read : collect origin directives = .ok declarations) :
    ∀ declaration ∈ declarations, declaration.Labelled := by
  obtain ⟨blocks, found, rfl⟩ := map_ok read
  intro declaration member
  obtain ⟨block, blockMember, inside⟩ := List.mem_flatten.mp member
  obtain ⟨directive, -, body⟩ := exists_of_forall₂ (forall₂_of_mapM_ok found) blockMember
  obtain ⟨line, -, declares⟩ := exists_of_forall₂ (forall₂_declares body) inside
  exact declares.labelled

end Declaration

namespace Allocation

open Declaration

/-- Replacing references leaves the name in front alone, as no bracket is part of a word. -/
theorem HandedFor.begins {start : Int} {allocation : Allocation} {declaration : Declaration}
    {text : String} (handed : HandedFor start allocation declaration text)
    (labelled : declaration.Labelled) : ∃ rest, text.toList = declaration.name.toList ++ rest := by
  cases handed with
  | direct _ => exact labelled.begins
  | @referring lead parts digits _ splits _ =>
      obtain ⟨rest, begins⟩ := labelled.begins
      have front : ∃ more, lead = declaration.name.toList ++ more := by
        rcases List.append_eq_append_iff.mp (begins.symm.trans splits.written) with
          ⟨more, same, -⟩ | ⟨more, same, tail⟩
        · exact ⟨more, same⟩
        · cases more with
          | nil => exact ⟨[], by simpa using same.symm⟩
          | cons c more =>
              obtain rfl := head_parts parts c (more ++ rest) tail
              have wrong := labelled.worded '[' (by simp [same])
              rw [isWord_open] at wrong
              cases wrong
      obtain ⟨more, rfl⟩ := front
      exact ⟨_, by rw [writeParts, String.toList_ofList, List.append_assoc]⟩

end Allocation

/-! ## What the fault says -/

theorem Mode.name_ne (mode : Mode) : mode.name ≠ "" := by
  cases mode <;> decide

theorem Mode.append_name : Mode.append.name = "append" := by
  decide

theorem Directive.exists_address {directive : Directive} (placed : directive.mode ≠ .append) :
    ∃ point, directive.address? = some point := by
  unfold mode at placed
  unfold address?
  cases site : directive.site with
  | append => exact absurd (by rw [site]; rfl) placed
  | hook point => exact ⟨point, rfl⟩
  | repl point => exact ⟨point, rfl⟩

/-- Where the encoder rejects a text, it says why in its own words, and besides it quotes the text
or nothing. It knows of no module, mode or address. -/
def Encoder.Terse (encoder : Encoder σ) : Prop :=
  ∀ text state raw, (encoder.answer text state).1 = .rejected raw →
    ∃ message source, raw = Fault.rejection message source ∧ (source = none ∨ source = some text)

namespace Fault

def hintLine (hint : Option String) : String :=
  (shown? hint).elim "" ("\nhint: " ++ ·)

theorem shown?_of_ne {text : String} (filled : text ≠ "") : shown? (some text) = some text := by
  simp [shown?, filled]

/-- A fault with a module and a mode shows both, and the address where it is known. -/
theorem render_of_mode {fault : Fault} {name mode : String} (origin : fault.origin = some name)
    (named : name ≠ "") (moded : fault.mode = some mode) (filled : mode ≠ "") :
    fault.render = name ++ ": " ++
      (mode ++ fault.address.elim "" (" @ " ++ Number.address ·)) ++ ": error: " ++
      fault.cause.message ++ hintLine fault.hint := by
  have place : fault.place? " @ " =
      some (mode ++ fault.address.elim "" (" @ " ++ Number.address ·)) := by
    unfold place?
    rw [moded, shown?_of_ne filled]
    cases fault.address with
    | none => simp
    | some point => simp [String.append_assoc]
  unfold render hintLine
  rw [origin, shown?_of_ne named, place]
  cases shown? fault.hint with
  | none => simp [String.join, String.append_assoc]
  | some hint => simp [String.join, String.append_assoc]

/-- The fault leads to a variable of a module: it shows the module, the mode of its declaration,
the message, and on the line of the hint the variable's name. -/
structure TellsVariable (name message : String) (declaration : Declaration) (fault : Fault) :
    Prop where
  mode : fault.mode = some "append"
  address : fault.address = none
  text : ∃ hint, fault.hint = some hint ∧ declaration.name.toList <:+: hint.toList ∧
    fault.render = name ++ ": " ++ "append" ++ ": error: " ++ message ++ "\nhint: " ++ hint

/-- The fault leads to a replacement or hook of a module: it shows the module, the mode and the
address of the directive, the message, and the hint if there is one. -/
structure TellsRoutine (name message : String) (directive : Directive) (fault : Fault) : Prop where
  mode : fault.mode = some directive.mode.name
  address : fault.address = directive.address?
  text : ∃ point, directive.address? = some point ∧
    fault.render = name ++ ": " ++ directive.mode.name ++ " @ " ++ Number.address point ++
      ": error: " ++ message ++ hintLine fault.hint

/-- Whether or not the encoder quotes the text of a variable, the hint holds the variable's name. -/
theorem forVariable_rejection (origin : Option String) (name message : String)
    {source : Option String} {text : String} (quoted : source = none ∨ source = some text)
    (begins : ∃ more, firstLine? text = some (String.ofList (name.toList ++ more))) :
    ∃ hint, (rejection message source).forVariable origin name =
        { cause := .rejected message, origin, mode := some Mode.append.name, hint := some hint } ∧
      name.toList <:+: hint.toList ∧ hint ≠ "" := by
  rcases quoted with rfl | rfl
  · exact ⟨"while encoding variable '" ++ name ++ "'", rfl,
      ⟨"while encoding variable '".toList, ['\''], by simp⟩, by simp⟩
  · obtain ⟨more, first⟩ := begins
    have quotes : shown? ((some text).bind firstLine? |>.map ("while encoding: " ++ ·)) =
        some ("while encoding: " ++ String.ofList (name.toList ++ more)) := by
      rw [Option.bind_some, first]
      exact shown?_of_ne (by simp)
    refine ⟨"while encoding: " ++ String.ofList (name.toList ++ more), ?_,
      ⟨"while encoding: ".toList, more, by simp⟩, by simp⟩
    simp only [forVariable, rejection, withHint, within, quotes]
    rfl

/-- A rejection in the text of a variable has the variable's name on the line of its hint. -/
theorem tellsVariable {name : String} (named : name ≠ "") (message : String)
    {declaration : Declaration} {source : Option String} {text : String}
    (quoted : source = none ∨ source = some text)
    (begins : ∃ more, firstLine? text =
      some (String.ofList (declaration.name.toList ++ more))) :
    ((rejection message source).forVariable (some name) declaration.name).TellsVariable name message
      declaration := by
  obtain ⟨hint, same, inside, filled⟩ :=
    forVariable_rejection (some name) declaration.name message quoted begins
  rw [same]
  refine ⟨congrArg some Mode.append_name, rfl, hint, rfl, inside, ?_⟩
  refine (render_of_mode rfl named rfl (Mode.name_ne .append)).trans ?_
  show name ++ ": " ++ (Mode.append.name ++ "") ++ ": error: " ++ message ++
    hintLine (some hint) = _
  rw [hintLine, shown?_of_ne filled, Option.elim_some, String.append_empty, Mode.append_name,
    ← String.append_assoc]

/-- A rejection in a replacement or hook leads there by mode and address. -/
theorem tellsRoutine {name : String} (named : name ≠ "") (message : String)
    (source : Option String) {directive : Directive} (placed : directive.mode ≠ .append) :
    ((rejection message source).within (directive.context (some name))).TellsRoutine name message
      directive := by
  obtain ⟨point, address⟩ := directive.exists_address placed
  refine ⟨rfl, rfl, point, address, ?_⟩
  refine (render_of_mode rfl named rfl (Mode.name_ne directive.mode)).trans ?_
  have known : ((rejection message source).within (directive.context (some name))).address =
      some point := address
  rw [known, Option.elim_some]
  show name ++ ": " ++ (directive.mode.name ++ (" @ " ++ Number.address point)) ++ ": error: " ++
    message ++ hintLine (rejection message source).hint = _
  simp only [String.append_assoc]
  rfl

end Fault

/-! ## Whole modules -/

namespace Routine

/-- It is the turn of a directive: its body is the text, or it is a hook and its branch is the text.
Since the variables were placed the texts `taken` were handed over: the bodies of the directives
before it, or all bodies and the branches of the hooks before it. -/
inductive Turn (encoder : Encoder σ) (arch : Architecture) (allocation : Allocation)
    (origin : Option String) (state : σ) (directives : List Directive) (directive : Directive) :
    List String → String → Prop where
  | body {done : List Routine} {text : String}
      (turn : BodyTurn arch allocation.vars origin directives directive done text) :
      Turn encoder arch allocation origin state directives directive (done.map (·.source)) text
  | branch {before after : List Directive} {done rest : List Routine} {hook : Routine}
      {sources branches : List String} {text : String}
      (there : directives = before ++ directive :: after)
      (earlier : List.Forall₂ (Made arch allocation.vars origin) before done)
      (own : Made arch allocation.vars origin directive hook)
      (others : List.Forall₂ (Made arch allocation.vars origin) after rest)
      (bodies : sources = (done ++ hook :: rest).map (·.source))
      (code : (done ++ hook :: rest).map (·.data) = encoder.yields state sources)
      (turn : BranchTurn encoder arch allocation.cursor (encoder.stateAfter state sources) done hook
        branches text) :
      Turn encoder arch allocation origin state directives directive (sources ++ branches) text

theorem Turn.mem {arch : Architecture} {allocation : Allocation} {origin : Option String}
    {state : σ} {directives : List Directive} {directive : Directive} {taken : List String}
    {text : String}
    (turn : Turn encoder arch allocation origin state directives directive taken text) :
    directive ∈ directives := by
  cases turn with
  | body turn =>
      obtain ⟨before, after, rfl, -⟩ := turn.there
      simp
  | branch there =>
      subst there
      simp

/-- The routine of a hook and its directive are one. -/
theorem split_made {arch : Architecture} {vars : List Variable} {origin : Option String}
    {directives : List Directive} {done rest : List Routine} {hook : Routine}
    (made : List.Forall₂ (Made arch vars origin) directives (done ++ hook :: rest)) :
    ∃ before directive after, directives = before ++ directive :: after ∧
      List.Forall₂ (Made arch vars origin) before done ∧ Made arch vars origin directive hook ∧
      List.Forall₂ (Made arch vars origin) after rest := by
  have earlier := List.forall₂_take_append _ _ _ made
  have behind := List.forall₂_drop_append _ _ _ made
  generalize back : directives.drop done.length = dropped at behind
  cases behind with
  | @cons directive _ after _ own others =>
      refine ⟨_, directive, after, ?_, earlier, own, others⟩
      rw [← back, List.take_append_drop]

end Routine

/-- A text was rejected when it was the turn of a replacement or hook: the variables have been
placed, each with a text that was accepted. -/
def RoutineRejected (encoder : Encoder σ) (arch : Architecture) (origin : Option String)
    (start : Int) (directives : List Directive) (declarations : List Declaration) (bench : Bench σ)
    (fault : Fault) (later : Bench σ) : Prop :=
  ∃ allocation texts directive taken text raw,
    (∃ placed, (Allocation.ofDeclarations encoder origin start declarations).run bench =
      (.ok allocation, placed)) ∧
    List.Forall₂ (Allocation.HandedFor start allocation) (Declaration.placingOrder declarations)
      texts ∧
    Routine.Turn encoder arch allocation origin (encoder.stateAfter bench.state texts)
      (directives.filter (·.mode ≠ .append)) directive taken text ∧
    RejectedLast encoder bench later (texts ++ taken) text raw ∧
    fault = raw.within (directive.context origin)

/-- A fault of encoding arises with a variable or with a replacement or hook, whose turn it was. -/
theorem assembleWith_rejects (encoder : Encoder σ) (settings : Settings) (arch : Architecture)
    (name text : String) (start : Int) (bench : Bench σ) :
    (assembleWith encoder settings arch name text start).Ends bench (fun _ _ => True)
      (OnEncoding fun fault later => ∃ directives declarations,
        Reads name text directives declarations ∧
        (Allocation.VariableRejected encoder (some name) start declarations bench fault later ∨
          RoutineRejected encoder arch (some name) start directives declarations bench fault
            later)) := by
  unfold assembleWith
  apply ExceptT.ends_bind
  refine Work.ends_ofReading (fun directives read => ?_) fun fault failed =>
    onEncoding_of_kind .source (Directive.readAll_fault failed).1 (by decide)
  apply ExceptT.ends_bind
  refine Work.ends_ofReading (fun declarations collected => ?_) fun fault failed =>
    onEncoding_of_kind .source (Declaration.collect_fault failed).1 (by decide)
  have reads : Reads name text directives declarations := ⟨read, collected⟩
  apply ExceptT.ends_bind
  have placing := Allocation.ofDeclarations_rejects encoder (some name) start
    (Declaration.collect_faithful collected) bench
  refine ((ExceptT.ends_run _ bench).and placing).mono ?_ fun failure later rejects =>
    rejects.2.mono fun fault here => ⟨directives, declarations, reads, .inl here⟩
  rintro allocation placed ⟨ran, texts, accepted, each⟩
  apply ExceptT.ends_bind
  refine (Routine.assembleEach_rejects encoder arch allocation.vars (some name) settings.strict _
    placed).mono ?_ ?_
  · rintro routines assembled ⟨made, encoded⟩
    apply ExceptT.ends_bind
    refine (Routine.linkAll_rejects encoder arch (some name) allocation.cursor routines
      assembled).mono ?_ ?_
    · intro linked later _
      apply ExceptT.ends_bind
      refine Work.ends_ofExcept_of_kind (Patch.build_faultless _ _ _ _) fun patch _ => ?_
      apply ExceptT.ends_bind
      apply Work.ends_note
      exact ExceptT.ends_pure trivial
    · intro failure later rejects
      refine rejects.mono ?_
      rintro fault ⟨done, hook, rest, branches, branch, raw, rfl, turn, last, same⟩
      obtain ⟨before, directive, after, there, earlier, own, others⟩ := Routine.split_made made
      have state : placed.state = encoder.stateAfter bench.state texts := accepted.state
      have turn' : Routine.Turn encoder arch allocation (some name) placed.state
          (directives.filter (·.mode ≠ .append)) directive _ branch :=
        .branch there earlier own others rfl encoded.code (encoded.accepted.state ▸ turn)
      have context : directive.context (some name) =
          { origin := some name, mode := some hook.mode.name
            address := some hook.insertionPoint } := by
        rw [Directive.context, own.site.1, own.site.2]
      refine ⟨directives, declarations, reads, .inr ⟨allocation, texts, directive, _, branch, raw,
        ⟨placed, ran⟩, each, state ▸ turn', ?_, by rw [context]; exact same⟩⟩
      exact accepted.rejected (encoded.accepted.rejected last)
  · intro failure later rejects
    refine rejects.mono ?_
    rintro fault ⟨directive, done, body, raw, turn, last, same⟩
    exact ⟨directives, declarations, reads, .inr ⟨allocation, texts, directive, _, body, raw,
      ⟨placed, ran⟩, each, .body turn, accepted.rejected last, same⟩⟩

theorem assembleSource_rejects (encoder : Encoder σ) (settings : Settings)
    (arch : Option Architecture) (name text : String) (start : Int) (bench : Bench σ) :
    (assembleSource encoder settings arch name text start).Ends bench (fun _ _ => True)
      (OnEncoding fun fault later => ∃ target directives declarations,
        settings.target arch = .ok target ∧ Reads name text directives declarations ∧
        (Allocation.VariableRejected encoder (some name) start declarations bench fault later ∨
          RoutineRejected encoder target (some name) start directives declarations bench fault
            later)) := by
  have known : OnlyErrors (Failure.IfFault fun fault => fault.cause.kind ≠ .encoding)
      (settings.target arch) := by
    unfold Settings.target
    cases arch with
    | some target => exact onlyErrors_ok target
    | none =>
        unfold Option.elim Architecture.ofName
        dsimp only
        split
        · exact onlyErrors_ok _
        · exact onlyErrors_other fun _ same => nomatch same
  rw [assembleSource_eq]
  apply ExceptT.ends_bind
  refine Work.ends_ofExcept_of_kind known fun target chosen => ?_
  apply ExceptT.ends_bind
  refine (assembleWith_rejects encoder settings target name text start bench).mono
    (fun _ _ _ => ExceptT.ends_pure trivial) fun failure later rejects => rejects.mono ?_
  rintro fault ⟨directives, declarations, reads, whose⟩
  exact ⟨target, directives, declarations, chosen, reads, whose⟩

/-- At the turn of a variable the first line of its text begins with its name. -/
theorem Allocation.VariableTurn.firstLine {name text : String} {directives : List Directive}
    {declarations : List Declaration} {start : Int} {declaration : Declaration}
    {taken : List String} {rejected : String}
    (turn : VariableTurn start declarations declaration taken rejected)
    (reads : Reads name text directives declarations) :
    ∃ more, Fault.firstLine? rejected =
      some (String.ofList (declaration.name.toList ++ more)) := by
  obtain ⟨before, after, allocation, order, -, own⟩ := turn.there
  have listed : declaration ∈ declarations := by
    have member : declaration ∈ Declaration.placingOrder declarations := by simp [order]
    rcases List.mem_append.mp member with direct | referring
    · exact List.mem_of_mem_filter direct
    · exact List.mem_of_mem_filter referring
  have labelled := Declaration.collect_labelled reads.collected declaration listed
  obtain ⟨rest, begins⟩ := own.begins labelled
  exact Fault.firstLine?_of_dark begins (Declaration.dark_of_word labelled.worded) labelled.filled

/-- Assembling a module may fail with a fault of encoding where an encoder that is terse rejects a
text. Then all texts before it were accepted, the fault names the module, and one of two holds.
Either the text was that of a variable, whose turn it was in the order of placing, and the fault
leads to that variable. Or all variables have been placed, the text was the body or the branch of a
replacement or hook whose turn it was, with all bodies before it accepted, and the fault leads to
that directive. -/
theorem assembleSource_rejected (terse : encoder.Terse) (settings : Settings)
    (arch : Option Architecture) {name : String} (named : name ≠ "") (text : String) (start : Int)
    {bench later : Bench σ} {fault : Fault}
    (ran : (assembleSource encoder settings arch name text start).run bench =
      (.error (.fault fault), later)) (encoding : fault.cause.kind = .encoding) :
    ∃ target directives declarations taken rejected message source,
      settings.target arch = .ok target ∧ Reads name text directives declarations ∧
      RejectedLast encoder bench later taken rejected (.rejection message source) ∧
      fault.cause = .rejected message ∧ fault.origin = some name ∧
      ((∃ declaration,
          Allocation.VariableTurn start declarations declaration taken rejected ∧
          fault.TellsVariable name message declaration) ∨
        ∃ directive allocation texts sources,
          directive ∈ directives ∧ directive.mode ≠ .append ∧
          fault.TellsRoutine name message directive ∧ taken = texts ++ sources ∧
          (∃ placed, (Allocation.ofDeclarations encoder (some name) start declarations).run bench =
            (.ok allocation, placed)) ∧
          List.Forall₂ (Allocation.HandedFor start allocation)
            (Declaration.placingOrder declarations) texts ∧
          Routine.Turn encoder target allocation (some name)
            (encoder.stateAfter bench.state texts) (directives.filter (·.mode ≠ .append)) directive
            sources rejected) := by
  obtain ⟨target, directives, declarations, chosen, reads, whose⟩ :=
    (assembleSource_rejects encoder settings arch name text start bench).of_error ran fault rfl
      encoding
  rcases whose with ⟨declaration, taken, rejected, raw, turn, last, rfl⟩ |
    ⟨allocation, texts, directive, sources, rejected, raw, allocated, each, turn, last, rfl⟩
  · obtain ⟨message, source, rfl, quoted⟩ := terse _ _ _ last.answer
    exact ⟨target, directives, declarations, taken, rejected, message, source, chosen, reads, last,
      rfl, rfl, .inl ⟨declaration, turn,
        Fault.tellsVariable named message quoted (turn.firstLine reads)⟩⟩
  · obtain ⟨message, source, rfl, -⟩ := terse _ _ _ last.answer
    obtain ⟨member, placed⟩ := List.mem_filter.mp turn.mem
    have placed : directive.mode ≠ .append := by simpa using placed
    exact ⟨target, directives, declarations, _, rejected, message, source, chosen, reads, last,
      rfl, rfl, .inr ⟨directive, allocation, texts, sources, member, placed,
        Fault.tellsRoutine named message source placed, rfl, allocated, each, turn⟩⟩

/-- An encoder that accepts as many texts as its state says, and quotes the one it rejects. -/
def Encoder.tiring : Encoder Nat where
  answer text
    | 0 => (.rejected (Fault.rejection "too tired" (some text)), 0)
    | left + 1 => (.accepted [1, 2, 3, 4] [], left)

theorem Encoder.terse_tiring : tiring.Terse := by
  intro text state raw rejected
  cases state with
  | zero =>
      cases rejected
      exact ⟨"too tired", some text, rfl, .inr rfl⟩
  | succ left => cases rejected

/-- A module of three variables, a replacement and a hook, with so many texts accepted. -/
def tiredRun (texts : Nat) : Except Failure Patch × Bench Nat :=
  (assembleSource .tiring {} none "menu" gathered 100).run { state := texts }

/-- What is told of the third text, that of an alias. -/
def tiredOfAlias : Fault :=
  { cause := .rejected "too tired", origin := some "menu", mode := some "append"
    hint := some "while encoding: b: 0x00000064" }

/-- What is told of the sixth text, the branch of the hook. -/
def tiredOfBranch : Fault :=
  { cause := .rejected "too tired", origin := some "menu", mode := some "hook"
    address := some 0x020C7710, hint := some "while encoding: bl 0xFDF38960" }

/-- One encoder that tires at the alias, and one that tires at the branch of the hook. -/
theorem assembleSource_rejected_tired :
    ((tiredRun 2).1 = .error (.fault tiredOfAlias) ∧
      ∃ directives declarations declaration taken, Reads "menu" gathered directives declarations ∧
        Allocation.VariableTurn 100 declarations declaration taken "b: 0x00000064" ∧
        tiredOfAlias.render =
          "menu: append: error: too tired\nhint: while encoding: b: 0x00000064") ∧
    (tiredRun 5).1 = .error (.fault tiredOfBranch) ∧
      ∃ directives declarations directive, Reads "menu" gathered directives declarations ∧
        directive ∈ directives ∧ directive.address? = some 0x020C7710 ∧
        tiredOfBranch.render =
          "menu: hook @ 0x020C7710: error: too tired\nhint: while encoding: bl 0xFDF38960" := by
  have atAlias : (tiredRun 2).1 = .error (.fault tiredOfAlias) := by decide +kernel
  have atBranch : (tiredRun 5).1 = .error (.fault tiredOfBranch) := by decide +kernel
  have third : (tiredRun 2).2.calls = ["a: 7", "c: 9"] ++ ["b: 0x00000064"] := by decide +kernel
  have ran := (Prod.eta (tiredRun 2)).symm
  have ran' := (Prod.eta (tiredRun 5)).symm
  rw [atAlias] at ran
  rw [atBranch] at ran'
  have rejected := assembleSource_rejected Encoder.terse_tiring {} none (by decide) gathered 100
    ran rfl
  have rejected' := assembleSource_rejected Encoder.terse_tiring {} none (by decide) gathered 100
    ran' rfl
  refine ⟨⟨atAlias, ?_⟩, atBranch, ?_⟩
  · obtain ⟨_, directives, declarations, taken, text, _, _, _, reads, last, _, _,
      ⟨declaration, turn, tells⟩ | ⟨_, _, _, _, _, _, tells, _⟩⟩ := rejected
    · have calls : taken ++ [text] = ["a: 7", "c: 9"] ++ ["b: 0x00000064"] :=
        last.calls.symm.trans third
      obtain ⟨-, same⟩ := List.append_inj' calls rfl
      obtain rfl : text = "b: 0x00000064" := List.singleton_inj.mp same
      exact ⟨directives, declarations, declaration, taken, reads, turn, by decide +kernel⟩
    · obtain ⟨point, address, -⟩ := tells.text
      rw [← tells.address] at address
      cases address
  · obtain ⟨_, directives, declarations, _, _, _, _, _, reads, _, _, _,
      ⟨_, _, tells⟩ | ⟨directive, _, _, _, member, _, tells, _⟩⟩ := rejected'
    · exact absurd tells.mode (by decide)
    · exact ⟨directives, declarations, directive, reads, member, tells.address.symm,
        by decide +kernel⟩

end OverlayPatch
