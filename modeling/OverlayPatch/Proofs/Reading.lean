import OverlayPatch.Markup.Token
import Mathlib

/-!
# What readers take

Each reader is described by what it takes off a text whose rest is arbitrary, or begins with a
character at which the reader has to stop.

For the loop `repeatUntil` this is `Spells text pieces`: whatever is read behind `text`, with
`text` before it the loop reads `pieces` first. Texts that spell something can be put one after
the other (`Spells.append`), so a long text is dealt with part by part.
-/

namespace OverlayPatch.Markup.Reader

set_option autoImplicit false

variable {α β : Type} {alphabet : Alphabet}

/-- A reader goes on with what its first part has left. -/
theorem bind_taken {reader : Reader α} {cs rest : List Char} {a : α}
    (taken : reader alphabet cs = some (a, rest)) (next : α → Reader β) :
    (reader >>= next) alphabet cs = next a alphabet rest := by
  change Option.bind (reader alphabet cs) _ = _
  rw [taken]
  rfl

theorem get_apply (cs : List Char) : (get : Reader (List Char)) alphabet cs = some (cs, cs) :=
  rfl

theorem set_apply (rest cs : List Char) :
    (set rest : Reader PUnit) alphabet cs = some (⟨⟩, rest) :=
  rfl

theorem guard_apply {p : Prop} [Decidable p] (holds : p) (cs : List Char) :
    (guard p : Reader Unit) alphabet cs = some ((), cs) := by
  rw [guard, if_pos holds]
  rfl

/-! ## Words, white space and names -/

theorem after?_append (lead cs : List Char) : after? lead (lead ++ cs) = some cs := by
  induction lead with
  | nil => rfl
  | cons l lead ih => rw [List.cons_append, after?, if_pos rfl, ih]

theorem word_append (lead rest : List Char) :
    word lead alphabet (lead ++ rest) = some ((), rest) := by
  rw [word, after?_append]
  rfl

theorem word_one (c : Char) (rest : List Char) : word [c] alphabet (c :: rest) = some ((), rest) :=
  word_append [c] rest

theorem while_append {test : Char → Bool} {taken : List Char} (pass : ∀ c ∈ taken, test c)
    {c : Char} (stop : test c = false) (rest : List Char) :
    while_ test alphabet (taken ++ c :: rest) = some (taken, c :: rest) := by
  rw [while_, List.takeWhile_append_of_pos pass, List.dropWhile_append_of_pos pass,
    List.takeWhile_cons_of_neg (by simp [stop]), List.dropWhile_cons_of_neg (by simp [stop]),
    List.append_nil]

theorem while_stop {test : Char → Bool} {c : Char} (stop : test c = false) (rest : List Char) :
    while_ test alphabet (c :: rest) = some ([], c :: rest) :=
  while_append (List.forall_mem_nil _) stop rest

theorem gap_stop {c : Char} (stop : isSpace c = false) (rest : List Char) :
    gap alphabet (c :: rest) = some ((), c :: rest) := by
  rw [gap, bind_taken (while_stop stop rest)]
  rfl

/-- One space, and something else behind it. -/
theorem gap1_space {c : Char} (stop : isSpace c = false) (rest : List Char) :
    gap1 alphabet (' ' :: c :: rest) = some ((), c :: rest) := by
  have first : charOf isSpace alphabet (' ' :: c :: rest) = some (' ', c :: rest) := rfl
  have one : many1 isSpace alphabet (' ' :: c :: rest) = some ([' '], c :: rest) := by
    rw [many1, bind_taken first, bind_taken (while_stop stop rest)]
    rfl
  rw [gap1, bind_taken one]
  rfl

def isPlainName (key : String) : Bool :=
  match key.toList with
  | [] => false
  | c :: cs => isNameStart c && cs.all isNameChar

theorem isPlainName_cases {key : String} (plain : isPlainName key) :
    ∃ c cs, key.toList = c :: cs ∧ isNameStart c ∧ ∀ d ∈ cs, isNameChar d := by
  unfold isPlainName at plain
  split at plain
  case h_1 => contradiction
  case h_2 c cs split => exact ⟨c, cs, split, by simpa using plain⟩

/-- The characters behind a name in a tag that is written without needless white space. -/
def endsName (c : Char) : Bool :=
  c == '=' || c == ' ' || c == '>'

theorem endsName_cases {c : Char} (ends : endsName c) : c = '=' ∨ c = ' ' ∨ c = '>' := by
  simpa [endsName, or_assoc] using ends

theorem isRest_of_endsName {c : Char} (ends : endsName c) : alphabet.isRest c = false := by
  obtain rfl | rfl | rfl := endsName_cases ends <;> cases alphabet <;> decide

theorem plainName_append {key : String} (plain : isPlainName key) {c : Char} (ends : endsName c)
    (rest : List Char) :
    plainName alphabet (key.toList ++ c :: rest) = some (key, c :: rest) := by
  obtain ⟨d, ds, split, first, others⟩ := isPlainName_cases plain
  have start : charOf alphabet.isStart alphabet (d :: (ds ++ c :: rest)) =
      some (d, ds ++ c :: rest) := by
    rw [charOf, if_pos (by simp [Alphabet.isStart, first])]
  have pass : ∀ e ∈ ds, alphabet.isRest e := by
    intro e member
    simp [Alphabet.isRest, others e member]
  rw [split, List.cons_append]
  -- The reader asks for its alphabet first, which takes nothing off the text.
  change (charOf alphabet.isStart >>= fun d => while_ alphabet.isRest >>= fun ds =>
    pure (String.ofList (d :: ds))) alphabet _ = _
  rw [bind_taken start, bind_taken (while_append pass (isRest_of_endsName ends) rest), ← split,
    String.ofList_toList]
  rfl

theorem name_append {key : String} (plain : isPlainName key) {c : Char} (ends : endsName c)
    (rest : List Char) :
    name alphabet (key.toList ++ c :: rest) = some ({ base := key }, c :: rest) := by
  rw [name, bind_taken (plainName_append plain ends rest)]
  obtain rfl | rfl | rfl := endsName_cases ends <;> rfl

/-! ## Repetition -/

section Repetition

variable (stop : List Char → Bool) (piece : List Char → Option (α × List Char))

/-- From `cs` on the loop reads `pieces` and leaves `left`. -/
def Runs (cs : List Char) (pieces : List α) (left : List Char) : Prop :=
  ∀ bound, cs.length ≤ bound.length → repeatWithin stop piece bound cs = some (pieces, left)

/-- Whatever the loop reads next, it reads `pieces` first if `text` stands before. -/
def Spells (text : List Char) (pieces : List α) : Prop :=
  ∀ rest more left, Runs stop piece rest more left →
    Runs stop piece (text ++ rest) (pieces ++ more) left

variable {stop piece} {text text' : List Char} {pieces pieces' : List α}

theorem runs_stop {cs : List Char} (done : stop cs) : Runs stop piece cs [] cs := by
  intro bound _
  unfold repeatWithin
  exact if_pos done

theorem runs_step {cs rest left : List Char} {a : α} {more : List α} (goes : stop cs = false)
    (taken : piece cs = some (a, rest)) (shorter : rest.length < cs.length)
    (runs : Runs stop piece rest more left) : Runs stop piece cs (a :: more) left := by
  intro bound enough
  cases bound with
  | nil =>
      rw [List.length_nil] at enough
      omega
  | cons b bound =>
      rw [List.length_cons] at enough
      unfold repeatWithin
      simp only [goes, taken, runs bound (by omega), Bool.false_eq_true, if_false, Option.map_some]

theorem Spells.nil : Spells stop piece [] [] :=
  fun _ _ _ runs => runs

/-- Texts written one after the other are read one after the other. -/
theorem Spells.append (first : Spells stop piece text pieces)
    (second : Spells stop piece text' pieces') :
    Spells stop piece (text ++ text') (pieces ++ pieces') := by
  intro rest more left runs
  rw [List.append_assoc, List.append_assoc]
  exact first _ _ _ (second _ _ _ runs)

/-- A text that is one piece, whatever comes behind it. -/
theorem Spells.one {a : α} (nonempty : text ≠ []) (goes : ∀ rest, stop (text ++ rest) = false)
    (taken : ∀ rest, piece (text ++ rest) = some (a, rest)) : Spells stop piece text [a] := by
  intro rest more left runs
  have longer : 0 < text.length := List.length_pos_iff.mpr nonempty
  refine runs_step (goes rest) (taken rest) ?_ runs
  rw [List.length_append]
  omega

theorem Spells.each {ι : Type} {items : List ι} {write : ι → List Char} {read : ι → α}
    (one : ∀ item ∈ items, Spells stop piece (write item) [read item]) :
    Spells stop piece (items.flatMap write) (items.map read) := by
  induction items with
  | nil => exact .nil
  | cons item items ih =>
      rw [List.flatMap_cons, List.map_cons, ← List.singleton_append]
      exact (one item List.mem_cons_self).append
        (ih fun other member => one other (List.mem_cons_of_mem _ member))

end Repetition

theorem Runs.repeatUntil {stop : List Char → Bool} {piece : Reader α} {cs left : List Char}
    {pieces : List α} (runs : Runs stop (piece alphabet) cs pieces left) :
    Reader.repeatUntil stop piece alphabet cs = some (pieces, left) :=
  runs cs (Nat.le_refl _)

/-- The loop reads a text that spells pieces, if it stops behind it. -/
theorem Spells.repeatUntil {stop : List Char → Bool} {piece : Reader α} {text rest : List Char}
    {pieces : List α} (spells : Spells stop (piece alphabet) text pieces) (done : stop rest) :
    Reader.repeatUntil stop piece alphabet (text ++ rest) = some (pieces, rest) := by
  have runs := (spells rest [] rest (runs_stop done)).repeatUntil
  rwa [List.append_nil] at runs

end OverlayPatch.Markup.Reader
