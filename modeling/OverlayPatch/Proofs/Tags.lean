import OverlayPatch.Document
import OverlayPatch.Proofs.Reading

/-!
# Tags and text, written and read

`tagChars` and `endTagChars` are the tags of a written document, with their attributes as pairs
of a name and a value. They are read as the tokens they stand for, whatever comes behind them;
so are the characters of text (`isText`).
-/

namespace OverlayPatch.Markup

set_option autoImplicit false

open Document

variable {alphabet : Alphabet}

/-! ## Characters that names do not start with -/

theorem ne_of_isNameStart {c d : Char} (start : isNameStart c) (other : isNameStart d = false) :
    c ≠ d := by
  rintro rfl
  rw [start] at other
  contradiction

theorem isSpace_of_isNameStart {c : Char} (start : isNameStart c) : isSpace c = false := by
  simp [isSpace, ne_of_isNameStart start (show isNameStart ' ' = false by decide),
    ne_of_isNameStart start (show isNameStart '\t' = false by decide),
    ne_of_isNameStart start (show isNameStart '\n' = false by decide),
    ne_of_isNameStart start (show isNameStart '\r' = false by decide)]

/-! ## Values -/

namespace Reader

/-- What a character of a value is written as is read as that character. -/
theorem valuePiece_escapeChar {c : Char} (legal : isLegal c) (rest : List Char) :
    valuePiece alphabet (escapeChar c ++ rest) = some (.char c, rest) := by
  unfold escapeChar
  split
  case h_8 amp lt gt quot cr lf tab =>
      -- White space is read as a space, and of it only the space is written as itself.
      rw [List.singleton_append, valuePiece, if_neg amp, if_neg lt]
      by_cases blank : c = ' '
      case pos => rw [blank]; rfl
      case neg =>
          have solid : isSpace c = false := by
            simp only [isSpace, Bool.or_eq_false_iff, beq_eq_false_iff_ne]
            exact ⟨⟨⟨blank, tab⟩, lf⟩, cr⟩
          rw [solid, if_neg Bool.false_ne_true, if_pos legal]
  all_goals cases alphabet <;> rfl

theorem escapeChar_head (c : Char) : ∃ d ds, escapeChar c = d :: ds ∧ d ≠ '"' := by
  unfold escapeChar
  split
  case h_8 quot _ _ _ => exact ⟨c, [], rfl, quot⟩
  all_goals exact ⟨_, _, rfl, by decide⟩

theorem spells_escapeChar {c : Char} (legal : isLegal c) :
    Spells (atChar '"') (valuePiece alphabet) (escapeChar c) [.char c] := by
  obtain ⟨d, ds, split, other⟩ := escapeChar_head c
  refine .one (by simp [split]) (fun rest => ?_) (valuePiece_escapeChar legal)
  rw [split]
  exact beq_false_of_ne other

def quoted (text : List Char) : List Char :=
  '"' :: text.flatMap escapeChar ++ ['"']

/-- A value in quotes is read back. -/
theorem value_quoted {text : List Char} (legal : ∀ c ∈ text, isLegal c) (rest : List Char) :
    value alphabet (quoted text ++ rest) = some (text.map .char, rest) := by
  have spells : Spells (atChar '"') (valuePiece alphabet) (text.flatMap escapeChar)
      (text.map .char) := .each fun c member => spells_escapeChar (legal c member)
  have opened : charOf (fun c => c == '"' || c == '\'') alphabet (quoted text ++ rest) =
      some ('"', text.flatMap escapeChar ++ ('"' :: rest)) := by
    simp [quoted, charOf]
  have inner : repeatUntil (atChar '"') valuePiece alphabet
      (text.flatMap escapeChar ++ ('"' :: rest)) = some (text.map .char, '"' :: rest) :=
    spells.repeatUntil rfl
  rw [value, bind_taken opened, bind_taken inner, bind_taken (word_one '"' rest)]
  rfl

/-! ## Tags -/

/-- A pair of an attribute's name and value that can be written. -/
def Writable (pair : String × String) : Prop :=
  isPlainName pair.1 ∧ ∀ c ∈ pair.2.toList, isLegal c

def attributeChars (pair : String × String) : List Char :=
  ' ' :: pair.1.toList ++ '=' :: quoted pair.2.toList

def attributeOf (pair : String × String) : Attribute :=
  { name := { base := pair.1 }, value := pair.2.toList.map .char }

/-- An attribute is read back. -/
theorem tagAttribute_attributeChars {pair : String × String} (writable : Writable pair)
    (rest : List Char) :
    tagAttribute alphabet (attributeChars pair ++ rest) = some (attributeOf pair, rest) := by
  obtain ⟨plain, legal⟩ := writable
  obtain ⟨c, cs, split, start, -⟩ := isPlainName_cases plain
  have before : gap1 alphabet (attributeChars pair ++ rest) =
      some ((), pair.1.toList ++ '=' :: (quoted pair.2.toList ++ rest)) := by
    simp only [attributeChars, split, List.cons_append, List.append_assoc]
    exact gap1_space (isSpace_of_isNameStart start) _
  have behind : gap alphabet (quoted pair.2.toList ++ rest) =
      some ((), quoted pair.2.toList ++ rest) := gap_stop rfl _
  rw [tagAttribute, bind_taken before, bind_taken (name_append plain rfl _),
    bind_taken (gap_stop rfl _), bind_taken (word_one '=' _), bind_taken behind,
    bind_taken (value_quoted legal rest)]
  rfl

theorem atTagEnd_attributeChars {pair : String × String} (plain : isPlainName pair.1)
    (rest : List Char) : atTagEnd (attributeChars pair ++ rest) = false := by
  obtain ⟨c, cs, split, start, -⟩ := isPlainName_cases plain
  have solid := isSpace_of_isNameStart start
  have close : '>' ≠ c := (ne_of_isNameStart start (by decide)).symm
  have slash : '/' ≠ c := (ne_of_isNameStart start (by decide)).symm
  simp [atTagEnd, attributeChars, split, startsWith, after?, close, slash, solid,
    show isSpace ' ' = true from rfl]

/-- The end of a start tag, `closed` if the element ends with it. -/
def tagEnd (closed : Bool) : List Char :=
  if closed then [' ', '/', '>'] else ['>']

def tagBody (key : String) (pairs : List (String × String)) (closed : Bool) : List Char :=
  key.toList ++ pairs.flatMap attributeChars ++ tagEnd closed

/-- What follows the name in a tag. -/
theorem exists_cons_of_pairs (pairs : List (String × String)) (closed : Bool) (rest : List Char) :
    ∃ c cs, pairs.flatMap attributeChars ++ (tagEnd closed ++ rest) = c :: cs ∧ endsName c := by
  cases pairs with
  | nil => cases closed <;> exact ⟨_, _, rfl, rfl⟩
  | cons pair pairs => exact ⟨' ', _, rfl, rfl⟩

/-- A start tag is read back with its attributes. -/
theorem startTag_tagBody {key : String} (plain : isPlainName key)
    {pairs : List (String × String)} (writable : ∀ pair ∈ pairs, Writable pair) (closed : Bool)
    (rest : List Char) :
    startTag alphabet (tagBody key pairs closed ++ rest) =
      some (.start { base := key } (pairs.map attributeOf) closed, rest) := by
  have named : name alphabet (tagBody key pairs closed ++ rest) =
      some ({ base := key }, pairs.flatMap attributeChars ++ (tagEnd closed ++ rest)) := by
    obtain ⟨c, cs, next, ends⟩ := exists_cons_of_pairs pairs closed rest
    rw [tagBody, List.append_assoc, List.append_assoc, next]
    exact name_append plain ends cs
  have each : Spells atTagEnd (tagAttribute alphabet) (pairs.flatMap attributeChars)
      (pairs.map attributeOf) :=
    .each fun pair member => .one (List.cons_ne_nil _ _)
      (atTagEnd_attributeChars (writable pair member).1)
      (tagAttribute_attributeChars (writable pair member))
  have inner : repeatUntil atTagEnd tagAttribute alphabet
      (pairs.flatMap attributeChars ++ (tagEnd closed ++ rest)) =
        some (pairs.map attributeOf, tagEnd closed ++ rest) :=
    each.repeatUntil (by cases closed <;> rfl)
  rw [startTag, bind_taken named, bind_taken inner]
  cases closed <;> rfl

theorem endTag_append {key : String} (plain : isPlainName key) (rest : List Char) :
    endTag alphabet (key.toList ++ '>' :: rest) = some (.finish { base := key }, rest) := by
  rw [endTag, bind_taken (name_append plain rfl rest), bind_taken (gap_stop rfl rest),
    bind_taken (word_one '>' rest)]
  rfl

/-! ## Tokens -/

/-- A character of text that is read as itself wherever it stands. -/
def isText (c : Char) : Bool :=
  isLegal c && c != '<' && c != '&' && c != ']' && c != '\r'

def tagChars (key : String) (pairs : List (String × String)) (closed : Bool) : List Char :=
  '<' :: tagBody key pairs closed

def endTagChars (key : String) : List Char :=
  '<' :: '/' :: key.toList ++ ['>']

theorem token_open {c : Char} (start : isNameStart c) (cs : List Char) :
    token alphabet ('<' :: c :: cs) = startTag alphabet (c :: cs) := by
  have slash : c ≠ '/' := ne_of_isNameStart start (by decide)
  have mark : c ≠ '?' := ne_of_isNameStart start (by decide)
  have bang : c ≠ '!' := ne_of_isNameStart start (by decide)
  have tag : after? sectionMark ('<' :: c :: cs) = none := by
    have lead : sectionMark = '<' :: '!' :: "[CDATA[".toList := by decide
    rw [lead, after?, if_pos rfl, after?, if_neg bang.symm]
  rw [token, bind_taken (get_apply _)]
  simp only [List.cons.injEq, slash, mark, bang, false_and, imp_self, implies_true, tag]
  rw [bind_taken (set_apply _ _)]

theorem token_tagChars {key : String} (plain : isPlainName key)
    {pairs : List (String × String)} (writable : ∀ pair ∈ pairs, Writable pair) (closed : Bool)
    (rest : List Char) :
    token alphabet (tagChars key pairs closed ++ rest) =
      some (.start { base := key } (pairs.map attributeOf) closed, rest) := by
  have tag : startTag alphabet (tagBody key pairs closed ++ rest) = _ :=
    startTag_tagBody plain writable closed rest
  obtain ⟨c, cs, split, start, -⟩ := isPlainName_cases plain
  simp only [tagChars, tagBody, split, List.cons_append] at tag ⊢
  rw [token_open start, tag]

theorem token_endTagChars {key : String} (plain : isPlainName key) (rest : List Char) :
    token alphabet (endTagChars key ++ rest) = some (.finish { base := key }, rest) := by
  rw [← endTag_append plain rest]
  simp only [endTagChars, List.cons_append, List.append_assoc]
  rfl

theorem token_isText {c : Char} (text : isText c) (rest : List Char) :
    token alphabet (c :: rest) = some (.char c, rest) := by
  obtain ⟨⟨⟨⟨legal, lt⟩, amp⟩, bracket⟩, -⟩ :
      (((isLegal c ∧ c ≠ '<') ∧ c ≠ '&') ∧ c ≠ ']') ∧ c ≠ '\r' := by
    simpa [isText] using text
  rw [token, bind_taken (get_apply _)]
  simp only [lt, bracket, legal, imp_false, IsEmpty.forall_iff, implies_true]
  rfl

/-! ## Line ends -/

theorem not_mem_of_isText {c : Char} (text : isText c) : '\r' ∉ [c] := by
  intro member
  rw [← List.mem_singleton.mp member] at text
  contradiction

theorem not_mem_of_isPlainName {key : String} (plain : isPlainName key) : '\r' ∉ key.toList := by
  obtain ⟨c, cs, split, start, others⟩ := isPlainName_cases plain
  rw [split]
  intro member
  cases member with
  | head => exact absurd start (by decide)
  | tail _ within => exact absurd (others _ within) (by decide)

theorem not_mem_escapeChar (c : Char) : '\r' ∉ escapeChar c := by
  unfold escapeChar
  split
  case h_8 cr _ _ => exact fun member => cr (List.mem_singleton.mp member).symm
  all_goals decide

theorem not_mem_attributeChars {pair : String × String} (plain : isPlainName pair.1) :
    '\r' ∉ attributeChars pair := by
  simp [attributeChars, quoted, not_mem_of_isPlainName plain, not_mem_escapeChar]

theorem not_mem_tagChars {key : String} (plain : isPlainName key)
    {pairs : List (String × String)} (writable : ∀ pair ∈ pairs, Writable pair) (closed : Bool) :
    '\r' ∉ tagChars key pairs closed := by
  have inner : '\r' ∉ pairs.flatMap attributeChars := by
    intro member
    obtain ⟨pair, within, here⟩ := List.mem_flatMap.mp member
    exact not_mem_attributeChars (writable pair within).1 here
  have last : '\r' ∉ tagEnd closed := by cases closed <;> decide
  simp [tagChars, tagBody, not_mem_of_isPlainName plain, inner, last]

theorem not_mem_endTagChars {key : String} (plain : isPlainName key) :
    '\r' ∉ endTagChars key := by
  simp [endTagChars, not_mem_of_isPlainName plain]

end Reader

end OverlayPatch.Markup
