import OverlayPatch.Markup.Element
import OverlayPatch.Proofs.Tags

/-!
# From tokens to the tree

The tree grows on a stack of open elements. Two relations say what a stretch of tokens does to
it: it completes one element (`Builds`), or it adds parts to the element that is open
(`Describes`). Both are said of texts as well (`IsElement`, `IsContent`), and the texts of a
written document are put together from tags and lines by the lemmas about these.

Nothing here is qualified, and there is no document type: the bindings are those outside the
root element all along.
-/

namespace OverlayPatch.Markup

set_option autoImplicit false

/-! ## Parts of an element -/

inductive Part where
  | char (c : Char)
  | child (element : Element)

namespace Part

def lead : List Part → List Char
  | .char c :: parts => c :: lead parts
  | _ => []

def child? : Part → Option Element
  | char _ => none
  | child element => some element

end Part

def Element.ofParts (key : String) (pairs : List (String × String)) (parts : List Part) : Element :=
  .mk key pairs (String.ofList (Part.lead parts)) (parts.filterMap Part.child?)

namespace Frame

def fresh (key : String) (pairs : List (String × String)) : Frame :=
  { name := { base := key }, scope := Scope.outermost, tag := key, attributes := pairs }

def add (frame : Frame) : Part → Frame
  | .char c => frame.addText [c]
  | .child element => frame.addChild element

theorem scope_addText (text : List Char) (frame : Frame) :
    (frame.addText text).scope = frame.scope := by
  unfold addText
  split <;> rfl

theorem scope_foldl_add (parts : List Part) (frame : Frame) :
    (parts.foldl add frame).scope = frame.scope := by
  induction parts generalizing frame with
  | nil => rfl
  | cons part parts ih =>
      rw [List.foldl_cons, ih]
      cases part with
      | char c => exact scope_addText [c] frame
      | child element => rfl

/-- Behind a child only children count. -/
theorem foldl_add_of_children (parts : List Part) {frame : Frame} (some : frame.children ≠ []) :
    parts.foldl add frame =
      { frame with children := (parts.filterMap Part.child?).reverse ++ frame.children } := by
  induction parts generalizing frame with
  | nil => rfl
  | cons part parts ih =>
      cases part with
      | char c =>
          have same : frame.addText [c] = frame := by
            rw [addText, if_neg (by simpa using some)]
          rw [List.foldl_cons, add, same, ih some]
          rfl
      | child element =>
          rw [List.foldl_cons, add, ih (by simp [addChild])]
          simp [addChild, Part.child?]

/-- Text behind a child is dropped, and children come in order. -/
theorem foldl_add (parts : List Part) {frame : Frame} (none : frame.children = []) :
    parts.foldl add frame =
      { frame with
        lead := (Part.lead parts).reverse ++ frame.lead
        children := (parts.filterMap Part.child?).reverse } := by
  induction parts generalizing frame with
  | nil =>
      obtain ⟨⟩ := frame
      cases none
      rfl
  | cons part parts ih =>
      cases part with
      | char c =>
          have more : frame.addText [c] = { frame with lead := c :: frame.lead } := by
            rw [addText, if_pos (by simp [none])]
            rfl
          have still : ({ frame with lead := c :: frame.lead } : Frame).children = [] := none
          rw [List.foldl_cons, add, more, ih still]
          simp only [Part.lead, List.reverse_cons, List.append_assoc, List.singleton_append]
          rfl
      | child element =>
          rw [List.foldl_cons, add, foldl_add_of_children _ (by simp [addChild])]
          simp [addChild, Part.lead, Part.child?, none]

/-- The element that comes of a new one by adding parts. -/
theorem close_foldl_add (key : String) (pairs : List (String × String)) (parts : List Part) :
    (parts.foldl add (fresh key pairs)).close = Element.ofParts key pairs parts := by
  rw [foldl_add parts rfl]
  simp [close, fresh, Element.ofParts]

end Frame

/-! ## Opening an element -/

theorem expandPieces_char (entities : Entities) (allowance : Nat) (cs : List Char) :
    expandPieces entities allowance (cs.map .char) = some (cs, allowance) := by
  induction cs with
  | nil => rw [List.map_nil, expandPieces]
  | cons c cs ih => rw [List.map_cons, expandPieces, ih, Option.map_some]

/-- A tag that can be written and opens an element without declaring a namespace. -/
structure Tagged (key : String) (pairs : List (String × String)) : Prop where
  plain : Reader.isPlainName key
  writable : ∀ pair ∈ pairs, Reader.Writable pair
  distinct : (pairs.map Prod.fst).Nodup
  unbound : "xmlns" ∉ pairs.map Prod.fst

namespace Definitions

variable {definitions : Definitions}

/-- The name and value that are given by an attribute. -/
def given (pair : String × String) : Name × String :=
  ({ base := pair.1 }, pair.2)

theorem given?_attributeOf (none : definitions.defaults = []) (element : Name)
    (pair : String × String) :
    definitions.given? element (Reader.attributeOf pair) = some (given pair) := by
  have chars : (pair.2.toList.map Piece.char).mapM Piece.char? = some pair.2.toList := by
    rw [List.mapM_map]
    exact List.mapM_pure.trans (by rw [List.map_id']; rfl)
  simp [given?, Reader.attributeOf, chars, default?, none, given]

theorem binds?_given {pairs : List (String × String)} (unbound : "xmlns" ∉ pairs.map Prod.fst)
    {pair : String × String} (member : pair ∈ pairs) : (given pair).1.binds? = none := by
  have other : pair.1 ≠ "xmlns" := by
    rintro same
    exact unbound (same ▸ List.mem_map_of_mem member)
  simp [Name.binds?, given, other]

/-- Attributes that declare no namespace leave the scope alone. -/
theorem extend?_given (scope : Scope) {pairs : List (String × String)}
    (unbound : "xmlns" ∉ pairs.map Prod.fst) : scope.extend? (pairs.map given) = some scope := by
  induction pairs with
  | nil => rfl
  | cons pair pairs ih =>
      have first := binds?_given unbound List.mem_cons_self
      have others : "xmlns" ∉ pairs.map Prod.fst :=
        fun member => unbound (List.mem_cons_of_mem _ member)
      rw [List.map_cons, Scope.extend?.eq_def]
      simp only [first, ih others]

theorem attributes?_given (scope : Scope) {pairs : List (String × String)}
    (unbound : "xmlns" ∉ pairs.map Prod.fst) :
    scope.attributes? (pairs.map given) = some pairs := by
  have kept : (pairs.map given).filter (·.1.binds?.isNone) = pairs.map given := by
    rw [List.filter_eq_self]
    intro named member
    obtain ⟨pair, within, rfl⟩ := List.mem_map.mp member
    rw [binds?_given unbound within]
    rfl
  rw [Scope.attributes?, kept, List.mapM_map]
  exact List.mapM_pure.trans (by rw [List.map_id']; rfl)

/-- A tag opens an element of its name with its attributes. -/
theorem open?_tagged (none : definitions.defaults = []) {key : String}
    {pairs : List (String × String)} (tagged : Tagged key pairs) :
    definitions.open? Scope.outermost { base := key } (pairs.map Reader.attributeOf) =
      some (Frame.fresh key pairs) := by
  have distinct : ((pairs.map Reader.attributeOf).map (·.name)).Nodup := by
    rw [List.map_map]
    have names : ((·.name) ∘ Reader.attributeOf : String × String → Name) =
      (fun base => { base }) ∘ Prod.fst := rfl
    rw [names, ← List.map_map]
    exact List.Pairwise.map _ (by simp) tagged.distinct
  have values : (pairs.map Reader.attributeOf).mapM (definitions.given? { base := key }) =
      some (pairs.map given) := by
    have each : definitions.given? { base := key } ∘ Reader.attributeOf =
      fun pair => pure (given pair) := funext (given?_attributeOf none _)
    rw [List.mapM_map, each, List.mapM_pure]
    rfl
  have implied : ∀ names, definitions.implied { base := key } names = [] := by
    intro names
    simp [Definitions.implied, none]
  have named : Scope.outermost.elementName? { base := key } = some key := rfl
  have apart : (pairs.map (·.1)).Nodup := tagged.distinct
  simp only [open?, guard, if_pos distinct, values, implied, List.append_nil, named, if_pos apart,
    extend?_given _ tagged.unbound, attributes?_given _ tagged.unbound, Option.pure_def,
    Option.bind_eq_bind, Option.bind_some]
  rfl

end Definitions

/-! ## Growth -/

namespace Growth

/-- Nothing is complete yet, with these elements open, the nearest first. -/
def around : List Frame → Growth
  | [] => before
  | frame :: outer => inside frame outer

/-- A start tag opens its element inside those that are open, or completes it at once. -/
theorem step_start {definitions : Definitions} (none : definitions.defaults = [])
    {outer : List Frame} (same : ∀ frame ∈ outer, frame.scope = Scope.outermost) {key : String}
    {pairs : List (String × String)} (tagged : Tagged key pairs) (closed : Bool) :
    step definitions (around outer)
        (.start { base := key } (pairs.map Reader.attributeOf) closed) =
      some (if closed then finish (Frame.fresh key pairs).close outer
        else around (Frame.fresh key pairs :: outer)) := by
  have opened := Definitions.open?_tagged none tagged
  cases outer with
  | nil =>
      simp only [around, step, opened]
      rfl
  | cons frame outer =>
      simp only [around, step, same frame List.mem_cons_self, opened]
      rfl

end Growth

/-- The tokens are an element, wherever it stands. -/
def Builds (tokens : List Token) (element : Element) : Prop :=
  ∀ definitions : Definitions, definitions.defaults = [] →
    ∀ outer : List Frame, (∀ frame ∈ outer, frame.scope = Scope.outermost) →
      tokens.foldlM (Growth.step definitions) (.around outer) = some (.finish element outer)

/-- The tokens add parts to the element that is open. -/
def Describes (tokens : List Token) (parts : List Part) : Prop :=
  ∀ definitions : Definitions, definitions.defaults = [] →
    ∀ frame outer, (∀ other ∈ frame :: outer, other.scope = Scope.outermost) →
      tokens.foldlM (Growth.step definitions) (.inside frame outer) =
        some (.inside (parts.foldl Frame.add frame) outer)

section Stretches

variable {tokens tokens' : List Token} {parts parts' : List Part} {element : Element}

theorem Describes.append (first : Describes tokens parts) (second : Describes tokens' parts') :
    Describes (tokens ++ tokens') (parts ++ parts') := by
  intro definitions none frame outer same
  have still : ∀ other ∈ parts.foldl Frame.add frame :: outer, other.scope = Scope.outermost := by
    intro other member
    cases member with
    | head => rw [Frame.scope_foldl_add, same frame List.mem_cons_self]
    | tail _ within => exact same other (List.mem_cons_of_mem _ within)
  rw [List.foldlM_append, first definitions none frame outer same, Option.bind_eq_bind,
    Option.bind_some, second definitions none _ outer still, List.foldl_append]

theorem Describes.char (c : Char) : Describes [.char c] [.char c] := by
  intro definitions _ frame outer _
  rfl

theorem Builds.describes (builds : Builds tokens element) : Describes tokens [.child element] := by
  intro definitions none frame outer same
  exact builds definitions none (frame :: outer) same

theorem Builds.closed {key : String} {pairs : List (String × String)} (tagged : Tagged key pairs) :
    Builds [.start { base := key } (pairs.map Reader.attributeOf) true]
      (Element.ofParts key pairs []) := by
  intro definitions none outer same
  rw [List.foldlM_cons, Growth.step_start none same tagged, ← Frame.close_foldl_add]
  rfl

/-- Tokens of contents between two tags are an element. -/
theorem Builds.around {key : String} {pairs : List (String × String)} (tagged : Tagged key pairs)
    (content : Describes tokens parts) :
    Builds (.start { base := key } (pairs.map Reader.attributeOf) false ::
        (tokens ++ [.finish { base := key }]))
      (Element.ofParts key pairs parts) := by
  intro definitions none outer same
  have still : ∀ other ∈ Frame.fresh key pairs :: outer, other.scope = Scope.outermost := by
    intro other member
    cases member with
    | head => rfl
    | tail _ within => exact same other within
  have grown := content definitions none (Frame.fresh key pairs) outer still
  have named : (parts.foldl Frame.add (Frame.fresh key pairs)).name = { base := key } := by
    rw [Frame.foldl_add parts rfl]
    rfl
  rw [List.foldlM_cons, Growth.step_start none same tagged, Option.bind_eq_bind, Option.bind_some,
    List.foldlM_append]
  change (tokens.foldlM (Growth.step definitions) (.inside _ outer) >>= _) = _
  rw [grown, Option.bind_eq_bind, Option.bind_some, List.foldlM_cons, Growth.step, named,
    if_pos rfl, Frame.close_foldl_add]
  rfl

end Stretches

/-! ## Texts -/

/-- The token neither is a reference to an entity nor holds one. -/
def Token.Direct : Token → Prop
  | .entity _ => False
  | .start _ attributes _ => ∀ item ∈ attributes, ∃ cs : List Char, item.value = cs.map .char
  | _ => True

/-- The text, whose line ends are line feeds, is read as the tokens, none of which refers to an
entity. -/
structure Lexes (alphabet : Alphabet) (text : List Char) (tokens : List Token) : Prop where
  spells : Reader.Spells List.isEmpty (Reader.token alphabet) text tokens
  direct : ∀ token ∈ tokens, token.Direct
  lineFeeds : '\r' ∉ text

def IsElement (alphabet : Alphabet) (text : List Char) (element : Element) : Prop :=
  ∃ tokens, Lexes alphabet text tokens ∧ Builds tokens element

/-- The text adds parts to the element in which it stands. -/
def IsContent (alphabet : Alphabet) (text : List Char) (parts : List Part) : Prop :=
  ∃ tokens, Lexes alphabet text tokens ∧ Describes tokens parts

section Texts

variable {alphabet : Alphabet} {text text' : List Char} {tokens tokens' : List Token}
variable {parts parts' : List Part} {element : Element}

theorem Lexes.append (first : Lexes alphabet text tokens) (second : Lexes alphabet text' tokens') :
    Lexes alphabet (text ++ text') (tokens ++ tokens') where
  spells := first.spells.append second.spells
  direct := List.forall_mem_append.mpr ⟨first.direct, second.direct⟩
  lineFeeds member := by
    rcases List.mem_append.mp member with left | right
    · exact first.lineFeeds left
    · exact second.lineFeeds right

/-- A text that is one token, whatever comes behind it. -/
theorem Lexes.one {token : Token} (nonempty : text ≠ [])
    (taken : ∀ rest, Reader.token alphabet (text ++ rest) = some (token, rest))
    (direct : token.Direct) (lineFeeds : '\r' ∉ text) :
    Lexes alphabet text [token] where
  spells := by
    refine .one nonempty (fun rest => ?_) taken
    rw [List.isEmpty_eq_false_iff]
    exact List.append_ne_nil_of_left_ne_nil nonempty rest
  direct := List.forall_mem_singleton.mpr direct
  lineFeeds := lineFeeds

theorem lexes_tag {key : String} {pairs : List (String × String)} (tagged : Tagged key pairs)
    (closed : Bool) :
    Lexes alphabet (Reader.tagChars key pairs closed)
      [.start { base := key } (pairs.map Reader.attributeOf) closed] :=
  .one (List.cons_ne_nil _ _) (Reader.token_tagChars tagged.plain tagged.writable closed)
    (List.forall_mem_map.mpr fun pair _ => ⟨pair.2.toList, rfl⟩)
    (Reader.not_mem_tagChars tagged.plain tagged.writable closed)

theorem lexes_endTag {key : String} (plain : Reader.isPlainName key) :
    Lexes alphabet (Reader.endTagChars key) [.finish { base := key }] :=
  .one (List.cons_ne_nil _ _) (Reader.token_endTagChars plain) trivial
    (Reader.not_mem_endTagChars plain)

theorem IsContent.nil : IsContent alphabet [] [] :=
  ⟨[], ⟨.nil, by simp, by simp⟩, fun _ _ _ _ _ => rfl⟩

theorem IsContent.append (first : IsContent alphabet text parts)
    (second : IsContent alphabet text' parts') :
    IsContent alphabet (text ++ text') (parts ++ parts') := by
  obtain ⟨tokens, lexes, describes⟩ := first
  obtain ⟨tokens', lexes', describes'⟩ := second
  exact ⟨_, lexes.append lexes', describes.append describes'⟩

theorem IsContent.flatMap {ι : Type} {items : List ι} {write : ι → List Char}
    {read : ι → List Part} (each : ∀ item ∈ items, IsContent alphabet (write item) (read item)) :
    IsContent alphabet (items.flatMap write) (items.flatMap read) := by
  induction items with
  | nil => exact .nil
  | cons item items ih =>
      rw [List.flatMap_cons, List.flatMap_cons]
      exact (each item List.mem_cons_self).append
        (ih fun other member => each other (List.mem_cons_of_mem _ member))

theorem IsContent.chars {cs : List Char} (plain : cs.all Reader.isText) :
    IsContent alphabet cs (cs.map .char) := by
  induction cs with
  | nil => exact .nil
  | cons c cs ih =>
      obtain ⟨here, rest⟩ : Reader.isText c ∧ cs.all Reader.isText := by
        rwa [List.all_cons, Bool.and_eq_true] at plain
      have first : IsContent alphabet [c] [.char c] :=
        ⟨[.char c], .one (List.cons_ne_nil _ _) (Reader.token_isText here) trivial
          (Reader.not_mem_of_isText here), .char c⟩
      exact first.append (ih rest)

theorem IsElement.isContent (is : IsElement alphabet text element) :
    IsContent alphabet text [.child element] := by
  obtain ⟨tokens, lexes, builds⟩ := is
  exact ⟨tokens, lexes, builds.describes⟩

theorem IsElement.closed {key : String} {pairs : List (String × String)}
    (tagged : Tagged key pairs) :
    IsElement alphabet (Reader.tagChars key pairs true) (Element.ofParts key pairs []) :=
  ⟨_, lexes_tag tagged true, .closed tagged⟩

/-- Contents between two tags are read as an element. -/
theorem IsElement.around {key : String} {pairs : List (String × String)}
    (tagged : Tagged key pairs) (content : IsContent alphabet text parts) :
    IsElement alphabet (Reader.tagChars key pairs false ++ (text ++ Reader.endTagChars key))
      (Element.ofParts key pairs parts) := by
  obtain ⟨tokens, lexes, describes⟩ := content
  exact ⟨_, (lexes_tag tagged false).append (lexes.append (lexes_endTag tagged.plain)),
    .around tagged describes⟩

end Texts

/-! ## Documents -/

theorem refersInside_of_direct {tokens : List Token} (direct : ∀ token ∈ tokens, token.Direct)
    (depth : Nat) : Token.refersInside depth tokens := by
  fun_induction Token.refersInside depth tokens with
  | case1 => rfl
  | case2 depth name attributes tokens ih =>
      exact ih fun other member => direct other (List.mem_cons_of_mem _ member)
  | case3 depth name tokens ih =>
      exact ih fun other member => direct other (List.mem_cons_of_mem _ member)
  | case4 depth name tokens ih => exact (direct _ List.mem_cons_self).elim
  | case5 depth token tokens _ _ _ ih =>
      exact ih fun other member => direct other (List.mem_cons_of_mem _ member)

theorem expandAttributes_of_direct (entities : Entities) (allowance : Nat)
    {attributes : List Attribute}
    (direct : ∀ item ∈ attributes, ∃ cs : List Char, item.value = cs.map .char) :
    expandAttributes entities allowance attributes = some (attributes, allowance) := by
  induction attributes with
  | nil => rfl
  | cons item attributes ih =>
      obtain ⟨⟨cs, chars⟩, others⟩ := List.forall_mem_cons.mp direct
      obtain ⟨name, value⟩ := item
      obtain rfl : value = cs.map .char := chars
      rw [expandAttributes, expandPieces_char]
      simp [ih others]

/-- What refers to no entity stays as it is and uses nothing of the allowance. -/
theorem expandTokens_of_direct (entities : Entities) (allowance : Nat) {tokens : List Token}
    (direct : ∀ token ∈ tokens, token.Direct) :
    expandTokens entities allowance tokens = some (tokens, allowance) := by
  induction tokens with
  | nil => rw [expandTokens]
  | cons token tokens ih =>
      obtain ⟨here, others⟩ := List.forall_mem_cons.mp direct
      have rest := ih others
      cases token with
      | entity name => exact here.elim
      | start name attributes closed =>
          rw [expandTokens, expandAttributes_of_direct entities allowance here]
          simp [rest]
      | _ => rw [expandTokens, rest, Option.map_some] <;> simp

theorem universalNewlines_of_not_mem {cs : List Char} (lineFeeds : '\r' ∉ cs) :
    Text.universalNewlines cs = cs := by
  fun_induction Text.universalNewlines cs with
  | case1 => rfl
  | case2 cs ih => exact absurd List.mem_cons_self lineFeeds
  | case3 c cs _ ih =>
      have other : c ≠ '\r' := by
        rintro rfl
        exact lineFeeds List.mem_cons_self
      rw [if_neg other, ih fun member => lineFeeds (List.mem_cons_of_mem _ member)]

/-- Where a document has nothing but a line end before its root element. -/
theorem Reader.prolog_newline {alphabet : Alphabet} (alone : Bool) (definitions : Definitions)
    {c : Char} (start : isNameStart c) (cs : List Char) :
    prolog alone definitions alphabet ('\n' :: '<' :: c :: cs) =
      some (definitions, '<' :: c :: cs) := by
  have mark : c ≠ '?' := ne_of_isNameStart start (by decide)
  have bang : c ≠ '!' := ne_of_isNameStart start (by decide)
  have tag : (!atAside ('<' :: c :: cs)) = true := by
    simp [atAside, mark, bang, isSpace]
  have blank : aside alphabet ('\n' :: '<' :: c :: cs) = some ((), '<' :: c :: cs) := rfl
  have first : asides alphabet ('\n' :: '<' :: c :: cs) = some ((), '<' :: c :: cs) := by
    rw [asides, bind_taken (runs_step rfl blank (by simp) (runs_stop tag)).repeatUntil]
    rfl
  have again : asides alphabet ('<' :: c :: cs) = some ((), '<' :: c :: cs) := by
    rw [asides, bind_taken (runs_stop tag).repeatUntil]
    rfl
  have type : doctype? alone definitions alphabet ('<' :: c :: cs) =
      some (definitions, '<' :: c :: cs) := by
    have other : after? doctypeMark ('<' :: c :: cs) = none := by
      have lead : doctypeMark = '<' :: '!' :: "DOCTYPE".toList := by decide
      rw [lead, after?, if_pos rfl, after?, if_neg bang.symm]
    rw [doctype?, bind_taken (get_apply _), other]
    rfl
  rw [prolog, bind_taken first, bind_taken type, bind_taken again]
  rfl

/-- A document of one element is read as that element. -/
theorem Element.ofChars?_of_isElement {alphabet : Alphabet} {c : Char} {cs : List Char}
    {element : Element} (is : IsElement alphabet ('<' :: c :: cs) element) (start : isNameStart c)
    (alone : Bool) :
    ofChars? alphabet alone ('\n' :: '<' :: c :: cs ++ ['\n']) = some element := by
  obtain ⟨tokens, lexes, builds⟩ := is
  have whole : Lexes alphabet ('<' :: c :: cs ++ ['\n']) (tokens ++ [.char '\n']) :=
    lexes.append (.one (List.cons_ne_nil _ _) (Reader.token_isText (by decide)) trivial
      (by decide))
  have lineFeeds : '\r' ∉ '\n' :: '<' :: c :: cs ++ ['\n'] :=
    List.not_mem_cons_of_ne_of_not_mem (by decide) whole.lineFeeds
  have read : Token.readAll alphabet ('<' :: c :: cs ++ ['\n']) =
      some (tokens ++ [.char '\n']) := by
    have taken := whole.spells.repeatUntil (rfl : [].isEmpty)
    rw [List.append_nil] at taken
    rw [Token.readAll, Reader.all, taken]
    rfl
  have built : ∀ definitions : Definitions, definitions.defaults = [] →
      ofTokens? definitions (tokens ++ [.char '\n']) = some element := by
    intro definitions none
    have grown := builds definitions none [] (by simp)
    rw [ofTokens?, List.foldlM_append]
    change ((tokens.foldlM (Growth.step definitions) (Growth.around []) >>= _) >>= _) = _
    rw [grown]
    rfl
  have before : ∀ definitions, Reader.prolog alone definitions alphabet _ = _ :=
    fun definitions => Reader.prolog_newline alone definitions start (cs ++ ['\n'])
  rw [ofChars?, universalNewlines_of_not_mem lineFeeds]
  simp only [List.cons_append] at read ⊢
  simp only [before, read, guard, refersInside_of_direct whole.direct, expandContent,
    expandTokens_of_direct _ _ whole.direct, if_true, Option.map_some, Option.pure_def,
    Option.bind_eq_bind, Option.bind_some]
  exact built _ rfl

end OverlayPatch.Markup
