import OverlayPatch.Markup.Token

/-!
# Entities

A document may give names to texts. Where such a name is referred to, the text is read as if it
stood there: in a value as characters, in content as tokens that leave the depth of the
elements as it was. A text must not refer to itself, directly or through others; while one is
being read, its name is therefore no longer among the known ones.

Texts that refer to others many times over grow without measure, so there is one allowance for
all that a document reads in place of references, in values and in content, and reading fails when
it is used up.
-/

namespace OverlayPatch.Markup

set_option autoImplicit false

/-- A named text. One that lies outside the document has no text here. -/
structure Entity where
  name : String
  text : Option (List Char)
deriving Repr, DecidableEq

structure Entities where
  known : List Entity := []
  /-- Some declarations lie outside the document, so a name may be unknown here. -/
  partly : Bool := false
  /-- The entities whose text is being read. -/
  busy : List String := []
  /-- The bytes that may be read in place of references. -/
  allowance : Nat := 0x800000
deriving Repr, DecidableEq

namespace Entities

/-- The text of a name together with the entities that may be used within it. -/
def find? (entities : Entities) (name : String) : Option (Option (List Char) × Entities) :=
  match entities.known.find? (·.name = name) with
  | none => none
  | some entity =>
      let known := entities.known.filter (·.name ≠ name)
      some (entity.text, { entities with known, busy := name :: entities.busy })

/-- Adds an entity; the first declaration of a name holds, and the characters that have names
everywhere keep them. -/
def add (entities : Entities) (entity : Entity) : Entities :=
  if (namedChar? entity.name).isSome || entities.known.any (·.name = entity.name) then entities
  else { entities with known := entities.known ++ [entity] }

/-- The entities when some of the allowance was used, unless that is more than there was. -/
def charge? (entities : Entities) (spent : Nat) : Option Entities :=
  if spent ≤ entities.allowance then
    some { entities with allowance := entities.allowance - spent }
  else none

theorem known_length_lt {entities inner : Entities} {name : String} {text : Option (List Char)}
    (found : entities.find? name = some (text, inner)) :
    inner.known.length < entities.known.length := by
  unfold find? at found
  split at found
  · contradiction
  · rename_i entity hit
    obtain ⟨rfl, rfl⟩ := Prod.mk.inj (Option.some.inj found)
    have member := List.mem_of_find?_eq_some hit
    have named := List.find?_some hit
    exact List.length_filter_lt_length_iff_exists.mpr ⟨entity, member, by simpa using named⟩

end Entities

/-- What is left of an allowance after a text was read. -/
def spend? (allowance : Nat) (text : List Char) : Option Nat :=
  let size := (String.ofList text).utf8ByteSize
  if size ≤ allowance then some (allowance - size) else none

/-- The pieces of an entity's text as part of a value. -/
def valuePieces (text : List Char) : Option (List Piece) :=
  Reader.all Reader.valuePiece .listed text

/-- A name may be passed over: it is perhaps declared elsewhere, and it is not being read. -/
def Entities.mayMiss (entities : Entities) (name : String) : Bool :=
  entities.partly && !entities.busy.contains name

/-- The characters of a value, every entity in it replaced, and what is left of the allowance. An
entity that may be declared elsewhere adds nothing. -/
def expandPieces (entities : Entities) (allowance : Nat) :
    List Piece → Option (List Char × Nat)
  | [] => some ([], allowance)
  | .char c :: pieces =>
      (expandPieces entities allowance pieces).map fun (cs, left) => (c :: cs, left)
  | .entity name :: pieces =>
      match _found : entities.find? name with
      | none => if entities.mayMiss name then expandPieces entities allowance pieces else none
      | some (text, inner) => do
          let text ← text
          let parts ← valuePieces text
          let (replaced, left) ← expandPieces inner (← spend? allowance text) parts
          let (rest, left) ← expandPieces entities left pieces
          return (replaced ++ rest, left)
termination_by pieces => (entities.known.length, pieces.length)
decreasing_by
  · exact Prod.Lex.right _ (by simp)
  · exact Prod.Lex.right _ (by simp)
  · exact Prod.Lex.left _ _ (Entities.known_length_lt _found)
  · exact Prod.Lex.right _ (by simp)

/-- Attributes with every entity in their values replaced, and what is left of the allowance. -/
def expandAttributes (entities : Entities) (allowance : Nat) :
    List Attribute → Option (List Attribute × Nat)
  | [] => some ([], allowance)
  | first :: others => do
      let (chars, left) ← expandPieces entities allowance first.value
      let (rest, left) ← expandAttributes entities left others
      return ({ first with value := chars.map .char } :: rest, left)

/-- The depth after some tokens, if it never goes below where it started. -/
def depthAfter? : Nat → List Token → Option Nat
  | depth, [] => some depth
  | depth, .start _ _ false :: tokens => depthAfter? (depth + 1) tokens
  | 0, .finish _ :: _ => none
  | depth + 1, .finish _ :: tokens => depthAfter? depth tokens
  | depth, _ :: tokens => depthAfter? depth tokens

/-- The tokens of an entity's text; every element that starts in it ends in it. -/
def contentTokens (text : List Char) : Option (List Token) := do
  let tokens ← Token.readAll .listed text
  guard (depthAfter? 0 tokens = some 0)
  return tokens

/-- Tokens with every entity replaced, and what is left of the allowance. -/
def expandTokens (entities : Entities) (allowance : Nat) :
    List Token → Option (List Token × Nat)
  | [] => some ([], allowance)
  | .entity name :: tokens =>
      match _found : entities.find? name with
      | none => none
      | some (text, inner) => do
          let text ← text
          let parts ← contentTokens text
          let (replaced, left) ← expandTokens inner (← spend? allowance text) parts
          let (rest, left) ← expandTokens entities left tokens
          return (replaced ++ rest, left)
  | .start name attributes closed :: tokens => do
      let (attributes, left) ← expandAttributes entities allowance attributes
      let (rest, left) ← expandTokens entities left tokens
      return (.start name attributes closed :: rest, left)
  | token :: tokens =>
      (expandTokens entities allowance tokens).map fun (rest, left) => (token :: rest, left)
termination_by tokens => (entities.known.length, tokens.length)
decreasing_by
  · exact Prod.Lex.left _ _ (Entities.known_length_lt _found)
  · exact Prod.Lex.right _ (by simp)
  · exact Prod.Lex.right _ (by simp)
  · exact Prod.Lex.right _ (by simp)

def expandContent (entities : Entities) (tokens : List Token) : Option (List Token) :=
  (expandTokens entities entities.allowance tokens).map (·.1)

end OverlayPatch.Markup
