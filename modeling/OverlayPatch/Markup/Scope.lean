import OverlayPatch.Markup.Token

/-!
# Namespaces

A qualifier stands for the namespace that the innermost declaration around it binds it to. The
universal name of an element or attribute is its base name with the namespace in braces
before it. Unqualified elements are in the default namespace if there is one; unqualified
attributes are in none.
-/

namespace OverlayPatch.Markup

set_option autoImplicit false

/-- The namespace of each qualifier, the innermost binding first; the empty qualifier is the
default, and the empty namespace is none. -/
abbrev Scope := List (String × String)

namespace Scope

def xmlSpace : String := "http://www.w3.org/XML/1998/namespace"

def declarationSpace : String := "http://www.w3.org/2000/xmlns/"

/-- The bindings outside the root element. -/
def outermost : Scope := [("xml", xmlSpace)]

/-- Binds a qualifier. The reserved qualifiers and namespaces belong together, only the default
can be taken back, and a namespace holds no closing brace. -/
def bind? (scope : Scope) (space uri : String) : Option Scope :=
  if space ≠ "" ∧ uri = "" then none
  else if space = "xmlns" ∨ uri = declarationSpace then none
  else if decide (space = "xml") ≠ decide (uri = xmlSpace) then none
  else if uri.toList.contains '\x7d' then none
  else some ((space, uri) :: scope)

def universal (uri base : String) : String :=
  if uri = "" then base else "\x7b" ++ uri ++ "\x7d" ++ base

def elementName? (scope : Scope) (name : Name) : Option String :=
  match scope.lookup name.space with
  | some uri => some (universal uri name.base)
  | none => if name.space = "" then some name.base else none

def attributeName? (scope : Scope) (name : Name) : Option String :=
  if name.space = "" then some name.base
  else (scope.lookup name.space).map (universal · name.base)

end Scope

/-- The qualifier that an attribute of this name binds, if it declares a namespace. -/
def Name.binds? (name : Name) : Option String :=
  if name.space = "xmlns" then some name.base
  else if name.space = "" ∧ name.base = "xmlns" then some ""
  else none

/-- Extends a scope by the declarations among the attributes of an element. -/
def Scope.extend? (scope : Scope) : List (Name × String) → Option Scope
  | [] => some scope
  | (name, value) :: attributes =>
      match name.binds? with
      | some space => (scope.bind? space value).bind (·.extend? attributes)
      | none => scope.extend? attributes

/-- The attributes that declare no namespace, by universal name. -/
def Scope.attributes? (scope : Scope) (attributes : List (Name × String)) :
    Option (List (String × String)) :=
  (attributes.filter (·.1.binds?.isNone)).mapM fun (name, value) =>
    (scope.attributeName? name).map (·, value)

end OverlayPatch.Markup
