/-!
# Journal of a run

What a run reports on the way: entries of a level and a text, in the order in which they arise.
-/

namespace OverlayPatch

set_option autoImplicit false

inductive Level where
  | debug
  | info
  | warning
  | error
deriving Repr, DecidableEq

def Level.name : Level → String
  | debug => "DEBUG"
  | info => "INFO"
  | warning => "WARNING"
  | error => "ERROR"

structure Entry where
  level : Level
  text : String
deriving Repr, DecidableEq

/-- The line an entry gives on a console. A quiet console leaves debugging out and shows no
level. -/
def Entry.line? (verbose : Bool) (entry : Entry) : Option String :=
  if verbose then some s!"{entry.level.name}: {entry.text}"
  else if entry.level = .debug then none
  else some entry.text

end OverlayPatch
