/-
How the update of a resource fails: a call that the service refuses, with the
resource it was for, or a batch size of zero.
-/
import Retag.TagSet.Basic

namespace Retag

inductive UpdateError where
  | tagging (identifier source : String)
  | untagging (identifier source : String)
  | tags (e : InvalidChunkSize)
  deriving DecidableEq, Repr

namespace UpdateError

def message : UpdateError → String
  | tagging identifier source => s!"error tagging resource ({identifier}): {source}"
  | untagging identifier source => s!"error untagging resource ({identifier}): {source}"
  | tags e => e.message

/-- The resource that the refused call was for. -/
def identifier? : UpdateError → Option String
  | tagging identifier _ | untagging identifier _ => some identifier
  | tags _ => none

/-- What the service answered. -/
def source? : UpdateError → Option String
  | tagging _ source | untagging _ source => some source
  | tags _ => none

end UpdateError

end Retag
