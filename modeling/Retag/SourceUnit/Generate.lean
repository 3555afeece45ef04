/-
Generating a source unit into a file. The file is replaced as a whole, and only by
a complete unit: if the unit cannot be rendered or laid out, nothing is written.
-/
import Retag.SourceUnit.Basic
import Retag.Files.Replace

namespace Retag.SourceUnit

open Files (Store Place Interruption)

/-- Reads a template from a file. -/
def loadTemplate (s : Store) (cwd : Place) (path : String) : Except Fault Template :=
  match s.readText cwd path with
  | .ok source => readTemplate source
  | .error e => .error (.templateUnreadable path e.message)

/-- What a generation tells when it is done. -/
structure Report where
  output : String
  services : Nat
  /-- The size of the file. -/
  bytes : Nat
  deriving DecidableEq, Repr

/-- Writes the unit of the services of the given names to a file. -/
def generate (t : Template) (names : List String) (s : Store) (cwd : Place) (output : String)
    (i : Interruption) : Store × Except Fault Report :=
  let services := services names
  match render t services with
  | .error f => (s, .error f)
  | .ok rendered =>
    match format rendered with
    | .error f => (s, .error f)
    | .ok text =>
      let r := s.replace cwd output text.toUTF8 i
      match r.result with
      | .ok () => (r.store, .ok ⟨output, services.length, text.utf8ByteSize⟩)
      | .error e => (r.store, .error (.notWritten output e.message))

end Retag.SourceUnit
