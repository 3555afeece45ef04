/-
Operations on a store that go in steps, each of which may fail. A course has the
stores that such an operation passes through, so that what others see of it between
its steps can be told, and what a failure leaves behind.
-/
import Retag.Files.Path

namespace Retag.Files

/-- A step that changes a store. -/
inductive Step where
  /-- Makes the directory of a path; once more if those it lies in had to be made
  first. -/
  | makeDirectory (path : Path) (again : Bool)
  | makeTemporary
  | setMode
  | write
  | rename
  deriving DecidableEq, Repr

/-- What befalls an operation from outside: each of its steps may be made to fail. -/
structure Interruption where
  fault : Step → Option IoFault
  /-- How many bytes get through when the writing is made to fail. -/
  written : Nat

/-- Nothing fails but what the store itself refuses. -/
def undisturbed : Interruption := ⟨fun _ => none, 0⟩

/-- An operation in its course. -/
structure Course where
  /-- The stores before the last one, in their order. -/
  passed : List Store
  /-- What the operation leaves. -/
  store : Store
  result : Except IoFault Unit

namespace Course

/-- The stores that an operation passes through, the last one included. -/
def states (r : Course) : List Store := r.passed ++ [r.store]

/-- Nothing happens. -/
def rest (s : Store) : Course := ⟨[], s, .ok ()⟩

/-- Fails without a change. -/
def fail (s : Store) (e : IoFault) : Course := ⟨[], s, .error e⟩

/-- A step that leaves the store as it is if it fails. -/
def step (i : Interruption) (kind : Step) (s : Store) (act : Except IoFault Store) : Course :=
  match i.fault kind, act with
  | some e, _ => fail s e
  | none, .error e => fail s e
  | none, .ok t => ⟨[s], t, .ok ()⟩

/-- One operation after another; with the failure of the first one all ends. -/
def next (r : Course) (f : Store → Course) : Course :=
  match r.result with
  | .ok () => ⟨r.states ++ (f r.store).passed, (f r.store).store, (f r.store).result⟩
  | .error _ => r

end Course

namespace Store

/-! ## Making directories -/

/-- Makes the directory of a path. -/
def makeDirectory (s : Store) (cwd : Place) (p : Path) : Except IoFault Store :=
  if p.names.any (·.contains '\x00') then .error .nulInPath
  else
    match p.names.getLast? with
    | none => .error .alreadyThere
    | some last =>
      (s.follow (if p.absolute then [] else cwd) p.names.dropLast).bind fun above =>
        if last = ".." then .error .alreadyThere
        else if longestName < last.utf8ByteSize then .error .nameTooLong
        else if (s.get? (above ++ [last])).isSome then .error .alreadyThere
        else .ok (s.put (above ++ [last]) .directory)

/-- Tries to make the directory of a path. -/
def tryDirectory (s : Store) (cwd : Place) (i : Interruption) (p : Path) (again : Bool) : Course :=
  .step i (.makeDirectory p again) s (s.makeDirectory cwd p)

/-- It is no failure to make a directory if the directory is there. -/
def orThere (cwd : Place) (p : Path) (r : Course) : Course :=
  if (r.store.placeOf cwd p).toBool then { r with result := .ok () } else r

/-- Makes the directory of a path, given by its names from the last to the first,
and those it lies in. -/
def makeAll (s : Store) (cwd : Place) (i : Interruption) (absolute : Bool) : List String → Course
  | [] => .rest s
  | name :: above =>
    let path : Path := ⟨absolute, (name :: above).reverse⟩
    let tried := s.tryDirectory cwd i path false
    match tried.result with
    | .error .notFound =>
      (s.makeAll cwd i absolute above).next fun s =>
        orThere cwd path (s.tryDirectory cwd i path true)
    | _ => orThere cwd path tried

/-- Makes the directory of a path and those it lies in. -/
def makeDirectories (s : Store) (cwd : Place) (p : Path) (i : Interruption) : Course :=
  s.makeAll cwd i p.absolute p.names.reverse

/-- What remains of making directories when nothing is made to fail. -/
def ensureDirectories (s : Store) (cwd : Place) (p : Path) : Store × Except IoFault Unit :=
  let r := s.makeDirectories cwd p undisturbed
  (r.store, r.result)

end Store

end Retag.Files
