/-
Replacing a file as a whole. The new content is written to a temporary file in the
directory of the target, which is then renamed: whoever looks at the target sees
the old file or the complete new one. A file keeps its mode when it is replaced; a
new one has the mode of new files, which depends on the mask of the process. When a step
fails, the temporary file is removed.
-/
import Retag.Files.Course

namespace Retag.Files

/-- The mode of a temporary file that gets another one. -/
def temporaryMode : Nat := 0o600

namespace Store

/-- A name for a temporary file, longer than every name in use and those given. -/
def freshName (s : Store) (names : List String) : String :=
  ".tagsync-" ++ String.ofList
    (List.replicate ((names ++ s.entries.flatMap (·.1)).foldr (fun name n => name.length + n) 0) '0')

/-- The mode of the regular file at a path. -/
def modeAt (s : Store) (cwd : Place) (path : String) : Option Nat :=
  match s.entryAt cwd path with
  | .ok (.file _ mode) => some mode
  | _ => none

/-- Renames a regular file to a path. -/
def rename (s : Store) (cwd : Place) (source : Place) (path : String) : Except IoFault Store :=
  match s.get? source with
  | none => .error .notFound
  | some e =>
    (s.locate cwd path).bind fun
      | .unnamed _ => .error .busy
      | .named p name slash =>
        if slash then .error .notDirectory
        else if s.isDirectory (p ++ [name]) then .error .isDirectory
        else .ok ((s.erase source).put (p ++ [name]) e)

/-! ## The steps with a temporary file -/

/-- Makes a temporary file; one that is to have the mode of another file is closed to
others until it has it. -/
def makeTemporary (umask : Nat) (s : Store) (i : Interruption) (temporary : Place) (previous : Option Nat) :
    Course :=
  .step i .makeTemporary s <| .ok <| s.put temporary <|
    .file ByteArray.empty (createdMode umask (if previous.isSome then temporaryMode else ordinaryMode))

/-- Gives a temporary file the mode of the file it is to replace, if there is one. -/
def setMode (s : Store) (i : Interruption) (temporary : Place) : Option Nat → Course
  | none => .rest s
  | some mode => .step i .setMode s (.ok (s.put temporary (.file ByteArray.empty mode)))

/-- Writes a temporary file. A failure leaves a part of the content in it. -/
def write (s : Store) (i : Interruption) (temporary : Place) (mode : Nat) (content : ByteArray) :
    Course :=
  match i.fault .write with
  | some e => ⟨[s], s.put temporary (.file (content.extract 0 i.written) mode), .error e⟩
  | none => ⟨[s], s.put temporary (.file content mode), .ok ()⟩

/-- Removes a temporary file behind a failure. -/
def orRemove (temporary : Place) (r : Course) : Course :=
  match r.result with
  | .ok () => r
  | .error e => ⟨r.states, r.store.erase temporary, .error e⟩

/-- The steps up to a temporary file with all of the content. -/
def fill (umask : Nat) (s : Store) (i : Interruption) (temporary : Place) (previous : Option Nat)
    (content : ByteArray) : Course :=
  (s.setMode i temporary previous).next fun s =>
    s.write i temporary (previous.getD (createdMode umask ordinaryMode)) content

/-- The steps that follow when the directory of the target is there. -/
def replaceBy (umask : Nat) (s : Store) (cwd temporary : Place) (path : String) (content : ByteArray)
    (i : Interruption) : Course :=
  let previous := s.modeAt cwd path
  (s.makeTemporary umask i temporary previous).next fun s =>
    orRemove temporary <|
      (s.fill umask i temporary previous content).next fun s =>
        .step i .rename s (s.rename cwd temporary path)

/-- Replaces the file at a path, making the directories it lies in. -/
def replaceUnder (umask : Nat) (s : Store) (cwd : Place) (path : String) (content : ByteArray)
    (i : Interruption) : Course :=
  let parent := (Path.ofText path).parent
  (s.makeDirectories cwd parent i).next fun s =>
    match s.placeOf cwd parent with
    | .error e => .fail s e
    | .ok directory =>
      s.replaceBy umask cwd (directory ++ [s.freshName (parts path)]) path content i

/-- Replaces the file at a path under the usual mask. -/
def replace (s : Store) (cwd : Place) (path : String) (content : ByteArray) (i : Interruption) : Course :=
  s.replaceUnder usualUmask cwd path content i

end Store

end Retag.Files
