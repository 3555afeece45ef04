/-
Paths, and finding the place that a path names. A path is followed name by name:
one dot stays, two dots go up, and every name but the last has to be that of a
directory.
-/
import Retag.Files.Store

namespace Retag.Files

/-- A path by its names: those of one dot are left out, those of two are kept. -/
structure Path where
  absolute : Bool
  names : List String
  deriving DecidableEq, Repr

/-- The parts of a path between its slashes, without the empty ones. -/
def parts (text : String) : List String :=
  ((text.toList.splitOn '/').filter (!·.isEmpty)).map String.ofList

def isAbsolute (text : String) : Bool := text.startsWith "/"

def Path.ofText (text : String) : Path := ⟨isAbsolute text, (parts text).filter (· != ".")⟩

/-- The path of the directory that a path lies in; the working directory for a
path without a name. -/
def Path.parent (p : Path) : Path :=
  match p.names with
  | [] => ⟨false, []⟩
  | names => ⟨p.absolute, names.dropLast⟩

/-- The path of a name below another one; an absolute name replaces it. -/
def join (base name : String) : String :=
  if isAbsolute name || base.isEmpty then name
  else if base.endsWith "/" then base ++ name
  else base ++ "/" ++ name

/-- The most bytes of a name. -/
def longestName : Nat := 255

namespace Store

/-- Follows names from a place through directories. -/
def follow (s : Store) : Place → List String → Except IoFault Place
  | p, [] => .ok p
  | p, "." :: names => follow s p names
  | p, ".." :: names => follow s p.dropLast names
  | p, name :: names =>
    if longestName < name.utf8ByteSize then .error .nameTooLong
    else
      match s.get? (p ++ [name]) with
      | some .directory => follow s (p ++ [name]) names
      | some (.file ..) => .error .notDirectory
      | none => .error .notFound
termination_by structural _ names => names

end Store

/-- What a path names. -/
inductive Target where
  /-- A directory without a name of its own: the root, or one dot or two. -/
  | unnamed (p : Place)
  /-- A name in a directory, with a slash behind it or not. -/
  | named (directory : Place) (name : String) (slash : Bool)
  deriving DecidableEq

namespace Store

/-- Finds what a path names, from the working directory. -/
def locate (s : Store) (cwd : Place) (text : String) : Except IoFault Target :=
  if text.isEmpty then .error .notFound
  else if text.contains '\x00' then .error .nulInPath
  else
    let start := if isAbsolute text then [] else cwd
    let parts := parts text
    match parts.getLast? with
    | none => .ok (.unnamed start)
    | some last =>
      (s.follow start parts.dropLast).bind fun p =>
        if last = "." then .ok (.unnamed p)
        else if last = ".." then .ok (.unnamed p.dropLast)
        else if longestName < last.utf8ByteSize then .error .nameTooLong
        else .ok (.named p last (text.endsWith "/"))

/-- What there is at a path. -/
def entryAt (s : Store) (cwd : Place) (text : String) : Except IoFault Entry :=
  (s.locate cwd text).bind fun
    | .unnamed _ => .ok .directory
    | .named p name slash =>
      match s.get? (p ++ [name]), slash with
      | none, _ => .error .notFound
      | some (.file ..), true => .error .notDirectory
      | some e, _ => .ok e

/-- Whether there is a regular file at a path. -/
def isFile (s : Store) (cwd : Place) (text : String) : Bool :=
  match s.entryAt cwd text with
  | .ok (.file ..) => true
  | _ => false

/-- The text of a file. -/
def readText (s : Store) (cwd : Place) (text : String) : Except IoFault String :=
  (s.entryAt cwd text).bind fun
    | .directory => .error .isDirectory
    | .file content _ =>
      match String.fromUTF8? content with
      | some t => .ok t
      | none => .error .notText

/-- The place of a path, its last name included. -/
def placeOf (s : Store) (cwd : Place) (p : Path) : Except IoFault Place :=
  s.follow (if p.absolute then [] else cwd) p.names

end Store

end Retag.Files
