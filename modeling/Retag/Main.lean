/-
The program on a real file system. What a run looks at is read into a store, the run
is made on it, and what it left there is written back. Modes cannot be read here: a
file that is there is written in place and so keeps its mode.
-/
import Retag.Command.Run

namespace Retag.Main

open Files (Store Place Entry)

def pathOf (p : Place) : String := "/" ++ String.intercalate "/" p

/-- What there is at a name in a directory. What can be opened but is of no type to
be read from is a directory. -/
def entryAt (p : Place) : IO (Option Entry) := do
  match ← (IO.FS.readBinFile (pathOf p)).toBaseIO with
  | .ok content => return some (.file content Files.newFileMode)
  | .error (.inappropriateType ..) => return some .directory
  | .error _ => return none

/-- Reads the entries on the way from a place along names. -/
def readAlong (s : Store) (p : Place) : List String → IO Store
  | [] => return s
  | "." :: names => readAlong s p names
  | ".." :: names => readAlong s p.dropLast names
  | name :: names => do
    let q := p ++ [name]
    if s.isDirectory p then
      match ← entryAt q with
      | some e => readAlong (s.put q e) q names
      | none => return s
    else return s

/-- Reads the entries on the way along a path. -/
def readPath (s : Store) (cwd : Place) (path : String) : IO Store :=
  readAlong s (if Files.isAbsolute path then [] else cwd) (Files.parts path)

def readPaths (s : Store) (cwd : Place) (paths : List String) : IO Store :=
  paths.foldlM (readPath · cwd) s

/-- The template and the output of a run. -/
def pathsOf (w : Command.World) (args : List String) : List String :=
  let settings := (Settings.current w.store w.cwd w.home).1
  match Command.read w.environment args with
  | .ok ⟨.generate output template, _⟩ =>
    settings.outputPath w.home output :: (settings.templatePath w.home template).toList
  | .ok ⟨.render _ template, _⟩ => (settings.templatePath w.home template).toList
  | _ => []

/-- Writes back what is new or differs, directories first. -/
def writeBack (before after : Store) : IO Unit := do
  let changed := after.entries.filter fun (p, e) => before.get? p != some e
  for (p, e) in changed do
    if e = .directory then IO.FS.createDirAll (pathOf p)
  for (p, e) in changed do
    match e with
    | .directory => pure ()
    | .file content _ =>
      if (before.get? p).isSome then IO.FS.writeBinFile (pathOf p) content
      else
        let temporary := pathOf (p.dropLast ++ [after.freshName []])
        IO.FS.writeBinFile temporary content
        IO.FS.rename temporary (pathOf p)

/-- The variables that a run may look at. -/
def readEnvironment : IO Command.Environment := do
  let names := ["HOME", "RUST_LOG", Command.outputVariable, "NO_COLOR", "CLICOLOR_FORCE"]
  let values ← names.mapM fun name => return (← IO.getEnv name).map (name, ·)
  return values.filterMap id

/-- Whether a variable is set and switches something on. -/
def isOn (env : Command.Environment) (name : String) : Bool :=
  match env.lookup name with
  | some value => value != "" && value != "0"
  | none => false

end Retag.Main

open Retag in
def main (args : List String) : IO UInt32 := do
  let env ← Main.readEnvironment
  let cwd := Files.parts (← IO.currentDir).toString
  let terminal ← (← IO.getStdout).isTty
  let color := !Main.isOn env "NO_COLOR" && (Main.isOn env "CLICOLOR_FORCE" || terminal)
  let store ← Main.readPath Files.Store.empty [] (Main.pathOf cwd)
  let store ← Main.readPaths store cwd (Settings.candidates (env.lookup "HOME"))
  let store ← Main.readPaths store cwd (Main.pathsOf ⟨store, cwd, env, color⟩ args)
  let o := Command.run ⟨store, cwd, env, color⟩ args
  Main.writeBack store o.store
  for e in o.events do
    IO.eprintln (e.level.name ++ " " ++ e.target ++ ": " ++ e.text)
  IO.print o.output
  match o.complaint with
  | some c => IO.eprint (c.written color)
  | none => pure ()
  return UInt32.ofNat o.exitCode
