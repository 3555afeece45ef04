/-
Settings: where the output goes and which template is used, unless the command line
says so. They are read from the first settings file there is, the one of the working
directory or that of the home directory; the files are never merged. A file that
cannot be read counts as one without settings.
-/
import Retag.Settings.Document
import Retag.Files.Path
import Retag.Log.Event

namespace Retag

open Files (Store Place)

structure Settings where
  output : Option String
  template : Option String
  deriving DecidableEq, Repr

namespace Settings

def empty : Settings := ⟨none, none⟩

/-- The settings that keys and strings make; every key is that of a setting, and
none comes twice. -/
def ofEntries (entries : List (String × String)) : Option Settings :=
  let keys := entries.map (·.1)
  if decide keys.Nodup && keys.all (["output", "template"].contains ·) then
    some ⟨entries.lookup "output", entries.lookup "template"⟩
  else none

def read (text : String) : Option Settings := (readDocument text).bind ofEntries

/-- The settings file of the working directory. -/
def projectFile : String := "./.tagsync.toml"

/-- The settings file of a home directory. -/
def userFile (home : String) : String := Files.join (Files.join home ".config") "tagsync.toml"

/-- The places of settings files, the first to be looked at first. -/
def candidates (home : Option String) : List String := projectFile :: (home.map userFile).toList

/-- The settings file in use. -/
def file? (s : Store) (cwd : Place) (home : Option String) : Option String :=
  (candidates home).find? (s.isFile cwd)

/-- The settings in a file, and what is logged of it. -/
def load (s : Store) (cwd : Place) (path : String) : Settings × Log.Event :=
  match s.readText cwd path with
  | .error _ => (empty, .settingsUnreadable path)
  | .ok text =>
    match read text with
    | none => (empty, .settingsInvalid path)
    | some settings => (settings, .settingsUsed path)

/-- The settings in use, and what is logged of them. -/
def current (s : Store) (cwd : Place) (home : Option String) : Settings × List Log.Event :=
  match file? s cwd home with
  | some path =>
    let (settings, event) := load s cwd path
    (settings, [event])
  | none => (empty, [])

/-- A path as a setting gives it: behind a tilde and a slash it is one below the
home directory, if there is one. -/
def expand (home : Option String) (path : String) : String :=
  match path.toList, home with
  | '~' :: '/' :: rest, some home => Files.join home (String.ofList rest)
  | _, _ => path

/-- The output unless something else says so. -/
def defaultOutput : String := "update_tags_gen.rs"

/-- The path of the output: the given one, else that of the settings, else the
default. -/
def outputPath (settings : Settings) (home given : Option String) : String :=
  (given.or (settings.output.map (expand home))).getD defaultOutput

/-- The path of the template, if it is not the built-in one: the given one, else
that of the settings. -/
def templatePath (settings : Settings) (home given : Option String) : Option String :=
  given.or (settings.template.map (expand home))

end Settings

end Retag
