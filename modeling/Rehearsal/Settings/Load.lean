import Rehearsal.Settings.Environment
import Rehearsal.Settings.Files
import Rehearsal.Toml

/-!
# Loading of settings

Settings come from their defaults, from a file and from the environment, the later over the earlier.
The file is the one that was asked for, or else the one that the environment names, or else the
first that is found in the usual places; if there is none, that is no error.
-/

namespace Rehearsal

/-- Where files with settings may be. -/
structure FilePlaces where
  /-- The working directory. -/
  working : FileTree := {}
  /-- The home directory of the user. -/
  home : FileTree := {}
  /-- The directory of the user's settings. -/
  configHome : FileTree := {}
  /-- The directory of settings for all users. -/
  configDirs : FileTree := {}
  /-- What paths lead to that do not stay in the working directory. -/
  elsewhere : String → Option FileItem := fun _ => none
  deriving Inhabited

namespace FilePlaces

/-- The two names that a file with settings may have in a directory for settings. -/
def names (tree : FileTree) (directory : List String) : List (FileTree × List String) :=
  [(tree, directory ++ ["stepwright", "stepwright.toml"]),
    (tree, directory ++ [".stepwright.toml"])]

/-- The usual places of a file, in the order in which they are tried. -/
def candidates (places : FilePlaces) : List (FileTree × List String) :=
  names places.configHome [] ++ names places.configDirs [] ++ names places.home [".config"] ++
    [(places.home, [".stepwright.toml"]), (places.working, [".stepwright.toml"])]

/-- What a written path leads to. -/
def find? (places : FilePlaces) (path : String) : Option FileItem :=
  places.working.find? path <|> places.elsewhere path

/-- The file, or what else is there, that settings are to be read from, with its path. -/
def chosen (places : FilePlaces) (env : Environment) (explicit : Option String) :
    Except SettingsError (Option (String × FileItem)) :=
  match explicit <|> env Variable.filePath with
  | some path =>
    match places.find? path with
    | some item => .ok (some (path, item))
    | none => .error (.fileNotFound path)
  | none =>
    .ok (places.candidates.findSome? fun (tree, path) =>
      (tree.item? path).map fun item => ("/".intercalate path, item))

/-- The layer that a file makes. -/
def layer (path : String) : FileItem → Except SettingsError Json
  | .directory | .unreadable => .error (.unreadable path)
  | .file text =>
    match Toml.parse? text with
    | some value => .ok value
    | none => .error (.malformed path)

end FilePlaces

/-- Loads settings and checks that they are usable. -/
def Settings.load (places : FilePlaces) (env : Environment) (explicit : Option String) :
    Except SettingsError Settings := do
  let defaults := Settings.toJson {}
  let fileLayers ← match ← places.chosen env explicit with
    | some (path, item) => do pure [← FilePlaces.layer path item]
    | none => pure []
  let environment ← env.layer
  let settings ← Settings.ofLayers (defaults :: fileLayers ++ [environment])
  settings.validate
  return settings

end Rehearsal
