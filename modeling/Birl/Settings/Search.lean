import Birl.Files
import Birl.Settings

/-!
# Finding the settings

Settings come from a file that the user names, or from the nearest directory with a settings file,
or are the defaults.
-/

namespace Birl.Settings

/-- The names of settings files; in one directory the first that exists counts. -/
def fileNames : List Text := ["birl.yaml", "birl.yml", "birl.toml"]

def inDirectory (directory name : Text) : Text :=
  if directory.endsWith "/" then directory ++ name else directory ++ "/" ++ name

def find? (files : Files) (directories : List Text) : Option Text :=
  directories.findSome? fun directory =>
    (fileNames.map (inDirectory directory)).find? files.exists

def load (files : Files) (path : Text) : Except Text Settings :=
  match files path with
  | .error e => .error ("reading config " ++ path ++ ": " ++ e.message path)
  | .ok content =>
    match parse path content with
    | .error e => .error (e.message path)
    | .ok settings => .ok settings

/-- The settings in force: those of the file that `explicit` names unless it is empty, else those of
the nearest directory that has any, the nearest directory coming first. -/
def resolve (files : Files) (explicit : Text) (directories : List Text) : Except Text Settings :=
  if !explicit.isEmpty then load files explicit
  else match find? files directories with
    | some path => load files path
    | none => .ok {}

end Birl.Settings
