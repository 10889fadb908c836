import Birl.Text

/-!
# Files

What reading a file can give. The library reads no files itself: whoever runs it hands it a view of
the files that are there.
-/

namespace Birl

inductive FileError where
  | missing
  /-- A part of the path before the last names something that is no directory. -/
  | notDirectory
  /-- The path names a directory. -/
  | isDirectory
  deriving DecidableEq, Repr, Inhabited

def FileError.message (path : Text) : FileError → Text
  | missing => "open " ++ path ++ ": no such file or directory"
  | notDirectory => "open " ++ path ++ ": not a directory"
  | isDirectory => "read " ++ path ++ ": is a directory"

abbrev Files := Text → Except FileError Text

def Files.exists (files : Files) (path : Text) : Bool :=
  match files path with
  | .ok _ | .error .isDirectory => true
  | .error _ => false

end Birl
