import Birl.Text

/-!
# Names of source files
-/

namespace Birl.Source

def extensions : List Text := [".birl", ".bambam"]

def hasExtension (path : Text) : Bool := extensions.any path.endsWith

def trimExtension (path : Text) : Text :=
  match extensions.find? path.endsWith with
  | some ending => path.dropSuffix ending
  | none => path

end Birl.Source
