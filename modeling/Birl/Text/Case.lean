import Birl.Character.Case
import Birl.Text.Rune

/-!
# Letter case of texts

`upper` and `lower` change characters one for one. `upperFull` follows the complete rules: a
character may become several. Bytes that belong to no character stay as they are under the complete
rules.
-/

namespace Birl.Text

open Character

def upper (t : Text) : Text := t.mapChars toUpper

def lower (t : Text) : Text := t.mapChars toLower

def recase (f : Char → List Char) (r : Rune) : List UInt8 :=
  if r.isStray then r.bytes else (ofChars (f r.char)).bytes

/-- Upper case by the complete rules. -/
def upperFull (t : Text) : Text := ⟨t.runes.flatMap (recase Character.upperFull)⟩

end Birl.Text
