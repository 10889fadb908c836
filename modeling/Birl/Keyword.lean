import Birl.Text.Case
import Birl.Text.Normal

/-!
# Folding of keywords

Keywords are recognised without regard to accents and case, and a question mark at the end of a
word does not count. Names of variables and functions are never folded.
-/

namespace Birl.Keyword

/-- The form of a word under which keywords are compared: accents removed, upper case, without
question marks at the end. -/
def fold (word : Text) : Text :=
  let bare := (Normal.decomposed word.chars).filter fun c => !Character.isNonspacing c
  (Text.ofChars ((Normal.composed bare).map Character.toUpper)).dropRightWhile (· == '?'.toUInt8)

end Birl.Keyword
