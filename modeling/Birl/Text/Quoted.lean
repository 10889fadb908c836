import Birl.Character.Blank
import Birl.Character.Printable
import Birl.Text.Rune

/-!
# Quoted texts

How a text or a character is shown inside a message: in quotes, printable characters as they are,
everything else as an escape. A byte that belongs to no character is shown by its number.
-/

namespace Birl

namespace Quoted

/-- The lower-case hexadecimal digits of `n`, with zeros in front up to `width`. -/
def hex (width n : Nat) : List Char :=
  let digits := Nat.toDigits 16 n
  List.replicate (width - digits.length) '0' ++ digits

/-- The escape of a character that is not shown as it is. -/
def escapeChar (c : Char) : List Char :=
  match c.toNat with
  | 7 => ['\\', 'a']
  | 8 => ['\\', 'b']
  | 12 => ['\\', 'f']
  | 10 => ['\\', 'n']
  | 13 => ['\\', 'r']
  | 9 => ['\\', 't']
  | 11 => ['\\', 'v']
  | n =>
    if n < 0x20 || n == 0x7F then '\\' :: 'x' :: hex 2 n
    else if n < 0x10000 then '\\' :: 'u' :: hex 4 n
    else '\\' :: 'U' :: hex 8 n

/-- A character between quotes of the kind `mark`. -/
def showChar (mark c : Char) : List Char :=
  if c == mark || c == '\\' then ['\\', c]
  else if Character.isPrintable c then [c]
  else escapeChar c

def showRune (mark : Char) (r : Rune) : List Char :=
  if r.isStray then '\\' :: 'x' :: hex 2 (r.bytes.headD 0).toNat else showChar mark r.char

end Quoted

namespace Text

def quoted (t : Text) : Text :=
  ofChars ('"' :: t.runes.flatMap (Quoted.showRune '"') ++ ['"'])

def quotedChar (c : Char) : Text := ofChars ('\'' :: Quoted.showChar '\'' c ++ ['\''])

/-- Without the white space at both ends. -/
def trim (t : Text) : Text :=
  let blank := fun r : Rune => Character.isBlank r.char
  ofRunes (((t.runes.dropWhile blank).reverse.dropWhile blank).reverse)

end Text
end Birl
