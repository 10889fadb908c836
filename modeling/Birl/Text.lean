/-!
# Byte text

Program text, names, values and messages are byte sequences. Nothing requires them to be valid
UTF-8; characters are a view of the bytes (`Birl.Text.Rune`), never the representation.
-/

namespace Birl

structure Text where
  bytes : List UInt8
  deriving DecidableEq, Repr, Inhabited

namespace Text

def empty : Text := ⟨[]⟩

instance : EmptyCollection Text := ⟨empty⟩

instance : Append Text := ⟨fun s t => ⟨s.bytes ++ t.bytes⟩⟩

@[simp] theorem bytes_append (s t : Text) : (s ++ t).bytes = s.bytes ++ t.bytes := rfl

def ofChar (c : Char) : Text := ⟨String.utf8EncodeChar c⟩

def ofChars (cs : List Char) : Text := ⟨cs.flatMap String.utf8EncodeChar⟩

def ofString (s : String) : Text := ofChars s.toList

instance : Coe String Text := ⟨ofString⟩

def ofNat (n : Nat) : Text := ofChars (Nat.toDigits 10 n)

def ofInt : Int → Text
  | .ofNat n => ofNat n
  | .negSucc n => ⟨'-'.toUInt8 :: (ofNat (n + 1)).bytes⟩

/-- Number of bytes. -/
def length (t : Text) : Nat := t.bytes.length

def isEmpty (t : Text) : Bool := t.bytes.isEmpty

def concat (ts : List Text) : Text := ⟨ts.flatMap Text.bytes⟩

def join (separator : Text) : List Text → Text
  | [] => empty
  | [t] => t
  | t :: ts => t ++ separator ++ join separator ts

def replicate (n : Nat) (t : Text) : Text := concat (List.replicate n t)

/-- Pieces between occurrences of a byte; a text without it is one piece. -/
def splitBytes (sep : UInt8) : List UInt8 → List (List UInt8)
  | [] => [[]]
  | b :: rest =>
    if b = sep then [] :: splitBytes sep rest
    else match splitBytes sep rest with
      | [] => [[b]]
      | piece :: pieces => (b :: piece) :: pieces

/-- Replaces every carriage return that a line feed follows, with it, by the line feed. -/
def unixBytes : List UInt8 → List UInt8
  | [] => []
  | [b] => [b]
  | b :: c :: rest => if b = 13 ∧ c = 10 then 10 :: unixBytes rest else b :: unixBytes (c :: rest)

/-- The lines of a source: `\r\n` counts as `\n`, and a final `\n` opens a last, empty line. -/
def lines (t : Text) : List Text := (splitBytes 10 (unixBytes t.bytes)).map Text.mk

def dropRightWhile (p : UInt8 → Bool) (t : Text) : Text :=
  ⟨(t.bytes.reverse.dropWhile p).reverse⟩

/-- Without the line feeds and carriage returns at the end. -/
def chomp (t : Text) : Text := t.dropRightWhile fun b => b == 10 || b == 13

def endsWith (t suffix : Text) : Bool := suffix.bytes.isSuffixOf t.bytes

def startsWith (t start : Text) : Bool := start.bytes.isPrefixOf t.bytes

def dropSuffix (t suffix : Text) : Text :=
  if t.endsWith suffix then ⟨t.bytes.take (t.length - suffix.length)⟩ else t

def padLeft (fill : Char) (width : Nat) (t : Text) : Text :=
  replicate (width - t.length) (ofChar fill) ++ t

def padRight (width : Nat) (t : Text) : Text :=
  t ++ replicate (width - t.length) (ofChar ' ')

end Text
end Birl
