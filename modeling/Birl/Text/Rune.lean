import Birl.Text

/-!
# Characters of a text

A rune is one step of reading a text from the left: the bytes of a character, or a single byte
that starts no character. The bytes of the runes, put together, are the text again.
-/

namespace Birl

/-- A character together with the bytes it was read from. -/
structure Rune where
  char : Char
  bytes : List UInt8
  deriving DecidableEq, Repr, Inhabited

namespace Rune

/-- The character that stands for a byte belonging to no character. -/
def replacement : Char := '\uFFFD'

/-- A byte that belongs to no character. -/
def stray (b : UInt8) : Rune := ⟨replacement, [b]⟩

def ofChar (c : Char) : Rune := ⟨c, String.utf8EncodeChar c⟩

def isStray (r : Rune) : Bool := r.char == replacement && r.bytes.length == 1

def isContinuation (b : UInt8) : Bool := 0x80 ≤ b && b ≤ 0xBF

/-- Bytes that may follow a lead byte: narrower than the continuation bytes where a wider range
would admit an overlong form, a surrogate or a number above U+10FFFF. -/
def isSecond (lead second : UInt8) : Bool :=
  if lead == 0xE0 then 0xA0 ≤ second && second ≤ 0xBF
  else if lead == 0xED then 0x80 ≤ second && second ≤ 0x9F
  else if lead == 0xF0 then 0x90 ≤ second && second ≤ 0xBF
  else if lead == 0xF4 then 0x80 ≤ second && second ≤ 0x8F
  else isContinuation second

def tailBits (b : UInt8) : Nat := b.toNat % 64

/-- The rune at the head of a text that starts with `b`. -/
def head (b : UInt8) (rest : List UInt8) : Rune :=
  if b < 0x80 then ⟨Char.ofNat b.toNat, [b]⟩
  else if 0xC2 ≤ b && b ≤ 0xDF then
    match rest with
    | b1 :: _ =>
      if isSecond b b1 then ⟨Char.ofNat (b.toNat % 32 * 64 + tailBits b1), [b, b1]⟩ else stray b
    | _ => stray b
  else if 0xE0 ≤ b && b ≤ 0xEF then
    match rest with
    | b1 :: b2 :: _ =>
      if isSecond b b1 && isContinuation b2 then
        ⟨Char.ofNat ((b.toNat % 16 * 64 + tailBits b1) * 64 + tailBits b2), [b, b1, b2]⟩
      else stray b
    | _ => stray b
  else if 0xF0 ≤ b && b ≤ 0xF4 then
    match rest with
    | b1 :: b2 :: b3 :: _ =>
      if isSecond b b1 && isContinuation b2 && isContinuation b3 then
        ⟨Char.ofNat (((b.toNat % 8 * 64 + tailBits b1) * 64 + tailBits b2) * 64 + tailBits b3),
          [b, b1, b2, b3]⟩
      else stray b
    | _ => stray b
  else stray b

/-- Runes of the bytes after the first `skip`, which belong to the rune before them. -/
def decodeSkipping : (skip : Nat) → List UInt8 → List Rune
  | _, [] => []
  | skip + 1, _ :: rest => decodeSkipping skip rest
  | 0, b :: rest =>
    let rune := head b rest
    rune :: decodeSkipping (rune.bytes.length - 1) rest

theorem head_bytes (b : UInt8) (rest : List UInt8) :
    ∃ taken, (head b rest).bytes = b :: taken ∧ taken <+: rest := by
  unfold head
  repeat' split
  all_goals simp [stray]

theorem flatMap_bytes_decodeSkipping (skip : Nat) (bs : List UInt8) :
    (decodeSkipping skip bs).flatMap Rune.bytes = bs.drop skip := by
  induction bs generalizing skip with
  | nil => simp [decodeSkipping]
  | cons b rest ih =>
    cases skip with
    | succ skip => simp [decodeSkipping, ih]
    | zero =>
      obtain ⟨taken, hb, hp⟩ := head_bytes b rest
      obtain ⟨more, rfl⟩ := hp
      simp [decodeSkipping, ih, hb]

end Rune

namespace Text

def runes (t : Text) : List Rune := Rune.decodeSkipping 0 t.bytes

/-- The characters of a text; a byte that belongs to none reads as U+FFFD. -/
def chars (t : Text) : List Char := t.runes.map Rune.char

def ofRunes (rs : List Rune) : Text := ⟨rs.flatMap Rune.bytes⟩

theorem ofRunes_runes (t : Text) : ofRunes t.runes = t := by
  simp [ofRunes, runes, Rune.flatMap_bytes_decodeSkipping]

/-- Number of characters, a byte that belongs to none counting as one. -/
def runeCount (t : Text) : Nat := t.runes.length

/-- The text as a string, unless it holds a byte that belongs to no character. -/
def toString? (t : Text) : Option String :=
  let rs := t.runes
  if rs.any Rune.isStray then none else some (String.ofList (rs.map Rune.char))

/-- The text as a string with U+FFFD for every byte that belongs to no character. -/
def toStringLossy (t : Text) : String := String.ofList t.chars

/-- Each character replaced by another; a byte that belongs to no character becomes U+FFFD. -/
def mapChars (f : Char → Char) (t : Text) : Text := ofChars (t.chars.map f)

end Text
end Birl
