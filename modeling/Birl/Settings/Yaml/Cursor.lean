import Birl.Text.Rune

/-!
# Places in a YAML file

The characters of a file, and a cursor over them. Lines and columns carry the structure of a file,
so a cursor knows both.
-/

namespace Birl.Yaml

/-! ## Characters -/

def isBlank (c : Char) : Bool := c == ' ' || c == '\t'

/-- The line ends that `unifyBreaks` leaves. -/
def isBreak (c : Char) : Bool := c == '\n' || c == '\u2028' || c == '\u2029'

def isGap (c : Char) : Bool := isBlank c || isBreak c

def isWord (c : Char) : Bool := c.isAlphanum || c == '_' || c == '-'

def isAllowed (c : Char) : Bool :=
  let n := c.toNat
  n == 0x09 || n == 0x0A || n == 0x0D || (0x20 ≤ n && n ≤ 0x7E) || n == 0x85 ||
    (0xA0 ≤ n && n ≤ 0xD7FF) || (0xE000 ≤ n && n ≤ 0xFFFD) || 0x10000 ≤ n

/-- Every line end as a line feed, but for the two that Unicode has of its own. -/
def unifyBreaks : List Char → List Char
  | [] => []
  | '\r' :: '\n' :: cs => '\n' :: unifyBreaks cs
  | c :: cs => (if c == '\r' || c == '\u0085' then '\n' else c) :: unifyBreaks cs

def ofUtf8? (bs : List UInt8) : Option (List Char) :=
  let t : Text := ⟨bs⟩
  if t.runes.any Rune.isStray then none else some t.chars

/-- The 16-bit units of bytes, with the high byte of each first or last. -/
def units? (highFirst : Bool) : List UInt8 → Option (List Nat)
  | [] => some []
  | [_] => none
  | b :: c :: bs =>
    let (high, low) := if highFirst then (b, c) else (c, b)
    (units? highFirst bs).map ((high.toNat * 256 + low.toNat) :: ·)

/-- The characters of 16-bit units; two units make a character beyond the first 65536. -/
def ofUnits? : List Nat → Option (List Char)
  | [] => some []
  | [u] => if u < 0xD800 || 0xE000 ≤ u then some [Char.ofNat u] else none
  | u :: v :: us =>
    if u < 0xD800 || 0xE000 ≤ u then (ofUnits? (v :: us)).map (Char.ofNat u :: ·)
    else if u < 0xDC00 && 0xDC00 ≤ v && v < 0xE000 then
      (ofUnits? us).map (Char.ofNat (0x10000 + (u - 0xD800) * 0x400 + (v - 0xDC00)) :: ·)
    else none

/-- The characters of a file. The mark in front tells the encoding, which is UTF-8 without one. -/
def characters? (t : Text) : Option (List Char) :=
  let decoded := match t.bytes with
    | 0xFF :: 0xFE :: bs => (units? false bs).bind ofUnits?
    | 0xFE :: 0xFF :: bs => (units? true bs).bind ofUnits?
    | 0xEF :: 0xBB :: 0xBF :: bs => ofUtf8? bs
    | bs => ofUtf8? bs
  decoded.bind fun cs => if cs.all isAllowed then some (unifyBreaks cs) else none

/-- Whether a blank, a line end or the end of the file comes next. -/
def atGap : List Char → Bool
  | [] => true
  | c :: _ => isGap c

/-! ## Cursors -/

/-- A place in a file: the characters from there on, and how many stand before it in the file and on
its line. -/
structure Cursor where
  rest : List Char
  index : Nat := 0
  line : Nat := 0
  column : Nat := 0
  deriving Inhabited

namespace Cursor

def isEnd (c : Cursor) : Bool := c.rest.isEmpty

def next? (c : Cursor) : Option Char := c.rest.head?

def at? (c : Cursor) (mark : Char) : Bool := c.next? == some mark

def step (c : Cursor) : Cursor :=
  match c.rest with
  | [] => c
  | x :: xs =>
    if isBreak x then { rest := xs, index := c.index + 1, line := c.line + 1 }
    else { c with rest := xs, index := c.index + 1, column := c.column + 1 }

def past (c : Cursor) : Nat → Cursor
  | 0 => c
  | n + 1 => c.step.past n

/-- The characters of a class that come next, and the place after them. -/
def takeWhile (c : Cursor) (p : Char → Bool) : List Char × Cursor :=
  let taken := c.rest.takeWhile p
  (taken, c.past taken.length)

def skipWhile (c : Cursor) (p : Char → Bool) : Cursor := (c.takeWhile p).2

/-- Whether three hyphens or three points stand at the start of a line, which begin or end a
document. -/
def atDocumentMark (c : Cursor) (mark : Char) : Bool :=
  c.column == 0 && c.rest.take 3 == [mark, mark, mark] && atGap (c.rest.drop 3)

def atDocumentEnd (c : Cursor) : Bool := c.atDocumentMark '-' || c.atDocumentMark '.'

/-! ## Comments -/

def skipLine (c : Cursor) : Cursor := c.skipWhile fun x => !isBreak x

/-- Passes a comment, and those that follow with nothing but a gap between. -/
def skipComments : (fuel : Nat) → Cursor → Cursor
  | 0, c => c
  | fuel + 1, c =>
    let c := c.skipLine
    let next := c.skipWhile isGap
    if next.at? '#' then skipComments fuel next else c

def skipLineComment (c : Cursor) : Cursor :=
  let next := c.skipWhile isBlank
  if next.at? '#' then next.skipLine else c

/-- Passes blanks, comments and line ends up to a token. `fresh` tells whether only indentation
stands before the cursor on its line, or what counts as such: a tab does not indent. Inside flow
collections there is no indentation. -/
def skipGap (flow : Bool) : (fuel : Nat) → (fresh : Bool) → Cursor → Bool × Cursor
  | 0, fresh, c => (fresh, c)
  | fuel + 1, fresh, c =>
    let c := if c.column == 0 && c.at? '\uFEFF' then c.step else c
    let c := c.skipWhile fun x => x == ' ' || (x == '\t' && (flow || !fresh))
    let c := if c.at? '#' then c.skipComments c.rest.length else c
    if c.next?.any isBreak then skipGap flow fuel (fresh || !flow) c.step else (fresh, c)

end Cursor
end Birl.Yaml
