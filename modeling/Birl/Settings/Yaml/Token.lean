import Birl.Settings.Yaml.Scalar

/-!
# YAML tokens

The tokens of a file. Block collections are marked by columns alone; the marks of their starts and
ends are tokens too, so that a reader of tokens needs no columns. A key is known for one only by the
colon after it, and the tokens that announce it then go in front of it.
-/

namespace Birl.Yaml

inductive Token where
  | version (major minor : Nat)
  /-- What a handle in front of a tag stands for. -/
  | tagHandle (handle meaning : Text)
  | documentStart
  | documentEnd
  | fileEnd
  | blockList
  | blockTable
  | blockEnd
  | flowList
  | flowListEnd
  | flowTable
  | flowTableEnd
  | dash
  | comma
  | key
  | value
  | anchor (name : Text)
  | reference (name : Text)
  | tag (handle name : Text)
  | scalar (plain : Bool) (text : Text)
  deriving DecidableEq, Repr

/-! ## Tags and directives -/

def escapedByte? (c : Cursor) : Option (UInt8 × Cursor) :=
  match c.rest with
  | '%' :: a :: b :: _ =>
    (Reading.digitsIn? 16 (Text.ofChars [a, b]).bytes).map fun n => (n.toUInt8, c.past 3)
  | _ => none

def byteCount? (lead : UInt8) : Option Nat :=
  if lead < 0x80 then some 1
  else if 0xC0 ≤ lead && lead < 0xE0 then some 2
  else if 0xE0 ≤ lead && lead < 0xF0 then some 3
  else if 0xF0 ≤ lead && lead < 0xF8 then some 4
  else none

def continuation? : (count : Nat) → Cursor → Option (List UInt8 × Cursor)
  | 0, c => some ([], c)
  | count + 1, c => do
    let (b, c) ← escapedByte? c
    if !Rune.isContinuation b then none
    else
      let (bs, c) ← continuation? count c
      return (b :: bs, c)

def isTagCharacter (c : Char) : Bool := isWord c || ";/?:@&=+$,.!~*'()[]%".toList.contains c

def tagName? : (fuel : Nat) → Cursor → Option (List UInt8 × Cursor)
  | 0, _ => none
  | fuel + 1, c =>
    match c.next? with
    | none => some ([], c)
    | some x =>
      let taken? :=
        if x == '%' then do
          let (lead, c) ← escapedByte? c
          let (bs, c) ← continuation? ((← byteCount? lead) - 1) c
          return (lead :: bs, c)
        else some ((Text.ofChar x).bytes, c.step)
      if !isTagCharacter x then some ([], c)
      else do
        let (bs, c) ← taken?
        let (more, c) ← tagName? fuel c
        return (bs ++ more, c)

/-- The handle in front of a tag: an exclamation mark, a name, and another mark if one follows. -/
def handle (c : Cursor) : List Char × Cursor :=
  let (name, after) := c.step.takeWhile isWord
  if after.at? '!' then ('!' :: name ++ ['!'], after.step) else ('!' :: name, after)

/-- Whether a handle is complete, and not the start of a tag. -/
def isHandle (cs : List Char) : Bool := 1 < cs.length && cs.getLast? == some '!'

/-- A tag at its exclamation mark: in angle brackets, after a handle, or with the handle of a single
mark. A mark alone is a tag without a handle. -/
def tag? (c : Cursor) : Option (Token × Cursor) := do
  let fuel := c.rest.length + 1
  let (token, c) ←
    if c.rest.take 2 == ['!', '<'] then do
      let (name, c) ← tagName? fuel (c.past 2)
      if name.isEmpty || !c.at? '>' then none else some (Token.tag .empty ⟨name⟩, c.step)
    else do
      let (start, c) := handle c
      let (name, c) ← tagName? fuel c
      if isHandle start then
        if name.isEmpty then none else some (Token.tag (Text.ofChars start) ⟨name⟩, c)
      else
        let name := (Text.ofChars (start.drop 1)).bytes ++ name
        some (if name.isEmpty then .tag .empty "!" else .tag "!" ⟨name⟩, c)
  if atGap c.rest then some (token, c) else none

def versionPart? (c : Cursor) : Option (Nat × Cursor) :=
  let (digits, c) := c.takeWhile Char.isDigit
  if 2 < digits.length then none
  else (Reading.digitsIn? 10 (Text.ofChars digits).bytes).map fun n => (n, c)

def version? (c : Cursor) : Option (Token × Cursor) := do
  let (major, c) ← versionPart? c
  if !c.at? '.' then none
  else
    let (minor, c) ← versionPart? c.step
    return (.version major minor, c)

def tagHandle? (c : Cursor) : Option (Token × Cursor) := do
  let (start, after) := handle c
  if !c.at? '!' || !(isHandle start || start == ['!']) || !after.next?.any isBlank then none
  else
    let (meaning, c) ← tagName? (after.rest.length + 1) (after.skipWhile isBlank)
    if meaning.isEmpty || !atGap c.rest then none
    else return (.tagHandle (Text.ofChars start) ⟨meaning⟩, c)

def directive? (c : Cursor) : Option (Token × Cursor) := do
  let (name, after) := c.step.takeWhile isWord
  let c := after.skipWhile isBlank
  let (token, c) ←
    if !atGap after.rest then none
    else if name = "YAML".toList then version? c
    else if name = "TAG".toList then tagHandle? c
    else none
  let c := c.skipLineComment.skipWhile isBlank
  if c.isEnd || c.next?.any isBreak then some (token, c.step) else none

def anchorName? (c : Cursor) : Option (Text × Cursor) :=
  let (name, c) := c.step.takeWhile isWord
  if name.isEmpty || !(atGap c.rest || c.next?.any "?:,]\x7d%@`".toList.contains) then none
  else some (Text.ofChars name, c)

/-! ## Scanning -/

/-- A token that may turn out to start a key: its number, its place, and whether a key must stand
there. -/
structure KeyStart where
  number : Nat
  required : Bool
  index : Nat
  line : Nat
  column : Nat

/-- A key and its colon stand on one line and not too far apart. -/
def KeyStart.isLive (k : KeyStart) (c : Cursor) : Bool :=
  k.line == c.line && c.index ≤ k.index + 1024

structure Scan where
  cursor : Cursor
  /-- The tokens so far, the last one first. -/
  tokens : List Token := []
  count : Nat := 0
  /-- The columns of the open block collections, the innermost first. -/
  columns : List Nat := []
  /-- Whether a key or a block collection may start here. -/
  fresh : Bool := true
  keyStart? : Option KeyStart := none
  /-- What may start a key around each open flow collection, the innermost first. -/
  outer : List (Option KeyStart) := []

namespace Scan

def maxDepth : Nat := 10000

def isFlow (s : Scan) : Bool := !s.outer.isEmpty

/-- The column that the members of the innermost block collection are right of. -/
def indent (s : Scan) : Nat := match s.columns with
  | column :: _ => column + 1
  | [] => 0

def emit (s : Scan) (t : Token) : Scan := { s with tokens := t :: s.tokens, count := s.count + 1 }

def insert (s : Scan) (number : Nat) (t : Token) : Scan :=
  let after := s.count - number
  { s with
    tokens := s.tokens.take after ++ t :: s.tokens.drop after
    count := s.count + 1 }

def take (s : Scan) (t : Token) (length : Nat) : Scan :=
  { s.emit t with cursor := s.cursor.past length }

/-- Nothing before this can start a key any more. -/
def dropKey? (s : Scan) : Option Scan :=
  if s.keyStart?.any (·.required) then none else some { s with keyStart? := none }

/-- The next token may start a key, if keys are allowed here. -/
def markKey? (s : Scan) : Option Scan :=
  if !s.fresh then some s
  else do
    let s ← s.dropKey?
    let c := s.cursor
    return { s with
      keyStart? := some
        { number := s.count
          required := !s.isFlow && s.columns.head? == some c.column
          index := c.index
          line := c.line
          column := c.column } }

/-- Opens a block collection at a column, unless it is open, with its token at a place among the
others. -/
def openBlock? (s : Scan) (column number : Nat) (t : Token) : Option Scan :=
  if s.isFlow || column < s.indent then some s
  else if maxDepth ≤ s.columns.length then none
  else some { s.insert number t with columns := column :: s.columns }

def closeBlocks (s : Scan) (column : Nat) : Scan :=
  if s.isFlow then s
  else
    let closed := s.columns.takeWhile (column < ·)
    closed.foldl (fun s _ => s.emit .blockEnd) { s with columns := s.columns.drop closed.length }

def closeAllBlocks (s : Scan) : Scan :=
  if s.isFlow then s
  else s.columns.foldl (fun s _ => s.emit .blockEnd) { s with columns := [] }

def documentMark? (s : Scan) (t : Token) (length : Nat) : Option Scan := do
  let s ← s.closeAllBlocks.dropKey?
  return { s.take t length with fresh := false }

def openFlow? (s : Scan) (t : Token) : Option Scan := do
  let s ← s.markKey?
  if maxDepth ≤ s.outer.length then none
  else return { s.take t 1 with keyStart? := none, outer := s.keyStart? :: s.outer, fresh := true }

def closeFlow? (s : Scan) (t : Token) : Option Scan := do
  let s ← s.dropKey?
  let s := match s.outer with
    | key? :: outer => { s with keyStart? := key?, outer }
    | [] => s
  return { s.take t 1 with fresh := false }

def comma? (s : Scan) : Option Scan := do
  let s ← s.dropKey?
  return { s.take .comma 1 with fresh := true }

def dash? (s : Scan) : Option Scan := do
  if !s.isFlow && !s.fresh then none
  else
    let s ← s.openBlock? s.cursor.column s.count .blockList
    let s ← s.dropKey?
    return { s.take .dash 1 with fresh := true }

def longKey? (s : Scan) : Option Scan := do
  if !s.isFlow && !s.fresh then none
  else
    let s ← s.openBlock? s.cursor.column s.count .blockTable
    let s ← s.dropKey?
    return { s.take .key 1 with fresh := !s.isFlow }

/-- The colon after a key with a mark of its own, or after none. -/
def longValue? (s : Scan) : Option Scan := do
  if !s.isFlow && !s.fresh then none
  else
    let s ← s.openBlock? s.cursor.column s.count .blockTable
    return { s.take .value 1 with keyStart? := none, fresh := !s.isFlow }

/-- A colon. What may start a key before it, starts one. -/
def value? (s : Scan) : Option Scan :=
  match s.keyStart? with
  | none => s.longValue?
  | some k =>
    if k.isLive s.cursor then do
      let s ← (s.insert k.number .key).openBlock? k.column k.number .blockTable
      return { s.take .value 1 with keyStart? := none, fresh := false }
    else if k.required then none
    else s.longValue?

def atom? (s : Scan) (read : Cursor → Option (Token × Cursor)) : Option Scan := do
  let s ← s.markKey?
  let (token, cursor) ← read s.cursor
  return { s.emit token with cursor, fresh := false }

def plainScalar? (s : Scan) : Option Scan := do
  let s ← s.markKey?
  let (text, ended, cursor) ← plain? s.isFlow s.indent s.cursor
  let cursor := if ended then cursor else cursor.skipLineComment
  return { s.emit (.scalar true text) with cursor, fresh := ended }

def blockScalar? (s : Scan) : Option Scan := do
  let s ← s.dropKey?
  let (text, cursor) ← block? s.indent s.cursor
  return { s.emit (.scalar false text) with cursor, fresh := true }

/-- A comment on the line of the last token belongs to it. -/
def skipComment (s : Scan) : Scan := { s with cursor := s.cursor.skipLineComment }

def token? (s : Scan) (mark : Char) (alone : Bool) : Option Scan :=
  let named (token : Text → Token) (c : Cursor) := (anchorName? c).map fun (n, c) => (token n, c)
  let quoted (c : Cursor) := (quoted? c).map fun (t, c) => (Token.scalar false t, c)
  match mark with
  | '[' => (s.openFlow? .flowList).map skipComment
  | '{' => (s.openFlow? .flowTable).map skipComment
  | ']' => (s.closeFlow? .flowListEnd).map skipComment
  | '}' => (s.closeFlow? .flowTableEnd).map skipComment
  | ',' => s.comma?.map skipComment
  | '&' => (s.atom? (named .anchor)).map skipComment
  | '*' => (s.atom? (named .reference)).map skipComment
  | '!' => (s.atom? tag?).map skipComment
  | '\'' => (s.atom? quoted).map skipComment
  | '"' => (s.atom? quoted).map skipComment
  | _ =>
    if mark == '-' && alone then s.dash?
    else if mark == '?' && (s.isFlow || alone) then s.longKey?.map skipComment
    else if mark == ':' && (s.isFlow || alone) then s.value?.map skipComment
    else if (mark == '|' || mark == '>') && !s.isFlow then s.blockScalar?
    else if startsPlain s.isFlow s.cursor.rest then s.plainScalar?
    else none

/-- Scans one more token, with the ends of block collections before it and the start of one around
it. -/
def step? (s : Scan) : Option Scan :=
  let (fresh, cursor) := s.cursor.skipGap s.isFlow (s.cursor.rest.length + 1) s.fresh
  let s := { s with fresh, cursor }.closeBlocks cursor.column
  match cursor.rest with
  | [] => s.documentMark? .fileEnd 0
  | mark :: rest =>
    if cursor.column == 0 && mark == '%' then do
      let s ← s.closeAllBlocks.dropKey?
      let (token, cursor) ← directive? cursor
      return { s.emit token with cursor, fresh := false }
    else if cursor.atDocumentMark '-' then s.documentMark? .documentStart 3
    else if cursor.atDocumentMark '.' then s.documentMark? .documentEnd 3
    else s.token? mark (atGap rest)

/-- The tokens that can be read before the rest of a file is found malformed. The reader looks two
tokens ahead, and as far as it takes to know whether a token starts a key. -/
def beforeFailure (s : Scan) : List Token :=
  let waiting := (s.keyStart? :: s.outer).filterMap fun key? =>
    key?.bind fun k => if k.isLive s.cursor then some k.number else none
  s.tokens.reverse.take (waiting.foldl min (s.count - 2))

/-- All tokens of a file, or those before what is malformed. -/
def run : (fuel : Nat) → Scan → List Token
  | 0, s => s.beforeFailure
  | fuel + 1, s =>
    match s.step? with
    | none => s.beforeFailure
    | some next => if next.tokens.head? == some .fileEnd then next.tokens.reverse else run fuel next

end Scan

/-- The tokens of a file. Those of a malformed file do not reach its end. -/
def tokens (cs : List Char) : List Token := Scan.run (cs.length + 2) { cursor := { rest := cs } }

end Birl.Yaml
