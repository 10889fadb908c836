import Birl.Number.Reading
import Birl.Settings.Yaml.Cursor

/-!
# The text of YAML scalars

Plain scalars, quoted ones and blocks of lines, each read from a cursor at its first character to
its text and the place after it.
-/

namespace Birl.Yaml

/-- What the line ends between two lines of a scalar come to: one is a blank, of several the first is
dropped. The line ends of Unicode are kept. -/
def folded (breaks : List Char) : List Char :=
  match breaks with
  | ['\n'] => [' ']
  | '\n' :: more => more
  | breaks => breaks

/-- What a gap inside a scalar comes to. -/
def foldGap (gap : List Char) : List Char :=
  if gap.any isBreak then folded (gap.filter isBreak) else gap

/-! ## Plain scalars -/

def isFlowMark (c : Char) : Bool :=
  c == ',' || c == '[' || c == ']' || c == '{' || c == '}' || c == '?'

def isIndicator (c : Char) : Bool := isFlowMark c || "-:#&*!|>'\"%@`".toList.contains c

def startsPlain (flow : Bool) : List Char → Bool
  | [] => false
  | c :: cs =>
    !(isGap c || isIndicator c) || (c == '-' && !atGap cs) ||
      (!flow && (c == '?' || c == ':') && !atGap cs)

def plainWord (flow : Bool) : List Char → List Char
  | [] => []
  | c :: cs =>
    if isGap c || (c == ':' && atGap cs) || (flow && isFlowMark c) then []
    else c :: plainWord flow cs

/-- Whether a tab stands left of `indent` on a line that starts in the gap. -/
def tabIndents (indent : Nat) : (column? : Option Nat) → List Char → Bool
  | _, [] => false
  | column?, c :: cs =>
    if isBreak c then tabIndents indent (some 0) cs
    else (c == '\t' && column?.any (· < indent)) || tabIndents indent (column?.map (· + 1)) cs

/-- A plain scalar from after `gap`: its characters, whether lines end after it, and the place after
what follows. It goes on as long as lines are indented by `indent`. -/
def plainFrom (flow : Bool) (indent : Nat) :
    (fuel : Nat) → (gap : List Char) → Cursor → Option (List Char × Bool × Cursor)
  | 0, _, _ => none
  | fuel + 1, gap, c =>
    let word := if c.atDocumentEnd || c.at? '#' then [] else plainWord flow c.rest
    if word.isEmpty then some ([], gap.any isBreak, c)
    else
      let text := foldGap gap ++ word
      let c := c.past word.length
      let (gap, after) := c.takeWhile isGap
      if gap.isEmpty then some (text, false, c)
      else if tabIndents indent none gap then none
      else if !flow && after.column < indent then some (text, true, after)
      else (plainFrom flow indent fuel gap after).map fun (more, rest) => (text ++ more, rest)

def plain? (flow : Bool) (indent : Nat) (c : Cursor) : Option (Text × Bool × Cursor) :=
  (plainFrom flow indent (c.rest.length + 1) [] c).map fun (cs, rest) => (Text.ofChars cs, rest)

/-! ## Quoted scalars -/

def escaped? : Char → Option Char
  | '0' => some '\x00'
  | 'a' => some '\x07'
  | 'b' => some '\x08'
  | 't' | '\t' => some '\t'
  | 'n' => some '\n'
  | 'v' => some '\x0b'
  | 'f' => some '\x0c'
  | 'r' => some '\r'
  | 'e' => some '\x1b'
  | ' ' => some ' '
  | '"' => some '"'
  | '\'' => some '\''
  | '/' => some '/'
  | '\\' => some '\\'
  | 'N' => some '\u0085'
  | '_' => some '\u00a0'
  | 'L' => some '\u2028'
  | 'P' => some '\u2029'
  | _ => none

def escapeWidth? : Char → Option Nat
  | 'x' => some 2
  | 'u' => some 4
  | 'U' => some 8
  | _ => none

def numbered? (digits : List Char) : Option Char :=
  match Reading.digitsIn? 16 (Text.ofChars digits).bytes with
  | some n => if n.isValidChar then some (Char.ofNat n) else none
  | none => none

/-- An escape after its backslash: the characters it stands for, and the place after it. An escaped
line end is dropped with the blanks of the gap it starts. -/
def escape? (c : Cursor) : Option (List Char × Cursor) :=
  match c.next? with
  | none => none
  | some letter =>
    if isBreak letter then
      let (gap, c) := c.step.takeWhile isGap
      some (gap.filter isBreak, c)
    else
      match escaped? letter, escapeWidth? letter with
      | some x, _ => some ([x], c.step)
      | none, some width =>
        let digits := c.step.rest.take width
        if digits.length < width then none
        else (numbered? digits).map fun x => ([x], c.past (1 + width))
      | none, none => none

def quotedFrom (mark : Char) : (fuel : Nat) → Cursor → Option (List Char × Cursor)
  | 0, _ => none
  | fuel + 1, c =>
    let keep (taken : List Char) (c : Cursor) :=
      (quotedFrom mark fuel c).map fun (more, c) => (taken ++ more, c)
    match c.next? with
    | none => none
    | some x =>
      if c.atDocumentEnd then none
      else if x == mark then
        if mark == '\'' && c.step.at? '\'' then keep ['\''] (c.past 2) else some ([], c.step)
      else if x == '\\' && mark == '"' then (escape? c.step).bind fun (taken, c) => keep taken c
      else if isGap x then
        let (gap, c) := c.takeWhile isGap
        keep (foldGap gap) c
      else keep [x] c.step

def quoted? (c : Cursor) : Option (Text × Cursor) :=
  match c.next? with
  | some mark =>
    (quotedFrom mark c.rest.length c.step).map fun (cs, c) => (Text.ofChars cs, c)
  | none => none

/-! ## Blocks of lines -/

/-- What becomes of the line ends at the end of a block. -/
inductive Ending where
  | one
  | none
  | all

def ending? : Char → Option Ending
  | '+' => some .all
  | '-' => some .none
  | _ => none

def width? (c : Char) : Option Nat := if c.isDigit then some (c.toNat - 48) else none

/-- The marks after the one that opens a block, in any order: how it ends, its indentation if one is
given, and the place after the marks. An indentation of nothing is refused. -/
def blockMarks? (c : Cursor) : Option (Ending × Option Nat × Cursor) :=
  let sized (ending : Ending) (width? : Option Nat) (c : Cursor) :=
    if width? == some 0 then none else some (ending, width?, c)
  match c.next?.bind ending?, c.next?.bind width? with
  | some ending, _ =>
    let c := c.step
    let width := c.next?.bind width?
    sized ending width (if width.isSome then c.step else c)
  | none, some width =>
    let c := c.step
    match c.next?.bind ending? with
    | some ending => sized ending (some width) c.step
    | none => sized .one (some width) c
  | none, none => some (.one, none, c)

/-- Passes empty lines and the indentation of the line after them: their line ends, and the widest
indentation among them. With no `indent` known all blanks indent. A tab cannot indent. -/
def blockGap (indent? : Option Nat) : (fuel : Nat) → (widest : Nat) → Cursor →
    Option (List Char × Nat × Cursor)
  | 0, _, _ => none
  | fuel + 1, widest, c =>
    let spaces := (c.rest.takeWhile (· == ' ')).length
    let c := c.past (match indent? with
      | some indent => min spaces (indent - c.column)
      | none => spaces)
    let widest := max widest c.column
    match c.next? with
    | some x =>
      if x == '\t' && indent?.all (c.column < ·) then none
      else if isBreak x then
        (blockGap indent? fuel widest c.step).map fun (breaks, rest) => (x :: breaks, rest)
      else some ([], widest, c)
    | none => some ([], widest, c)

/-- The lines of a block from after a line end and the empty lines `gap`: their text, the last line
end, the empty lines after it, and the place after them. Folding spares the line ends around lines
that are indented further. -/
def blockLines (folds : Bool) (indent : Nat) : (fuel : Nat) → (further : Bool) →
    (lineEnd gap : List Char) → Cursor → Option (List Char × List Char × List Char × Cursor)
  | 0, _, _, _, _ => none
  | fuel + 1, further, lineEnd, gap, c =>
    if c.column != indent || c.isEnd then some ([], lineEnd, gap, c)
    else do
      let blank := c.next?.any isBlank
      let joint :=
        if folds && !further && !blank && lineEnd == ['\n'] then folded (lineEnd ++ gap)
        else lineEnd ++ gap
      let (line, c) := c.takeWhile fun x => !isBreak x
      let lineEnd := c.rest.take 1
      let (gap, _, c) ← blockGap (some indent) fuel 0 c.step
      let (text, rest) ← blockLines folds indent fuel blank lineEnd gap c
      return (joint ++ line ++ text, rest)

/-- A block of lines at the mark that opens it, inside a collection whose members are indented by
`outer`. -/
def block? (outer : Nat) (c : Cursor) : Option (Text × Cursor) := do
  let folds := c.at? '>'
  let (ending, width?, c) ← blockMarks? c.step
  let c := c.skipLineComment.skipWhile isBlank
  if !c.isEnd && !c.next?.any isBreak then none
  else
    let indent? := width?.map fun width => outer - 1 + width
    let (gap, widest, c) ← blockGap indent? (c.rest.length + 1) 0 c.step
    let indent := indent?.getD (max widest (max outer 1))
    -- Every line of the block has a character, so the same fuel does for the gaps between lines.
    let (text, lineEnd, gap, c) ← blockLines folds indent (c.rest.length + 1) false [] gap c
    let tail := match ending with
      | .one => lineEnd
      | .none => []
      | .all => lineEnd ++ gap
    return (Text.ofChars (text ++ tail), c)

end Birl.Yaml
