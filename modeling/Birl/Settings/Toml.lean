import Birl.Number.Reading
import Birl.Settings.Date
import Birl.Settings.Entry
import Birl.Text.Rune

/-!
# TOML settings files

Keys, tables, strings of all four kinds, integers and truth values in full; numbers and dates are
only checked, because no setting takes them. A file with a key given twice is refused.
-/

namespace Birl.Toml

/-! ## Values -/

inductive Written where
  | scalar (s : Scalar)
  | list (items : List Written)
  | table (pairs : List (List Text × Written))
  deriving Inhabited

def isBlank (c : Char) : Bool := c == ' ' || c == '\t'

def isControl (c : Char) : Bool :=
  (c.toNat < 0x20 && c != '\t' && c != '\n' && c != '\r') || c.toNat == 0x7F

/-- Whether a file holds no control characters, and carriage returns only before line feeds. -/
def controlsFit : List Char → Bool
  | [] => true
  | '\r' :: '\n' :: cs => controlsFit cs
  | c :: cs => !isControl c && c != '\r' && controlsFit cs

def isBareKey (c : Char) : Bool := c.isAlphanum || c == '_' || c == '-'

def skipBlanks (cs : List Char) : List Char := cs.dropWhile isBlank

def skipComment (cs : List Char) : List Char := cs.dropWhile (· != '\n')

def skipGap : (fuel : Nat) → List Char → Option (List Char)
  | 0, _ => none
  | fuel + 1, cs =>
    match skipBlanks cs with
    | '\n' :: cs => skipGap fuel cs
    | '\r' :: '\n' :: cs => skipGap fuel cs
    | '#' :: cs => skipGap fuel (skipComment cs)
    | cs => some cs

/-- What may follow a value or a table header on its line. -/
def lineEnd? (cs : List Char) : Option (List Char) :=
  match skipBlanks cs with
  | [] => some []
  | '\n' :: cs => some cs
  | '\r' :: '\n' :: cs => some cs
  | '#' :: cs => some ((skipComment cs).drop 1)
  | _ => none

def escaped? : Char → Option Char
  | 'b' => some '\x08'
  | 't' => some '\t'
  | 'n' => some '\n'
  | 'f' => some '\x0c'
  | 'r' => some '\r'
  | 'e' => some '\x1b'
  | '"' => some '"'
  | '\\' => some '\\'
  | _ => none

def escapeWidth? : Char → Option Nat
  | 'x' => some 2
  | 'u' => some 4
  | 'U' => some 8
  | _ => none

def numbered? (digits : List Char) : Option Char :=
  match Reading.digitsIn? 16 (Text.ofChars digits).bytes with
  | some n => if n.isValidChar then some (Char.ofNat n) else none
  | none => none

/-- The kinds of strings: whether backslashes escape, and whether line ends are allowed. -/
structure Quotes where
  mark : Char
  escapes : Bool
  lines : Bool

/-- Whether the closing marks come next, and what follows them. A string over several lines ends
with three marks, and one or two more before them belong to it. -/
def Quotes.close? (q : Quotes) (cs : List Char) : Option (List Char × List Char) :=
  if q.lines then
    let marks := (cs.takeWhile (· == q.mark)).length
    if marks < 3 then none
    else
      let own := min marks 5
      some (List.replicate (own - 3) q.mark, cs.drop own)
  else match cs with
    | c :: cs => if c == q.mark then some ([], cs) else none
    | [] => none

def stringFrom (q : Quotes) : (fuel : Nat) → List Char → Option (List Char × List Char)
  | 0, _ => none
  | fuel + 1, cs =>
    let keep (taken rest : List Char) := (stringFrom q fuel rest).map fun (t, r) => (taken ++ t, r)
    match q.close? cs with
    | some closed => some closed
    | none =>
      match cs with
      | [] => none
      | '\\' :: cs =>
        if !q.escapes then keep ['\\'] cs
        else
          let ending := skipBlanks cs
          let folds := match ending with
            | '\n' :: _ => true
            | '\r' :: '\n' :: _ => true
            | _ => false
          if q.lines && folds then
            keep [] (ending.dropWhile fun c => isBlank c || c == '\n' || c == '\r')
          else match cs with
            | [] => none
            | letter :: cs =>
              match escaped? letter, escapeWidth? letter with
              | some c, _ => keep [c] cs
              | none, some width =>
                if cs.length < width then none
                else (numbered? (cs.take width)).bind fun c => keep [c] (cs.drop width)
              | none, none => none
      | c :: cs => if c == '\n' && !q.lines then none else keep [c] cs

/-- A string at its opening mark. A line end right after three marks does not belong to it. -/
def string? (oneLine : Bool) (cs : List Char) : Option (Text × List Char) :=
  let read (q : Quotes) (cs : List Char) :=
    (stringFrom q (cs.length + 1) cs).map fun (t, rest) => (Text.ofChars t, rest)
  let several (mark : Char) (cs : List Char) :=
    if oneLine then none
    else match cs with
      | '\n' :: cs => read ⟨mark, mark == '"', true⟩ cs
      | '\r' :: '\n' :: cs => read ⟨mark, mark == '"', true⟩ cs
      | cs => read ⟨mark, mark == '"', true⟩ cs
  match cs with
  | '"' :: '"' :: '"' :: cs => several '"' cs
  | '\'' :: '\'' :: '\'' :: cs => several '\'' cs
  | '"' :: cs => read ⟨'"', true, false⟩ cs
  | '\'' :: cs => read ⟨'\'', false, false⟩ cs
  | _ => none

/-! ## Numbers and dates -/

/-- Digits with single underscores between them, and the digits alone. -/
def digits? (isDigit : Char → Bool) : (afterDigit : Bool) → List Char → Option (List Char)
  | afterDigit, [] => if afterDigit then some [] else none
  | afterDigit, c :: cs =>
    if isDigit c then (digits? isDigit true cs).map (c :: ·)
    else if c == '_' && afterDigit then digits? isDigit false cs
    else none

/-- Decimal digits without a needless zero in front. -/
def decimalDigits? (cs : List Char) : Option (List Char) :=
  match cs with
  | '0' :: _ :: _ => none
  | cs => digits? Char.isDigit false cs

def valueOfDigits (base : Nat) (digits : List Char) : Option Nat :=
  Reading.digitsIn? base (Text.ofChars digits).bytes

/-- An integer. Only decimal ones may have a sign. -/
def integer? (cs : List Char) : Option Int :=
  let marked (base : Nat) (isDigit : Char → Bool) (cs : List Char) : Option Int :=
    ((digits? isDigit false cs).bind (valueOfDigits base)).map Int.ofNat
  let decimal (cs : List Char) : Option Int :=
    ((decimalDigits? cs).bind (valueOfDigits 10)).map Int.ofNat
  let n? := match cs with
    | '0' :: 'x' :: cs =>
      marked 16 (fun c => c.isDigit || ('a' ≤ c && c ≤ 'f') || ('A' ≤ c && c ≤ 'F')) cs
    | '0' :: 'o' :: cs => marked 8 (fun c => '0' ≤ c && c ≤ '7') cs
    | '0' :: 'b' :: cs => marked 2 (fun c => c == '0' || c == '1') cs
    | '+' :: cs => decimal cs
    | '-' :: cs => (decimal cs).map (- ·)
    | cs => decimal cs
  n?.filter fun n => -(integerEnd : Int) ≤ n && n < integerEnd

def isReal (cs : List Char) : Bool :=
  let body := match cs with
    | '+' :: cs => cs
    | '-' :: cs => cs
    | cs => cs
  if body = "inf".toList || body = "nan".toList then true
  else
    let isE := fun c : Char => c == 'e' || c == 'E'
    let mantissa := body.takeWhile fun c => !isE c
    let exponent := body.drop mantissa.length
    let whole := mantissa.takeWhile (· != '.')
    let fraction := mantissa.drop whole.length
    let exponentFits := match exponent with
      | [] => true
      | _ :: '+' :: ds => (digits? Char.isDigit false ds).isSome
      | _ :: '-' :: ds => (digits? Char.isDigit false ds).isSome
      | _ :: ds => (digits? Char.isDigit false ds).isSome
    let fractionFits := match fraction with
      | [] => true
      | _ :: ds => (digits? Char.isDigit false ds).isSome
    let inRange := match Reading.number (Text.ofChars (body.filter (· != '_'))).bytes with
      | .ok _ => true
      | .error _ => false
    (decimalDigits? whole).isSome && fractionFits && exponentFits && inRange

def passTime? (cs : List Char) : Option (List Char) := do
  let cs ← Date.passMinute? 2 cs
  if cs.head? == some ':' then Date.passSecond? 2 cs else some cs

def isTime (cs : List Char) : Bool := (passTime? cs).any List.isEmpty

def isDate (cs : List Char) : Bool :=
  match Date.passDay? 2 cs with
  | none => false
  | some [] => true
  | some (separator :: cs) =>
    let zoneFits (zone : List Char) : Bool :=
      zone.isEmpty || zone == ['z'] || (Date.passZone? zone).any List.isEmpty
    (separator == 'T' || separator == 't' || separator == ' ') && (passTime? cs).any zoneFits

/-- A word that is no string. -/
def word? (cs : List Char) : Option Scalar :=
  if cs = "true".toList then some { truth? := some true }
  else if cs = "false".toList then some { truth? := some false }
  else match integer? cs with
    | some n => some { integer? := some n }
    | none => if isReal cs || isDate cs || isTime cs then some {} else none

def isWordEnd (c : Char) : Bool :=
  c == ',' || c == ']' || c == '}' || c == '#' || c == '\n' || c == '\r' || isBlank c

/-- A word and the characters after it. A blank between a date and a time belongs to the word. -/
def takeWord (cs : List Char) : List Char × List Char :=
  let word := cs.takeWhile fun c => !isWordEnd c
  let rest := cs.drop word.length
  match rest with
  | ' ' :: d :: more =>
    if Date.passDay? 2 word = some [] && d.isDigit then
      let time := (d :: more).takeWhile fun c => !isWordEnd c
      (word ++ ' ' :: time, (d :: more).drop time.length)
    else (word, rest)
  | _ => (word, rest)

/-! ## Keys and compound values -/

def keyPart? (cs : List Char) : Option (Text × List Char) :=
  match cs with
  | '"' :: _ | '\'' :: _ => string? true cs
  | _ =>
    let bare := cs.takeWhile isBareKey
    if bare.isEmpty then none else some (Text.ofChars bare, cs.drop bare.length)

def key? : (fuel : Nat) → List Char → Option (List Text × List Char)
  | 0, _ => none
  | fuel + 1, cs => do
    let (part, cs) ← keyPart? (skipBlanks cs)
    match skipBlanks cs with
    | '.' :: cs =>
      let (parts, cs) ← key? fuel cs
      return (part :: parts, cs)
    | cs => return ([part], cs)

def keyEquals? (cs : List Char) : Option (List Text × List Char) := do
  let (key, cs) ← key? (cs.length + 1) cs
  match cs with
  | '=' :: cs => some (key, skipBlanks cs)
  | _ => none

mutual

def value? : (fuel : Nat) → List Char → Option (Written × List Char)
  | 0, _ => none
  | fuel + 1, cs =>
    match cs with
    | '"' :: _ | '\'' :: _ => (string? false cs).map fun (t, cs) => (.scalar { text? := some t }, cs)
    | '[' :: cs => (skipGap (cs.length + 1) cs).bind fun cs => items? fuel cs []
    | '{' :: cs => (skipGap (cs.length + 1) cs).bind fun cs => pairs? fuel cs []
    | _ =>
      let (word, rest) := takeWord cs
      (word? word).map fun s => (.scalar s, rest)

def items? : (fuel : Nat) → List Char → List Written → Option (Written × List Char)
  | 0, _, _ => none
  | fuel + 1, cs, items =>
    match cs with
    | ']' :: cs => some (.list items.reverse, cs)
    | _ => do
      let (item, cs) ← value? fuel cs
      let items := item :: items
      match ← skipGap (cs.length + 1) cs with
      | ',' :: cs => items? fuel (← skipGap (cs.length + 1) cs) items
      | ']' :: cs => some (.list items.reverse, cs)
      | _ => none

def pairs? : (fuel : Nat) → List Char → List (List Text × Written) → Option (Written × List Char)
  | 0, _, _ => none
  | fuel + 1, cs, pairs =>
    match cs with
    | '}' :: cs => some (.table pairs.reverse, cs)
    | _ => do
      let (key, cs) ← keyEquals? cs
      let (value, cs) ← value? fuel cs
      let pairs := (key, value) :: pairs
      match ← skipGap (cs.length + 1) cs with
      | ',' :: cs => pairs? fuel (← skipGap (cs.length + 1) cs) pairs
      | '}' :: cs => some (.table pairs.reverse, cs)
      | _ => none

end

/-! ## Statements of a file -/

inductive Statement where
  | pair (key : List Text) (value : Written)
  | header (key : List Text)
  /-- The header of one more table of a list. -/
  | listHeader (key : List Text)

def statement? (cs : List Char) : Option (Statement × List Char) :=
  match cs with
  | '[' :: '[' :: cs => do
    let (key, cs) ← key? (cs.length + 1) cs
    match cs with
    | ']' :: ']' :: cs => return (.listHeader key, ← lineEnd? cs)
    | _ => none
  | '[' :: cs => do
    let (key, cs) ← key? (cs.length + 1) cs
    match cs with
    | ']' :: cs => return (.header key, ← lineEnd? cs)
    | _ => none
  | cs => do
    let (key, cs) ← keyEquals? cs
    let (value, cs) ← value? (cs.length + 1) cs
    return (.pair key value, ← lineEnd? cs)

def statements? : (fuel : Nat) → List Char → Option (List Statement)
  | 0, _ => none
  | fuel + 1, cs => do
    match ← skipGap (cs.length + 1) cs with
    | [] => some []
    | cs =>
      let (s, cs) ← statement? cs
      return s :: (← statements? fuel cs)

/-! ## The tree of a file -/

/-- A key that is set. A table that exists only because a longer key names it is implied: it can be
given once more. -/
inductive Node where
  | leaf (e : Entry)
  | table (implied inList : Bool) (entries : List (Text × Node))
  deriving Inhabited

abbrev Table := List (Text × Node)

def Table.find? (t : Table) (key : Text) : Option Node := t.lookup key

def Table.put (t : Table) (key : Text) (node : Node) : Table :=
  if (t.lookup key).isSome then t.map fun (k, old) => (k, if k = key then node else old)
  else t ++ [(key, node)]

/-- Sets a key of the table at the end of a path, by a function of what it held. A table on the way
that is missing is implied; `enter` says what naming an existing one does to it. -/
def Table.update (enter : Bool → Bool) (f : Option Node → Option Node) (t : Table) :
    List Text → Option Table
  | [] => none
  | [key] => (f (t.find? key)).map (t.put key)
  | key :: path =>
    match t.find? key with
    | none => (Table.update enter f [] path).map fun inner => t.put key (.table true false inner)
    | some (.table implied inList entries) =>
      (Table.update enter f entries path).map fun inner =>
        t.put key (.table (enter implied) inList inner)
    | some (.leaf _) => none

/-- Naming an implied table as a part of a longer key takes the mark away. -/
def named (_ : Bool) : Bool := false

def addTable : Option Node → Option Node
  | none => some (.table false false [])
  | some (.table true inList entries) => some (.table false inList entries)
  | some _ => none

def addListTable : Option Node → Option Node
  | none => some (.table false true [])
  | some (.table _ true _) => some (.table false true [])
  | some _ => none

/-- Gives a key a value. A value that is no table has no effect over an implied table. -/
def addNode (node : Node) (old : Option Node) : Option Node :=
  match node, old with
  | node, none => some node
  | .leaf _, some (.table true inList entries) => some (.table false inList entries)
  | _, some _ => none

mutual

/-- The node of a value, in which no table has a key twice. -/
def Written.node? : (fuel : Nat) → Written → Option Node
  | 0, _ => none
  | _ + 1, .scalar s => some (.leaf (.scalar s))
  | fuel + 1, .list items =>
    if items.all fun item => (item.node? fuel).isSome then some (.leaf .list) else none
  | fuel + 1, .table pairs => (addPairs? fuel pairs []).map (.table false false)

def addPairs? : (fuel : Nat) → List (List Text × Written) → Table → Option Table
  | 0, _, _ => none
  | _ + 1, [], t => some t
  | fuel + 1, (key, value) :: pairs, t => do
    let node ← value.node? fuel
    addPairs? fuel pairs (← t.update named (addNode node) key)

end

/-- Carries out the statements; pairs belong to the table of the last header. -/
def build? (fuel : Nat) : (header : List Text) → List Statement → Table → Option Table
  | _, [], t => some t
  | header, .pair key value :: rest, t => do
    let node ← value.node? fuel
    let whole ← match header with
      | [] => t.update named (addNode node) key
      | header =>
        t.update id (fun
          | some (.table implied inList entries) =>
            (Table.update named (addNode node) entries key).map (.table implied inList)
          | _ => none) header
    build? fuel header rest whole
  | _, .header key :: rest, t => do build? fuel key rest (← t.update id addTable key)
  | _, .listHeader key :: rest, t => do build? fuel key rest (← t.update id addListTable key)

mutual

def Node.entry : Node → Entry
  | .leaf e => e
  | .table _ true _ => .list
  | .table _ false entries => .table (entriesOf entries)

def entriesOf : List (Text × Node) → List (Text × Entry)
  | [] => []
  | (key, node) :: rest => (key, node.entry) :: entriesOf rest

end

/-- The characters of a file without the mark of its encoding, which is UTF-8 whatever the mark
says. -/
def characters? (t : Text) : Option (List Char) :=
  let t : Text := match t.bytes with
    | 0xFF :: 0xFE :: bs => ⟨bs⟩
    | 0xFE :: 0xFF :: bs => ⟨bs⟩
    | 0xEF :: 0xBB :: 0xBF :: bs => ⟨bs⟩
    | bs => ⟨bs⟩
  if t.runes.any Rune.isStray || !controlsFit t.chars then none else some t.chars

def document? (t : Text) : Option Entry := do
  let chars ← characters? t
  let statements ← statements? (chars.length + 1) chars
  -- A value is no deeper and no longer than the file that writes it.
  let t ← build? (2 * chars.length + 2) [] statements []
  return .table (entriesOf t)

end Birl.Toml
