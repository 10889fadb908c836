import Birl.Settings.Date
import Birl.Settings.Entry
import Birl.Settings.Yaml.Node

/-!
# What YAML scalars mean

A tag says what a scalar is, and one that its text does not fit makes it unusable. A scalar without a
tag is a text if it is quoted; a plain one is whatever its text can be read as.
-/

namespace Birl.Yaml

/-! ## Plain text -/

inductive Meaning where
  | null
  | truth (b : Bool)
  | whole (n : Int)
  | real (x : Number)
  | moment
  | words

def isOneOf (words : List String) (t : Text) : Bool := words.any fun w => t = Text.ofString w

def isMoment (t : Text) : Bool :=
  let ends (cs? : Option (List Char)) : Bool := cs?.any List.isEmpty
  let clock? (cs : List Char) := (Date.passMinute? 1 cs).bind (Date.passSecond? 1)
  match Date.passDay? 1 t.chars with
  | none => false
  | some [] => true
  | some (c :: cs) =>
    if c == 'T' || c == 't' then ends ((clock? cs).bind Date.passZone?)
    else c == ' ' && ends (clock? (cs.dropWhile (· == ' ')))

/-- Digits with at most one point among them, and an optional exponent. -/
def isDecimal (bs : List UInt8) : Bool :=
  let body := (Reading.splitSign bs).2
  body.all fun b => Reading.isDecimal b || b == 46 || b == 43 || b == 45 || Reading.lowerByte b == 101

def real? (bs : List UInt8) : Option Number := (Reading.number bs).toOption

/-- The digits of an integer without a sign; a zero in front makes them octal. -/
def unsigned? (bs : List UInt8) : Option Nat :=
  match bs with
  | 48 :: mark :: c :: rest =>
    match Reading.markedBase? (Reading.lowerByte mark) with
    | some base => Reading.digitsIn? base (c :: rest)
    | none => Reading.digitsIn? 8 (mark :: c :: rest)
  | [48] => some 0
  | 48 :: rest => Reading.digitsIn? 8 rest
  | _ => Reading.digitsIn? 10 bs

def integer? (bs : List UInt8) : Option Int :=
  let (negative, digits) := Reading.splitSign bs
  let signed := digits.length < bs.length
  match unsigned? digits with
  | some n =>
    if negative then if n ≤ integerEnd then some (-(n : Int)) else none
    else if n < (if signed then integerEnd else 2 * integerEnd) then some n
    else none
  | none => none

/-- An integer whose sign stands after the mark of its base, which is two or eight. -/
def inwardSigned? (bs : List UInt8) : Option Int :=
  match bs with
  | 48 :: mark :: sign :: digits =>
    if (mark == 98 || mark == 111) && (sign == 43 || sign == 45) then do
      let n ← Reading.digitsIn? (← Reading.markedBase? mark) digits
      if sign == 45 then if n ≤ integerEnd then some (-(n : Int)) else none
      else if n < integerEnd then some n else none
    else none
  | _ => none

/-- A number by its text, in which underscores do not count. -/
def numeral? (bs : List UInt8) : Option Meaning :=
  let bs := bs.filter (· != 95)
  match integer? bs, if isDecimal bs then real? bs else none, inwardSigned? bs with
  | some n, _, _ => some (.whole n)
  | none, some x, _ => some (.real x)
  | none, none, some n => some (.whole n)
  | none, none, none => none

def infinity (negative : Bool) : Number :=
  ⟨if negative then 0xFFF0000000000000 else 0x7FF0000000000000⟩

def meaning (t : Text) : Meaning :=
  if isOneOf ["", "~", "null", "Null", "NULL"] t then .null
  else if isOneOf ["true", "True", "TRUE"] t then .truth true
  else if isOneOf ["false", "False", "FALSE"] t then .truth false
  else if isOneOf [".nan", ".NaN", ".NAN"] t then .real ⟨0x7FF8000000000001⟩
  else if isOneOf [".inf", ".Inf", ".INF", "+.inf", "+.Inf", "+.INF"] t then .real (infinity false)
  else if isOneOf ["-.inf", "-.Inf", "-.INF"] t then .real (infinity true)
  else match t.bytes.head? with
    | some 46 => (real? t.bytes).elim .words .real
    | some b =>
      if !(Reading.isDecimal b || b == 43 || b == 45) then .words
      else if isMoment t then .moment
      else (numeral? t.bytes).getD .words
    | none => .null

/-! ## Bytes -/

def sixBits? (b : UInt8) : Option Nat :=
  if 65 ≤ b && b ≤ 90 then some (b.toNat - 65)
  else if 97 ≤ b && b ≤ 122 then some (b.toNat - 71)
  else if Reading.isDecimal b then some (b.toNat + 4)
  else if b == 43 then some 62
  else if b == 47 then some 63
  else none

/-- The bytes that groups of four digits in base 64 write; equals signs fill up the last group. -/
def fromBase64? : List UInt8 → Option (List UInt8)
  | [] => some []
  | [a, b, 61, 61] => do
    let n := (← sixBits? a) * 64 + (← sixBits? b)
    return [(n / 16).toUInt8]
  | [a, b, c, 61] => do
    let n := ((← sixBits? a) * 64 + (← sixBits? b)) * 64 + (← sixBits? c)
    return [(n / 1024).toUInt8, (n / 4).toUInt8]
  | a :: b :: c :: d :: rest => do
    let n := (((← sixBits? a) * 64 + (← sixBits? b)) * 64 + (← sixBits? c)) * 64 + (← sixBits? d)
    return (n / 65536).toUInt8 :: (n / 256).toUInt8 :: n.toUInt8 :: (← fromBase64? rest)
  | _ => none

def decoded? (t : Text) : Option Text :=
  (fromBase64? (t.bytes.filter fun b => b != 10 && b != 13)).map Text.mk

/-! ## Entries -/

/-- The truth value that a text is taken for where one is asked for. -/
def spokenTruth? (t : Text) : Option Bool :=
  if isOneOf ["y", "Y", "yes", "on"] t then some true
  else if isOneOf ["n", "N", "no", "off"] t then some false
  else none

def textEntry (t : Text) : Entry := .scalar { truth? := spokenTruth? t, text? := some t }

/-- A scalar that no setting takes. -/
def unusable : Entry := .scalar {}

/-- The integer part of a number; one that is too small for 64 bits is the least of them. -/
def wholePart? (x : Number) : Option Int :=
  match x.toInt64? with
  | some n => some n.toInt
  | none =>
    if x.isNaN then none
    else if x.isNegative || x.toFloat == 9223372036854775808.0 then some (-(integerEnd : Int))
    else none

def signed? (n : Int) : Option Int := if n < integerEnd then some n else none

def Meaning.entry (t : Text) : Meaning → Entry
  | .null => .null
  | .truth b => .scalar { truth? := some b, text? := some t }
  | .whole n => .scalar { integer? := signed? n, text? := some t }
  | .real x => .scalar { integer? := wholePart? x, text? := some t }
  | .moment => .scalar { text? := some t }
  | .words => textEntry t

inductive Tag where
  | none
  | text
  | bytes
  | null
  | truth
  | whole
  | real
  | moment
  /-- A tag that no meaning is known for. -/
  | other

def isTag (name : String) (t : Text) : Bool := isOneOf ["tag:yaml.org,2002:" ++ name, "!!" ++ name] t

def Written.tag (w : Written) : Tag :=
  match w.tag? with
  | none => .none
  | some t =>
    if t = "!" then .none
    else if isTag "str" t then .text
    else if isTag "binary" t then .bytes
    else if isTag "null" t then .null
    else if isTag "bool" t then .truth
    else if isTag "int" t then .whole
    else if isTag "float" t then .real
    else if isTag "timestamp" t then .moment
    else .other

def Written.entry (w : Written) : Entry :=
  let t := w.text
  let read := meaning t
  match w.tag, read with
  | .none, _ => if w.plain then read.entry t else textEntry t
  | .text, _ | .other, _ => textEntry t
  | .bytes, _ => (decoded? t).elim unusable textEntry
  | .null, .null | .truth, .truth _ | .whole, .whole _ | .real, .real _ | .moment, .moment =>
    read.entry t
  | .real, .whole n =>
    if n < integerEnd then (Meaning.real (Number.ofInt64 (Int64.ofInt n))).entry t else unusable
  | _, _ => unusable

end Birl.Yaml
