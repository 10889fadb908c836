import Birl.Number.Reading

/-!
# Dates and times of day

No setting takes a date, but a file in which a date does not exist is malformed. The notations of
settings files differ in the digits and the separators they ask for; what a month, a clock and a
distance from universal time allow is the same.
-/

namespace Birl.Date

def isLeap (year : Nat) : Bool := year % 4 == 0 && (year % 100 != 0 || year % 400 == 0)

def daysIn (year month : Nat) : Nat :=
  if month == 2 then if isLeap year then 29 else 28
  else if month == 4 || month == 6 || month == 9 || month == 11 then 30
  else 31

def number? (least most : Nat) (cs : List Char) : Option (Nat × List Char) :=
  let digits := (cs.take most).takeWhile Char.isDigit
  if digits.length < least then none
  else (Reading.digitsIn? 10 (Text.ofChars digits).bytes).map fun n => (n, cs.drop digits.length)

def part? (separator : Char) (least : Nat) (cs : List Char) : Option (Nat × List Char) :=
  match cs with
  | c :: cs => if c == separator then number? least 2 cs else none
  | [] => none

def passDay? (least : Nat) (cs : List Char) : Option (List Char) := do
  let (year, cs) ← number? 4 4 cs
  let (month, cs) ← part? '-' least cs
  let (day, cs) ← part? '-' least cs
  if 1 ≤ month && month ≤ 12 && 1 ≤ day && day ≤ daysIn year month then some cs else none

def passFraction (cs : List Char) : List Char :=
  match cs with
  | '.' :: c :: rest => if c.isDigit then rest.dropWhile Char.isDigit else cs
  | _ => cs

def passMinute? (least : Nat) (cs : List Char) : Option (List Char) := do
  let (hour, cs) ← number? least 2 cs
  let (minute, cs) ← part? ':' least cs
  if hour < 24 && minute < 60 then some cs else none

def passSecond? (least : Nat) (cs : List Char) : Option (List Char) := do
  let (second, cs) ← part? ':' least cs
  if second < 60 then some (passFraction cs) else none

/-- Passes a distance from universal time; a full day and a full hour are allowed. -/
def passZone? (cs : List Char) : Option (List Char) :=
  match cs with
  | 'Z' :: cs => some cs
  | sign :: cs =>
    if sign == '+' || sign == '-' then do
      let (hour, cs) ← number? 2 2 cs
      let (minute, cs) ← part? ':' 2 cs
      if hour ≤ 24 && minute ≤ 60 then some cs else none
    else none
  | [] => none

end Birl.Date
