import Birl.Character.CombiningClass
import Birl.Character.Decomposition
import Birl.Character.Follower
import Birl.Character.Mark
import Birl.Text.Rune

/-!
# Canonical normal forms

The decomposed form writes every character as a base character followed by its marks, the marks of
one base in the order of their combining classes. The composed form joins base and marks again
wherever one character exists for them. Neither form lets more than thirty followers stand in a row:
a grapheme joiner parts longer rows, and marks are not ordered or joined across it.
-/

namespace Birl.Normal

open Character

/-- Code points of Hangul: the first syllable, the first letter of each of the three positions, and
the number of letters in the second and the third position. -/
structure Hangul where
  syllable : Nat := 0xAC00
  lead : Nat := 0x1100
  vowel : Nat := 0x1161
  tail : Nat := 0x11A7
  leads : Nat := 19
  vowels : Nat := 21
  tails : Nat := 28

def hangul : Hangul := {}

def Hangul.letters? (g : Hangul) (n : Nat) : Option (List Nat) :=
  if g.syllable ≤ n ∧ n < g.syllable + g.leads * g.vowels * g.tails then
    let index := n - g.syllable
    let lead := g.lead + index / (g.vowels * g.tails)
    let vowel := g.vowel + index % (g.vowels * g.tails) / g.tails
    let tail := index % g.tails
    some (if tail = 0 then [lead, vowel] else [lead, vowel, g.tail + tail])
  else none

/-- The syllable that a lead and a vowel make, or a syllable without tail and a tail. -/
def Hangul.join? (g : Hangul) (first second : Nat) : Option Nat :=
  if g.lead ≤ first ∧ first < g.lead + g.leads ∧ g.vowel ≤ second ∧ second < g.vowel + g.vowels then
    some (g.syllable + ((first - g.lead) * g.vowels + (second - g.vowel)) * g.tails)
  else if g.syllable ≤ first ∧ first < g.syllable + g.leads * g.vowels * g.tails ∧
      (first - g.syllable) % g.tails = 0 ∧ g.tail < second ∧ second < g.tail + g.tails then
    some (first + (second - g.tail))
  else none

/-- The parts of a character after at most `steps` decompositions, one inside the other. -/
def partsWithin : (steps : Nat) → Nat → List Nat
  | 0, n => [n]
  | steps + 1, n =>
    match hangul.letters? n with
    | some letters => letters
    | none =>
      match respelled? n with
      | some m => partsWithin steps m
      | none =>
        match parts? n with
        | some (first, second) => partsWithin steps first ++ [second]
        | none => [n]

/-- The parts of a character. No decomposition is nested deeper than three. -/
def decompose (c : Char) : List Char := (partsWithin 3 c.toNat).map Char.ofNat

/-- The followers with which what a character stands for begins. -/
def leading (c : Char) : Nat :=
  if isFollowerForm c then 1 else ((decompose c).takeWhile isFollower).length

/-- The followers with which what a character stands for ends. -/
def trailing (c : Char) : Nat :=
  if trailingForm c = 0 then ((decompose c).reverse.takeWhile isFollower).length else trailingForm c

/-- As many followers may stand in a row. -/
def followerLimit : Nat := 30

/-- The character that parts rows of followers. -/
def graphemeJoiner : Char := '\u034F'

/-- Parts rows of more followers than the limit; `count` of them stand before the first character. -/
def parted (count : Nat) : List Char → List Char
  | [] => []
  | c :: rest =>
    if leading c = 0 then c :: parted (trailing c) rest
    else if followerLimit < count + leading c then graphemeJoiner :: c :: parted (leading c) rest
    else c :: parted (count + leading c) rest

/-- Inserts a mark after the marks of its class or a lower one. -/
def insertMark (mark : Char) : List Char → List Char
  | [] => [mark]
  | m :: rest =>
    if combiningClass mark < combiningClass m then mark :: m :: rest else m :: insertMark mark rest

/-- Orders the marks between two starters by combining class, those of one class as they stand. -/
def orderMarks (pending : List Char) : List Char → List Char
  | [] => pending
  | c :: rest =>
    if combiningClass c = 0 then pending ++ c :: orderMarks [] rest
    else orderMarks (insertMark c pending) rest

def decomposed (cs : List Char) : List Char := orderMarks [] ((parted 0 cs).flatMap decompose)

def join? (first second : Char) : Option Char :=
  ((hangul.join? first.toNat second.toNat).or (composite? first.toNat second.toNat)).map Char.ofNat

/-- Joins a starter with the characters after it. `pending` holds the marks that stand between the
starter and the rest and did not join it; one of the class of the next mark, or above, blocks it. -/
def joinAfter (starter : Char) (pending : List Char) : List Char → List Char
  | [] => starter :: pending
  | c :: rest =>
    let blocked := pending.getLast?.any fun last => combiningClass c ≤ combiningClass last
    match if blocked then none else join? starter c with
    | some joined => joinAfter joined pending rest
    | none =>
      if combiningClass c = 0 then starter :: pending ++ joinAfter c [] rest
      else joinAfter starter (pending ++ [c]) rest

/-- Joins what can be joined; marks before the first starter stay as they are. -/
def joinAll : List Char → List Char
  | [] => []
  | c :: rest => if combiningClass c = 0 then joinAfter c [] rest else c :: joinAll rest

def composed (cs : List Char) : List Char := joinAll (decomposed cs)

end Birl.Normal
