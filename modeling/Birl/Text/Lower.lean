import Birl.Text.Case

/-!
# Lower case by the complete rules

A character may become several, and a capital sigma at the end of a word becomes the small final
sigma. Whether a word ends is seen only inside a piece of the text: a piece holds at most 128 bytes,
it ends where the target has no room left, and the next one begins as if no letter stood before it.
-/

namespace Birl.Text

open Character

def capitalSigma : Char := '\u03A3'
def smallSigma : Char := '\u03C3'
def finalSigma : Char := '\u03C2'

/-- At most so many characters that do not interrupt a word are looked through for its next
letter. -/
def sigmaReach : Nat := 30

/-- What became of one piece: the bytes written, the runes left over, and whether it was the room
that ended it. -/
structure Piece where
  written : List UInt8
  rest : List Rune
  isFull : Bool
  deriving DecidableEq, Repr

/-- A piece that begins with bytes already written. -/
def Piece.after (bytes : List UInt8) (p : Piece) : Piece := { p with written := bytes ++ p.written }

/-- The characters after a sigma that do not interrupt its word, as far as they are looked through. -/
def sigmaTail (rest : List Rune) : List Rune :=
  (rest.take (sigmaReach + 1)).takeWhile fun r => isCaseIgnorable r.char

/-- The small sigma for a capital one that `rest` follows: final unless a letter with case follows
within reach. -/
def sigmaBefore (rest : List Rune) : Char :=
  if (sigmaTail rest).length ≤ sigmaReach &&
      (rest.drop (sigmaTail rest).length).head?.any fun r => isCased r.char
  then smallSigma else finalSigma

/-- Lower case of a piece that more text follows or not. `inWord` tells whether a letter with case
and nothing that interrupts a word stands before the runes; `room` bytes can still be written. A
sigma whose word may go on behind the piece is left over, and so is one that does not fit together
with its tail. -/
def lowerPiece (more : Bool) (inWord : Bool) (room : Nat) : List Rune → Piece
  | [] => ⟨[], [], false⟩
  | r :: rest =>
    let c := r.char
    if inWord && c == capitalSigma then
      let bytes := String.utf8EncodeChar (sigmaBefore rest)
      let tail := sigmaTail rest
      if room < bytes.length + (ofRunes tail).length then ⟨[], r :: rest, true⟩
      else if more && tail.length == rest.length && tail.length ≤ sigmaReach then
        ⟨[], r :: rest, false⟩
      else (lowerPiece more true (room - bytes.length) rest).after bytes
    else
      let bytes := recase Character.lowerFull r
      if room < bytes.length then ⟨[], r :: rest, true⟩
      else (lowerPiece more (isCased c || (inWord && isCaseIgnorable c)) (room - bytes.length)
        rest).after bytes

def pieceLength : Nat := 128

/-- The number of bytes that the first byte of a rune announces. -/
def announced (r : Rune) : Nat :=
  let lead := r.bytes.headD 0
  if lead < 0xC2 then 1 else if lead < 0xE0 then 2 else if lead < 0xF0 then 3
  else if lead < 0xF8 then 4 else 1

/-- The runes that `length` bytes hold in full. -/
def runesWithin (length : Nat) : List Rune → List Rune
  | [] => []
  | r :: rest =>
    if length < announced r then [] else r :: runesWithin (length - r.bytes.length) rest

/-- The size of the target after it was found too small. -/
def grown (size : Nat) : Nat :=
  if size ≤ 32 then 64 else if size ≤ 256 then 2 * size else size + size / 2

/-- The size of the target after the first piece that changed something or found it full: that of a
piece, or what the text needs if nothing else changes its length. -/
def firstSize (total done : Nat) (written taken : Nat) : Nat :=
  if pieceLength < done then total + written - taken else pieceLength

/-- Lower case of runes of `length` bytes at the end of a text of `total` bytes, `done` bytes being
written. As long as no piece has changed anything, each has the room of a piece (`none`); from then
on the target has a size, and grows when a piece finds no room at all. Every piece takes a rune or
lets the target grow, so `fuel` suffices when it is twice the number of runes and more. -/
def lowerPieces (total : Nat) : (fuel : Nat) → (size : Option Nat) → (done length : Nat) →
    List Rune → List UInt8
  | 0, _, _, _, rs => (ofRunes rs).bytes
  | fuel + 1, size, done, length, rs =>
    let more := pieceLength < length
    let source := if more then runesWithin pieceLength rs else rs
    let piece := lowerPiece more false (size.elim pieceLength (· - done)) source
    let taken := ofRunes (source.take (source.length - piece.rest.length))
    match piece.rest ++ rs.drop source.length with
    | [] => piece.written
    | rest =>
      let done := done + piece.written.length
      let size := match size with
        | none =>
          if piece.written = taken.bytes && !piece.isFull then none
          else some (firstSize total done piece.written.length taken.length)
        | some size => some (if piece.isFull && piece.written.isEmpty then grown size else size)
      piece.written ++ lowerPieces total fuel size done (length - taken.length) rest

def lowerFull (t : Text) : Text :=
  let rs := t.runes
  ⟨lowerPieces t.length (2 * rs.length + 4) none 0 t.length rs⟩

end Birl.Text
