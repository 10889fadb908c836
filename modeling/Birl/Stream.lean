import Birl.Text

/-!
# Streams

What a program reads and writes. Input is pulled from its source in pieces, so that a second reader
of the source finds only what was not pulled yet. Output is buffered; a sink that refuses it is
noticed when the buffer has to be emptied, and from then on for ever.
-/

namespace Birl

def bufferSize : Nat := 4096

/-- An input stream: bytes pulled from the source and not read yet, and the rest of the source. A
broken source fails where another one ends. -/
structure Input where
  buffered : Text := .empty
  source : Text := .empty
  broken : Bool := false
  deriving DecidableEq, Repr, Inhabited

def inputBroken : Text := "input broken"

def outputBroken : Text := "output broken"

namespace Input

def ofText (t : Text) : Input := { source := t }

/-- A line with its line feed, or the last bytes of the stream, or the failure of its source. -/
inductive Line where
  | full (t : Text)
  | last (t : Text)
  | failed (t : Text)
  deriving DecidableEq, Repr

def lineFeed : UInt8 := 10

/-- Reads up to a line feed. `taken` are bytes of the line that filled the buffer before, `buffered`
and `source` the rest of the stream; every pull takes at least one byte from the source. -/
def readFrom (broken : Bool) (taken buffered source : List UInt8) : Line × Input :=
  let line := buffered.takeWhile (· != lineFeed)
  match buffered.drop line.length with
  | newline :: rest => (.full ⟨taken ++ line ++ [newline]⟩, ⟨⟨rest⟩, ⟨source⟩, broken⟩)
  | [] =>
    match source with
    | [] =>
      let t : Text := ⟨taken ++ buffered⟩
      (if broken then .failed t else .last t, ⟨.empty, .empty, broken⟩)
    | b :: source =>
      -- A full buffer is set aside, and the next pull fills an empty one.
      let (taken, buffered) :=
        if bufferSize ≤ buffered.length then (taken ++ buffered, []) else (taken, buffered)
      let more := bufferSize - (buffered.length + 1)
      readFrom broken taken (buffered ++ b :: source.take more) (source.drop more)
termination_by source.length
decreasing_by
  simp only [List.length_drop, List.length_cons]
  omega

def readLine (i : Input) : Line × Input := readFrom i.broken [] i.buffered.bytes i.source.bytes

/-- Everything that was not pulled from the source yet, and the stream without it. -/
def drain (i : Input) : Except Text Text × Input :=
  let rest := { i with source := .empty }
  if i.broken then (.error inputBroken, rest) else (.ok i.source, rest)

end Input

/-- An output stream: what was written, newest first, and the number of bytes in the buffer. -/
structure Output where
  chunks : List Text := []
  buffered : Nat := 0
  /-- Whether the sink refuses everything. -/
  broken : Bool := false
  /-- Whether the sink has refused something. -/
  failed : Bool := false
  deriving DecidableEq, Repr, Inhabited

namespace Output

def text (o : Output) : Text := if o.broken then .empty else .concat o.chunks.reverse

def write (o : Output) (t : Text) : Output :=
  if o.failed then o
  else if o.buffered + t.length ≤ bufferSize then
    { o with chunks := t :: o.chunks, buffered := o.buffered + t.length }
  else if o.broken then { o with failed := true }
  else { o with chunks := t :: o.chunks, buffered := 0 }

def flush (o : Output) : Output × Bool :=
  if o.failed then (o, false)
  else if o.buffered = 0 then (o, true)
  else if o.broken then ({ o with failed := true }, false)
  else ({ o with buffered := 0 }, true)

def reset (o : Output) : Output := { o with chunks := [] }

end Output
end Birl
