import Birl.TextStore

/-!
# Frames

A frame is one activation of a function. Slot 0 holds the value that the last call made from the
frame returned. Texts in slots live in the frame's own store: writing a slot copies a text in, and
reading one copies it out.
-/

namespace Birl

/-- What a frame is for: the code of a function, or the arguments of a plugin. -/
inductive FrameOwner where
  | code (id : Nat)
  | plugin
  deriving DecidableEq, Repr, Inhabited

structure Frame where
  owner : FrameOwner
  slots : Array Value
  /-- The index of the next instruction. -/
  pc : Nat := 0
  comparison : Comparison := .none
  texts : TextStore := {}
  /-- False while the caller is still writing arguments. -/
  ready : Bool := false
  /-- The number of open blocks that are being skipped. -/
  skip : Nat := 0
  deriving DecidableEq, Repr, Inhabited

namespace Frame

/-- A frame under construction, all of its slots Null. -/
def new (owner : FrameOwner) (size : Nat) : Frame :=
  { owner, slots := Array.replicate size .null }

def address (f : Frame) (operand : Int) : Except Fault Nat :=
  if 0 ≤ operand ∧ operand < f.slots.size then .ok operand.toNat else .error (.badAddress operand)

def slot (f : Frame) (address : Nat) : Value := f.slots[address]?.getD .null

def setSlot (f : Frame) (address : Nat) (v : Value) : Frame :=
  { f with slots := f.slots.setIfInBounds address v }

/-- Puts a text into a slot. A slot that already holds a text keeps its id. -/
def storeText (f : Frame) (address : Nat) (t : Text) : Frame :=
  let fresh : Frame :=
    let (id, texts) := f.texts.add t
    { f with texts }.setSlot address (.text id)
  match f.slot address with
  | .text id =>
    match f.texts.set id t with
    | .ok texts => { f with texts }
    | .error _ => fresh
  | _ => fresh

/-- Writes a value of the store `outer` into a slot. -/
def store (f : Frame) (address : Nat) (v : Value) (outer : TextStore) : Except Fault Frame :=
  match v with
  | .text id =>
    match outer.get id with
    | .ok t => .ok (f.storeText address t)
    | .error fault => .error fault
  | v => .ok (f.setSlot address v)

/-- Reads a slot as a value of the store `outer`. -/
def load (f : Frame) (address : Nat) (outer : TextStore) : Except Fault (Value × TextStore) :=
  match f.slot address with
  | .text id =>
    match f.texts.get id with
    | .ok t => .ok (outer.intern (.text t))
    | .error fault => .error fault
  | v => .ok (v, outer)

end Frame
end Birl
