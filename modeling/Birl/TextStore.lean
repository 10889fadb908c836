import Birl.Fault

/-!
# Text stores

A store keeps texts under numeric ids. Ids are never used twice; an entry goes away only when it is
taken.
-/

namespace Birl

/-- Texts by id, newest first, and the id of the next text. -/
structure TextStore where
  next : Nat := 0
  entries : List (Nat × Text) := []
  deriving DecidableEq, Repr, Inhabited

namespace TextStore

def find? (s : TextStore) (id : Nat) : Option Text := s.entries.lookup id

def add (s : TextStore) (t : Text) : Nat × TextStore :=
  (s.next, { next := s.next + 1, entries := (s.next, t) :: s.entries })

/-- The text under an id, or a fault if there is none. -/
def get (s : TextStore) (id : Nat) : Except Fault Text :=
  match s.find? id with
  | some t => .ok t
  | none => .error (.missingText id)

def modifyEntry (id : Nat) (f : Text → Text) : List (Nat × Text) → List (Nat × Text)
  | [] => []
  | (i, t) :: rest => if i = id then (i, f t) :: rest else (i, t) :: modifyEntry id f rest

def removeEntry (id : Nat) : List (Nat × Text) → List (Nat × Text)
  | [] => []
  | (i, t) :: rest => if i = id then rest else (i, t) :: removeEntry id rest

def modify (s : TextStore) (id : Nat) (f : Text → Text) : Except Fault TextStore :=
  match s.find? id with
  | some _ => .ok { s with entries := modifyEntry id f s.entries }
  | none => .error (.missingText id)

def set (s : TextStore) (id : Nat) (t : Text) : Except Fault TextStore := s.modify id fun _ => t

def append (s : TextStore) (id : Nat) (t : Text) : Except Fault TextStore :=
  s.modify id fun old => old ++ t

def take (s : TextStore) (id : Nat) : Except Fault (Text × TextStore) :=
  match s.find? id with
  | some t => .ok (t, { s with entries := removeEntry id s.entries })
  | none => .error (.missingText id)

def size (s : TextStore) : Nat := s.entries.length

/-- The value of a constant; a Text constant is put into the store. -/
def intern (s : TextStore) : Constant → Value × TextStore
  | .null => (.null, s)
  | .int n => (.int n, s)
  | .number x => (.number x, s)
  | .text t =>
    let (id, s) := s.add t
    (.text id, s)

def textOf (s : TextStore) : Value → Except Fault Text
  | .text id => s.get id
  | v => .error (.expectedText v.type)

end TextStore
end Birl
