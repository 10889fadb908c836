import Birl.Text

/-!
# Entries of a settings file

A settings file is a table of entries in one of two notations. Both notations come down to the tree
below, which keeps of a single value only what a setting can ask of it.
-/

namespace Birl

/-- A single value by what it can be taken for. The notation decides that: one of them takes every
single value for a text, the other only a quoted one. -/
structure Scalar where
  integer? : Option Int := none
  truth? : Option Bool := none
  text? : Option Text := none
  deriving DecidableEq, Repr, Inhabited

inductive Entry where
  | null
  | scalar (s : Scalar)
  /-- A list, or a table that is not made of distinct texts as keys. No setting takes it. -/
  | list
  | table (entries : List (Text × Entry))
  deriving Repr, Inhabited

end Birl
