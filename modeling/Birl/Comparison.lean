import Birl.Text

/-!
# Comparisons and conditions

Comparing two values gives an outcome that the frame remembers; a conditional block asks whether the
remembered outcome meets its condition.
-/

namespace Birl

/-- The outcome of the last comparison made in a frame. -/
inductive Comparison where
  /-- Nothing was compared yet. -/
  | none
  | equal
  | notEqual
  | less
  | more
  /-- A code that no comparison gives: neither equal nor ordered, but not nothing either. -/
  | unknown
  deriving DecidableEq, Repr, Inhabited

namespace Comparison

def name : Comparison → Text
  | equal => "Equal"
  | notEqual => "NotEqual"
  | less => "LessThan"
  | more => "MoreThan"
  | _ => "None"

def ofCode : UInt8 → Comparison
  | 0 => none
  | 1 => equal
  | 2 => notEqual
  | 3 => less
  | 4 => more
  | _ => unknown

end Comparison

inductive Condition where
  | equal
  | notEqual
  | less
  | lessOrEqual
  | more
  | moreOrEqual
  deriving DecidableEq, Repr, Inhabited

namespace Condition

def name : Condition → Text
  | equal => "Equal"
  | notEqual => "NotEqual"
  | less => "Less"
  | lessOrEqual => "LessOrEqual"
  | more => "More"
  | moreOrEqual => "MoreOrEqual"

/-- Whether an outcome meets the condition. A frame that never compared meets none. -/
def holds : Condition → Comparison → Bool
  | _, .none => false
  | equal, c => c = .equal
  | notEqual, c => c ≠ .equal
  | less, c => c = .less
  | lessOrEqual, c => c = .less || c = .equal
  | more, c => c = .more
  | moreOrEqual, c => c = .more || c = .equal

end Condition

/-- A condition as it stands in code, where a code without meaning is never met. -/
inductive Requirement where
  | known (condition : Condition)
  | unknown (code : UInt8)
  deriving DecidableEq, Repr, Inhabited

namespace Requirement

def ofCode : UInt8 → Requirement
  | 0 => known .equal
  | 1 => known .notEqual
  | 2 => known .less
  | 3 => known .lessOrEqual
  | 4 => known .more
  | 5 => known .moreOrEqual
  | code => unknown code

def name : Requirement → Text
  | known condition => condition.name
  | unknown code => "Requirement(" ++ Text.ofNat code.toNat ++ ")"

def holds : Requirement → Comparison → Bool
  | known condition, c => condition.holds c
  | unknown _, _ => false

end Requirement
end Birl
