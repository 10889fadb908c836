import Birl.Compiler

/-!
# Compiling expressions

The code of an expression leaves its value in register `b`. A term, that is operands joined by `*`
and `/`, is built up in `b`. A `+` or `-` whose right side is a single operand is applied at once.
Otherwise the sum so far waits in a slot of its own until the term on its right is complete, so that
the number of hidden slots grows only with the nesting of parentheses.
-/

namespace Birl

/-- The operations of an operator; an operator without meaning has none. -/
def Operator.operations : Operator → List Operation
  | plus => [.arith .add]
  | minus => [.arith .sub]
  | times => [.arith .mul]
  | divide => [.arith .div]
  | _ => []

def Symbol.read (s : Symbol) : Operation :=
  if s.global then .readGlobal s.address else .readLocal s.address

def Symbol.write (s : Symbol) : Operation :=
  if s.global then .writeGlobal s.address else .writeLocal s.address

namespace Compiler

/-- A hidden slot of the current function. -/
def hidden (c : Compiler) (address : Nat) : Symbol := { address, global := c.inGlobal }

def operand (c : Compiler) : Node → Except Fault (List Operation)
  | .value literal => .ok [.loadB literal]
  | .symbol name =>
    match c.resolve name with
    | some symbol => .ok [symbol.read, .heldToB]
    | none => .error (.unknownVariable name)
  | node => .error (.notOperand node)

/-- Splits nodes at the parenthesis that closes the group they are in; `depth` counts the groups
opened since. -/
def splitGroup (depth : Nat) : List Node → Option (List Node × List Node)
  | [] => none
  | node :: rest =>
    match node, depth with
    | .operator .closeParen, 0 => some ([], rest)
    | .operator .closeParen, depth + 1 =>
      (splitGroup depth rest).map fun (inner, after) => (node :: inner, after)
    | .operator .openParen, depth =>
      (splitGroup (depth + 1) rest).map fun (inner, after) => (node :: inner, after)
    | _, depth => (splitGroup depth rest).map fun (inner, after) => (node :: inner, after)

theorem length_splitGroup {depth : Nat} {nodes inner after : List Node}
    (h : splitGroup depth nodes = some (inner, after)) :
    inner.length + after.length < nodes.length := by
  induction nodes generalizing depth inner after with
  | nil => simp [splitGroup] at h
  | cons node rest ih =>
    unfold splitGroup at h
    split at h
    · simp only [Option.some.injEq, Prod.mk.injEq] at h
      obtain ⟨rfl, rfl⟩ := h
      simp
    all_goals
      obtain ⟨⟨i, a⟩, hs, he⟩ := Option.map_eq_some_iff.mp h
      simp only [Prod.mk.injEq] at he
      obtain ⟨rfl, rfl⟩ := he
      have := ih hs
      simp only [List.length_cons]
      omega

structure Progress where
  /-- A `*` or `/` that waits for its right operand. -/
  pending : Option Operator := none
  expectValue : Bool := true
  /-- A `+` or `-` whose left side waits in the accumulator. -/
  low : Option Operator := none
  /-- Whether this level has an accumulator, which is the first hidden slot it may use. -/
  hasAccumulator : Bool := false

/-- The first slot that is free for the groups of a level whose own first slot is `next`. -/
def Progress.free (s : Progress) (next : Nat) : Nat := if s.hasAccumulator then next + 1 else next

/-- Whether the term at the head of the nodes is one operand that no `*` or `/` follows. -/
def simpleTerm : List Node → Bool
  | node :: rest =>
    node.isOperand && match rest with
      | [] => true
      | .operator op :: _ => op.isLow
      | _ => false
  | [] => false

def foldInto (c : Compiler) (accumulator : Nat) (op : Operator) : List Operation :=
  (c.hidden accumulator).read :: .heldToA :: op.operations

/-- The code of the nodes of one level, whose first hidden slot is `next`. -/
def compileFrom (c : Compiler) (next : Nat) (s : Progress) (nodes : List Node) :
    Except Fault (List Operation) :=
  match nodes with
  | [] =>
    if s.expectValue then .error .endsWithoutOperand
    else .ok (s.low.elim [] (c.foldInto next))
  | .operator .openParen :: rest =>
    if !s.expectValue then .error (.missingOperator (.operator .openParen))
    else
      match h : splitGroup 0 rest with
      | none => .error .unbalanced
      | some (inner, after) =>
        have := length_splitGroup h
        match s.pending with
        | none => do
          let group ← c.compileFrom (s.free next) {} inner
          let more ← c.compileFrom next { s with expectValue := false } after
          return group ++ more
        | some op => do
          -- The term in register b waits in a slot while the group is computed.
          let slot ← c.allocate (s.free next)
          let group ← c.compileFrom (slot + 1) {} inner
          let more ← c.compileFrom next { s with expectValue := false, pending := none } after
          return (c.hidden slot).write :: group ++ c.foldInto slot op ++ more
  | .operator .closeParen :: _ => .error .unbalanced
  | .operator op :: rest =>
    if s.expectValue then .error (.noLeftOperand op)
    else if op.isHigh then
      c.compileFrom next { s with expectValue := true, pending := some op } rest
    else do
      let sum := s.low.elim [] (c.foldInto next)
      if simpleTerm rest then
        match rest with
        | [] => .error .endsWithoutOperand
        | right :: rest =>
          let load ← c.operand right
          let more ← c.compileFrom next { s with expectValue := false, low := none } rest
          return sum ++ .swap :: load ++ op.operations ++ more
      else
        if !s.hasAccumulator then
          let _ ← c.allocate next
        let more ← c.compileFrom next
          { s with expectValue := true, low := some op, hasAccumulator := true } rest
        return sum ++ (c.hidden next).write :: more
  | node :: rest =>
    if !s.expectValue then .error (.missingOperator node)
    else do
      let load ← c.operand node
      let more ← c.compileFrom next { s with expectValue := false, pending := none } rest
      return match s.pending with
        | none => load ++ more
        | some op => .swap :: load ++ op.operations ++ more
termination_by nodes.length
decreasing_by all_goals simp_all <;> omega

def expression (c : Compiler) (next : Nat) (e : Expression) : Except Fault (List Operation) :=
  if e.isEmpty then .error .emptyExpression else c.compileFrom next {} e

end Compiler
end Birl
