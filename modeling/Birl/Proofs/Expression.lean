import Birl.Compiler.Expression
import Birl.Machine.Arithmetic

/-!
# What expressions mean

An expression is read as a tree: `*` and `/` bind tighter than `+` and `-`, all
of them associate to the left, and parentheses override (`Derives`). A tree is
evaluated on plain values, from left to right and up to the first error
(`Tree.eval`). `read` reads a list of nodes in one pass; it accepts what the
grammar derives and nothing else (`read_iff`), so an expression has one tree.
-/

namespace Birl

-- ---------------------------------------------------------------------------
-- Trees and their values
-- ---------------------------------------------------------------------------

def Operator.arithmetic? : Operator → Option Arithmetic
  | plus => some .add
  | minus => some .sub
  | times => some .mul
  | divide => some .div
  | _ => none

def Arithmetic.isHigh : Arithmetic → Bool
  | mul | div => true
  | add | sub => false

/-- An operation on integers, without bounds. Division goes toward zero. -/
def Arithmetic.exact : Arithmetic → Int → Int → Int
  | add, x, y => x + y
  | sub, x, y => x - y
  | mul, x, y => x * y
  | div, x, y => x.tdiv y

/-- An operation on plain values. Null spreads, two texts can be joined, two
Integers give the exact result wrapped to 64 bits, and other pairs of numbers are
taken as Numbers. -/
def Arithmetic.apply (op : Arithmetic) : Constant → Constant → Except ErrorKind Constant
  | .null, _ => .ok .null
  | _, .null => .ok .null
  | .text s, .text t => if op = .add then .ok (.text (s ++ t)) else .error .type
  | .text _, _ => .error .type
  | _, .text _ => .error .type
  | .int x, .int y =>
    if op = .div ∧ y = 0 then .error .divisionByZero
    else .ok (.int (Int64.ofInt (op.exact x.toInt y.toInt)))
  | .int x, .number y => .ok (.number (op.onNumbers (.ofInt64 x) y))
  | .number x, .int y => .ok (.number (op.onNumbers x (.ofInt64 y)))
  | .number x, .number y => .ok (.number (op.onNumbers x y))

/-- An expression with its structure. -/
inductive Tree where
  | literal (k : Constant)
  | named (name : Text)
  | apply (op : Arithmetic) (left right : Tree)

/-- The value of a tree, or the class of the first error, where names have the
values that `env` gives them. -/
def Tree.eval (env : Text → Option Constant) : Tree → Except ErrorKind Constant
  | literal k => .ok k
  | named name => (env name).elim (.error .unknownIdentifier) .ok
  | apply op left right =>
    match left.eval env with
    | .error kind => .error kind
    | .ok u =>
      match right.eval env with
      | .error kind => .error kind
      | .ok v => op.apply u v

-- ---------------------------------------------------------------------------
-- The grammar
-- ---------------------------------------------------------------------------

/-- The levels of the grammar: sums of terms, terms of factors, factors. -/
inductive Level where
  | sum
  | term
  | factor

/-- The nodes that can be read as a tree. -/
inductive Derives : Level → List Node → Tree → Prop
  | literal (k : Constant) : Derives .factor [.value k] (.literal k)
  | named (name : Text) : Derives .factor [.symbol name] (.named name)
  | group {nodes : List Node} {t : Tree} (h : Derives .sum nodes t) :
      Derives .factor (.operator .openParen :: (nodes ++ [.operator .closeParen])) t
  | factor {nodes : List Node} {t : Tree} (h : Derives .factor nodes t) : Derives .term nodes t
  | product {left right : List Node} {l r : Tree} {op : Arithmetic} (hl : Derives .term left l)
      (ho : op.isHigh = true) (hr : Derives .factor right r) :
      Derives .term (left ++ .operator op.operator :: right) (.apply op l r)
  | term {nodes : List Node} {t : Tree} (h : Derives .term nodes t) : Derives .sum nodes t
  | sum {left right : List Node} {l r : Tree} {op : Arithmetic} (hl : Derives .sum left l)
      (ho : op.isHigh = false) (hr : Derives .term right r) :
      Derives .sum (left ++ .operator op.operator :: right) (.apply op l r)

-- ---------------------------------------------------------------------------
-- Reading in one pass
-- ---------------------------------------------------------------------------

/-- A tree with the operation that joins it to what is read next, if there is one. -/
abbrev Left := Option (Tree × Arithmetic)

def Left.join : Left → Tree → Tree
  | none, t => t
  | some (l, op), t => .apply op l t

/-- How far a term is read: before an operand, with the product on its left, or
after one. -/
inductive Reading where
  | before (left : Left)
  | after (t : Tree)

def Reading.expectsValue : Reading → Bool
  | before _ => true
  | after _ => false

theorem Reading.eq_before {state : Reading} (h : state.expectsValue = true) :
    ∃ left, state = .before left := by
  cases state with
  | before left => exact ⟨left, rfl⟩
  | after _ => cases h

theorem Reading.eq_after {state : Reading} (h : state.expectsValue = false) :
    ∃ t, state = .after t := by
  cases state with
  | before _ => cases h
  | after t => exact ⟨t, rfl⟩

/-- Reads the rest of an expression after the sum on its left. -/
def read (sum : Left) (state : Reading) (nodes : List Node) : Option Tree :=
  match state, nodes with
  | .after t, [] => some (sum.join t)
  | .after t, .operator op :: rest =>
    match op.arithmetic? with
    | none => none
    | some op =>
      if op.isHigh then read sum (.before (some (t, op))) rest
      else read (some (sum.join t, op)) (.before none) rest
  | .before left, .value k :: rest => read sum (.after (left.join (.literal k))) rest
  | .before left, .symbol name :: rest => read sum (.after (left.join (.named name))) rest
  | .before left, .operator .openParen :: rest =>
    match h : Compiler.splitGroup 0 rest with
    | none => none
    | some (inner, after) =>
      have := Compiler.length_splitGroup h
      match read none (.before none) inner with
      | none => none
      | some group => read sum (.after (left.join group)) after
  | _, _ => none
termination_by nodes.length
decreasing_by all_goals simp_all <;> omega

-- ---------------------------------------------------------------------------
-- What is read is derived
-- ---------------------------------------------------------------------------

theorem Arithmetic.operator_eq {op : Operator} {a : Arithmetic} (h : op.arithmetic? = some a) :
    op = a.operator := by
  cases op <;> cases h <;> rfl

theorem Arithmetic.arithmetic?_operator (op : Arithmetic) : op.operator.arithmetic? = some op := by
  cases op <;> rfl

theorem splitGroup_eq {depth : Nat} {nodes inner after : List Node}
    (h : Compiler.splitGroup depth nodes = some (inner, after)) :
    nodes = inner ++ .operator .closeParen :: after := by
  induction nodes generalizing depth inner after with
  | nil => simp [Compiler.splitGroup] at h
  | cons node rest ih =>
    unfold Compiler.splitGroup at h
    split at h
    · cases h
      rfl
    all_goals
      obtain ⟨⟨inner', after'⟩, hs, he⟩ := Option.map_eq_some_iff.mp h
      cases he
      rw [ih hs, List.cons_append]

def Left.ReadFrom (level : Level) (high : Bool) : Left → List Node → Prop
  | none, nodes => nodes = []
  | some (l, op), nodes =>
    op.isHigh = high ∧ ∃ left, Derives level left l ∧ nodes = left ++ [.operator op.operator]

theorem Left.derives_product {left : Left} {nodes right : List Node} {t : Tree}
    (h : left.ReadFrom .term true nodes) (hr : Derives .factor right t) :
    Derives .term (nodes ++ right) (left.join t) := by
  match left with
  | none =>
    cases h
    exact .factor hr
  | some (l, op) =>
    obtain ⟨ho, ls, hl, rfl⟩ := h
    simpa [Left.join] using Derives.product hl ho hr

theorem Left.derives_sum {sum : Left} {nodes right : List Node} {t : Tree}
    (h : sum.ReadFrom .sum false nodes) (hr : Derives .term right t) :
    Derives .sum (nodes ++ right) (sum.join t) := by
  match sum with
  | none =>
    cases h
    exact .term hr
  | some (l, op) =>
    obtain ⟨ho, ls, hl, rfl⟩ := h
    simpa [Left.join] using Derives.sum hl ho hr

/-- The nodes of the term that is being read. -/
def Reading.ReadFrom : Reading → List Node → Prop
  | .before left, nodes => left.ReadFrom .term true nodes
  | .after t, nodes => Derives .term nodes t

theorem read_sound {sum : Left} {state : Reading} {nodes : List Node} {t : Tree}
    (h : read sum state nodes = some t) (first second : List Node)
    (hsum : sum.ReadFrom .sum false first) (hstate : state.ReadFrom second) : Derives .sum (first ++ (second ++ nodes)) t := by
  fun_induction read sum state nodes generalizing first second t with
  | case1 =>
    cases h
    simpa using Left.derives_sum hsum hstate
  | case3 sum l op rest a ha hhigh ih =>
    obtain rfl := Arithmetic.operator_eq ha
    have := ih h first (second ++ [.operator a.operator]) hsum ⟨hhigh, second, hstate, rfl⟩
    simpa using this
  | case4 sum l op rest a ha hlow ih =>
    obtain rfl := Arithmetic.operator_eq ha
    have := ih h (first ++ second ++ [.operator a.operator]) []
      ⟨by simpa using hlow, first ++ second, Left.derives_sum hsum hstate, rfl⟩ rfl
    simpa using this
  | case5 sum left k rest ih =>
    have := ih h first _ hsum (Left.derives_product hstate (.literal k))
    simpa using this
  | case6 sum left name rest ih =>
    have := ih h first _ hsum (Left.derives_product hstate (.named name))
    simpa using this
  | case9 sum left rest inner after hs _ group hg ihg ihm =>
    have hgroup := ihg hg [] [] rfl rfl
    have := ihm h first _ hsum (Left.derives_product hstate (.group hgroup))
    simpa [splitGroup_eq hs] using this
  | _ => cases h

-- ---------------------------------------------------------------------------
-- What is derived is read
-- ---------------------------------------------------------------------------

theorem splitGroup_derives {level : Level} {nodes : List Node} {t : Tree}
    (h : Derives level nodes t) (depth : Nat) (rest : List Node) :
    Compiler.splitGroup depth (nodes ++ rest) =
      (Compiler.splitGroup depth rest).map fun (inner, after) => (nodes ++ inner, after) := by
  have hop (op : Arithmetic) (depth : Nat) (rest : List Node) :
      Compiler.splitGroup depth (.operator op.operator :: rest) =
        (Compiler.splitGroup depth rest).map fun (inner, after) =>
          (.operator op.operator :: inner, after) := by
    cases op <;> rfl
  induction h generalizing depth rest with
  | literal k => rfl
  | named name => rfl
  | @group nodes t _ ih =>
    have hopen : Compiler.splitGroup depth (.operator .openParen ::
        (nodes ++ .operator .closeParen :: rest)) =
          (Compiler.splitGroup (depth + 1) (nodes ++ .operator .closeParen :: rest)).map
            fun (inner, after) => (.operator .openParen :: inner, after) := by
      cases depth <;> rfl
    have hclose : Compiler.splitGroup (depth + 1) (.operator .closeParen :: rest) =
        (Compiler.splitGroup depth rest).map fun (inner, after) =>
          (.operator .closeParen :: inner, after) := rfl
    rw [List.cons_append, List.append_assoc, List.singleton_append, hopen, ih, hclose]
    simp [Function.comp_def]
  | factor _ ih => exact ih depth rest
  | product _ _ _ ihl ihr =>
    rw [List.append_assoc, List.cons_append, ihl, hop, ihr]
    simp [Function.comp_def]
  | term _ ih => exact ih depth rest
  | sum _ _ _ ihl ihr =>
    rw [List.append_assoc, List.cons_append, ihl, hop, ihr]
    simp [Function.comp_def]

/-- Reading gets past nodes of a level and has their tree then. -/
def Passes : Level → List Node → Tree → Prop
  | .factor, nodes, t => ∀ sum left rest,
      read sum (.before left) (nodes ++ rest) = read sum (.after (left.join t)) rest
  | .term, nodes, t => ∀ sum rest,
      read sum (.before none) (nodes ++ rest) = read sum (.after t) rest
  | .sum, nodes, t => ∃ (sum : Left) (last : Tree), sum.join last = t ∧
      ∀ rest, read none (.before none) (nodes ++ rest) = read sum (.after last) rest

theorem read_arithmetic (sum : Left) (l : Tree) (op : Arithmetic) (rest : List Node) :
    read sum (.after l) (.operator op.operator :: rest) =
      if op.isHigh then read sum (.before (some (l, op))) rest
      else read (some (sum.join l, op)) (.before none) rest := by
  rw [read]
  simp [Arithmetic.arithmetic?_operator]

theorem read_paren {rest inner after : List Node} {group : Tree}
    (hs : Compiler.splitGroup 0 rest = some (inner, after))
    (hg : read none (.before none) inner = some group) (sum left : Left) :
    read sum (.before left) (.operator .openParen :: rest) =
      read sum (.after (left.join group)) after := by
  rw [read]
  split
  · rename_i hnone
    rw [hs] at hnone
    cases hnone
  · rename_i hsome
    rw [hs] at hsome
    cases hsome
    simp [hg]

theorem Derives.passes {level : Level} {nodes : List Node} {t : Tree} (h : Derives level nodes t) :
    Passes level nodes t := by
  induction h with
  | literal k =>
    intro sum left rest
    rw [List.singleton_append, read]
  | named name =>
    intro sum left rest
    rw [List.singleton_append, read]
  | @group nodes t h ih =>
    intro sum left rest
    obtain ⟨sum', last, rfl, hread⟩ := ih
    have hsplit : Compiler.splitGroup 0 (nodes ++ .operator .closeParen :: rest) = some (nodes, rest) := by
      rw [splitGroup_derives h]
      simp [Compiler.splitGroup]
    have hgroup : read none (.before none) nodes = some (sum'.join last) := by
      have := hread []
      rw [List.append_nil] at this
      rw [this, read]
    rw [List.cons_append, List.append_assoc, List.singleton_append, read_paren hsplit hgroup]
  | factor _ ih =>
    intro sum rest
    exact ih sum none rest
  | product _ ho _ ihl ihr =>
    intro sum rest
    rw [List.append_assoc, List.cons_append, ihl, read_arithmetic, if_pos ho, ihr]
    rfl
  | @term nodes t _ ih => exact ⟨none, t, rfl, fun rest => ih none rest⟩
  | @sum left right l r op _ ho _ ihl ihr =>
    obtain ⟨sum', last, rfl, hread⟩ := ihl
    refine ⟨some (sum'.join last, op), r, rfl, fun rest => ?_⟩
    rw [List.append_assoc, List.cons_append, hread, read_arithmetic, if_neg (by simp [ho]), ihr]

/-- Reading finds the tree of an expression. -/
theorem read_iff {nodes : List Node} {t : Tree} :
    read none (.before none) nodes = some t ↔ Derives .sum nodes t := by
  constructor
  · intro h
    exact read_sound h [] [] rfl rfl
  · intro h
    obtain ⟨sum, last, rfl, hread⟩ := h.passes
    have := hread []
    rw [List.append_nil] at this
    rw [this, read]

theorem Derives.unique {nodes : List Node} {t t' : Tree} (h : Derives .sum nodes t)
    (h' : Derives .sum nodes t') : t = t' :=
  Option.some.inj ((read_iff.mpr h).symm.trans (read_iff.mpr h'))

-- ---------------------------------------------------------------------------
-- Steps of reading
-- ---------------------------------------------------------------------------

def Node.tree? : Node → Option Tree
  | value k => some (.literal k)
  | symbol name => some (.named name)
  | _ => none

theorem read_operand {node : Node} {t : Tree} (h : node.tree? = some t) (sum left : Left)
    (rest : List Node) :
    read sum (.before left) (node :: rest) = read sum (.after (left.join t)) rest := by
  cases node with
  | value k => cases h; rw [read]
  | symbol name => cases h; rw [read]
  | _ => cases h

theorem read_operator {sum : Left} {l : Tree} {op : Operator} {rest : List Node} {t : Tree}
    (h : read sum (.after l) (.operator op :: rest) = some t) :
    ∃ a : Arithmetic, op = a.operator ∧
      (if a.isHigh then read sum (.before (some (l, a))) rest
        else read (some (sum.join l, a)) (.before none) rest) = some t := by
  rw [read] at h
  split at h
  · cases h
  · rename_i a ha
    exact ⟨a, Arithmetic.operator_eq ha, h⟩

theorem read_group {sum left : Left} {rest inner after : List Node} {t : Tree}
    (hs : Compiler.splitGroup 0 rest = some (inner, after))
    (h : read sum (.before left) (.operator .openParen :: rest) = some t) :
    ∃ group, read none (.before none) inner = some group ∧
      read sum (.after (left.join group)) after = some t := by
  rw [read] at h
  split at h
  · cases h
  · rename_i hs'
    rw [hs] at hs'
    cases hs'
    split at h
    · cases h
    · rename_i group hg
      exact ⟨group, hg, h⟩

theorem Arithmetic.isHigh_operator (a : Arithmetic) : a.operator.isHigh = a.isHigh := by
  cases a <;> rfl

/-- A single operand on the right of `+` or `-` can be joined to the sum at once. -/
theorem read_simple {node : Node} {rest : List Node} (hs : Compiler.simpleTerm (node :: rest) = true)
    (l r : Tree) (op : Arithmetic) :
    read (some (l, op)) (.after r) rest = read none (.after (.apply op l r)) rest := by
  cases rest with
  | nil => simp [read, Left.join]
  | cons next rest =>
    cases next with
    | operator next =>
      simp only [Compiler.simpleTerm, Bool.and_eq_true] at hs
      cases next <;> simp [Operator.isLow] at hs <;>
        simp [read, Operator.arithmetic?, Arithmetic.isHigh, Left.join]
    | _ => simp [Compiler.simpleTerm] at hs

-- ---------------------------------------------------------------------------
-- Errors come in the order of reading
-- ---------------------------------------------------------------------------

section
variable {env : Text → Option Constant} {kind : ErrorKind}

/-- The left side, if there is one, has a value. -/
def Left.Fine (env : Text → Option Constant) (left : Left) : Prop :=
  ∀ l op, left = some (l, op) → ∃ u, l.eval env = .ok u

def Left.Fails (env : Text → Option Constant) (kind : ErrorKind) (left : Left) : Prop :=
  ∃ l op, left = some (l, op) ∧ l.eval env = .error kind

def Reading.Fails (env : Text → Option Constant) (kind : ErrorKind) : Reading → Prop
  | .before left => left.Fails env kind
  | .after t => t.eval env = .error kind

theorem Left.Fails.eval_join {left : Left} (h : left.Fails env kind) (t : Tree) :
    (left.join t).eval env = .error kind := by
  obtain ⟨l, op, rfl, hl⟩ := h
  simp [Left.join, Tree.eval, hl]

theorem Left.Fine.eval_join {left : Left} (h : left.Fine env) {t : Tree}
    (ht : t.eval env = .error kind) : (left.join t).eval env = .error kind := by
  match left with
  | none => exact ht
  | some (l, op) =>
    obtain ⟨u, hu⟩ := h l op rfl
    simp [Left.join, Tree.eval, hu, ht]

/-- An error in the sum so far is the error of the whole expression. -/
theorem read_fails_sum {sum : Left} {state : Reading} {nodes : List Node} {t : Tree}
    (h : read sum state nodes = some t) (hsum : sum.Fails env kind) : t.eval env = .error kind := by
  fun_induction read sum state nodes generalizing t with
  | case1 =>
    cases h
    exact hsum.eval_join _
  | case3 _ _ _ _ _ _ _ ih => exact ih h hsum
  | case4 sum l _ _ op _ _ ih => exact ih h ⟨_, op, rfl, hsum.eval_join l⟩
  | case5 _ _ _ _ ih => exact ih h hsum
  | case6 _ _ _ _ ih => exact ih h hsum
  | case9 _ _ _ _ _ _ _ _ _ _ ih => exact ih h hsum
  | _ => cases h

/-- An error in the term so far is the error of the whole expression, where the
sum on its left has a value. -/
theorem read_fails {sum : Left} {state : Reading} {nodes : List Node} {t : Tree}
    (h : read sum state nodes = some t) (hsum : sum.Fine env) (hstate : state.Fails env kind) :
    t.eval env = .error kind := by
  fun_induction read sum state nodes generalizing t with
  | case1 =>
    cases h
    exact hsum.eval_join hstate
  | case3 _ l _ _ op _ _ ih => exact ih h hsum ⟨l, op, rfl, hstate⟩
  | case4 sum l _ _ op => exact read_fails_sum h ⟨_, op, rfl, hsum.eval_join hstate⟩
  | case5 _ _ k _ ih => exact ih h hsum (hstate.eval_join (.literal k))
  | case6 _ _ name _ ih => exact ih h hsum (hstate.eval_join (.named name))
  | case9 _ _ _ _ _ _ _ group _ _ ih => exact ih h hsum (hstate.eval_join group)
  | _ => cases h

end

end Birl
