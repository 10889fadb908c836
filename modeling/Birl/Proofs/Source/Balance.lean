import Birl.Proofs.Expression
import Birl.Proofs.Source.Expression

/-!
# Balanced expressions are derived

Operands and operators that alternate between balanced parentheses are just what the grammar of
expressions derives (`balanced_iff`), as long as the nodes mean something at all (`Node.Known`).
-/

namespace Birl

/-- The node has one of the valid kinds, and an operator means something. -/
def Node.Known : Node → Prop
  | value _ | symbol _ => True
  | operator op => op ≠ .unknown
  | unknown _ => False

theorem Node.Known.isOperand {n : Node} (h : n.Known) (hop : ∀ op, n ≠ .operator op) :
    n.isOperand = true := by
  cases n with
  | operator op => exact absurd rfl (hop op)
  | unknown op => exact h.elim
  | _ => rfl

-- ---------------------------------------------------------------------------
-- One node
-- ---------------------------------------------------------------------------

namespace Expression

theorem balanced_operand {n : Node} {t : Tree} (h : n.tree? = some t) (depth : ℕ)
    (rest : Expression) :
    balanced depth true (n :: rest) = balanced depth false rest := by
  cases n <;> cases h <;> simp [balanced, Node.starts, Node.shift, Node.opens]

theorem balanced_operator {op : Operator} (hopen : op ≠ .openParen) (hclose : op ≠ .closeParen)
    (depth : ℕ) (rest : Expression) :
    balanced depth false (.operator op :: rest) = balanced depth true rest := by
  cases op <;> simp_all [balanced, Node.starts, Node.shift, Node.opens]

theorem balanced_arithmetic (op : Arithmetic) (depth : ℕ) (rest : Expression) :
    balanced depth false (.operator op.operator :: rest) = balanced depth true rest := by
  cases op <;> exact balanced_operator Operator.noConfusion Operator.noConfusion depth rest

theorem balanced_open (depth : ℕ) (rest : Expression) :
    balanced depth true (.operator .openParen :: rest) = balanced (depth + 1) true rest := by
  have hup : 0 ≤ (depth : ℤ) + 1 := by omega
  have hnat : ((depth : ℤ) + 1).toNat = depth + 1 := by omega
  simp [balanced, Node.starts, Node.shift, Node.opens, hup, hnat]

theorem balanced_close (depth : ℕ) (rest : Expression) :
    balanced (depth + 1) false (.operator .closeParen :: rest) = balanced depth false rest := by
  simp [balanced, Node.starts, Node.shift, Node.opens]

end Expression

open Expression

-- ---------------------------------------------------------------------------
-- What is derived is balanced
-- ---------------------------------------------------------------------------

theorem Derives.balanced {level : Level} {nodes : List Node} {t : Tree}
    (h : Derives level nodes t) (depth : ℕ) (rest : Expression) :
    Expression.balanced depth true (nodes ++ rest) = Expression.balanced depth false rest := by
  induction h generalizing depth rest with
  | literal k => exact balanced_operand (n := .value k) rfl depth rest
  | named name => exact balanced_operand (n := .symbol name) rfl depth rest
  | group _ ih =>
    rw [List.cons_append, List.append_assoc, List.singleton_append, balanced_open, ih,
      balanced_close]
  | factor _ ih => exact ih depth rest
  | product _ _ _ ihl ihr =>
    rw [List.append_assoc, List.cons_append, ihl, balanced_arithmetic, ihr]
  | term _ ih => exact ih depth rest
  | sum _ _ _ ihl ihr =>
    rw [List.append_assoc, List.cons_append, ihl, balanced_arithmetic, ihr]

theorem Derives.known {level : Level} {nodes : List Node} {t : Tree} (h : Derives level nodes t) :
    ∀ n ∈ nodes, n.Known := by
  have hoperator (op : Arithmetic) : Node.Known (.operator op.operator) := by
    cases op <;> exact Operator.noConfusion
  induction h with
  | literal k => simp [Node.Known]
  | named name => simp [Node.Known]
  | group _ ih => simpa [Node.Known, or_imp, forall_and] using ih
  | factor _ ih => exact ih
  | product _ _ _ ihl ihr => simpa [or_imp, forall_and, hoperator] using And.intro ihl ihr
  | term _ ih => exact ih
  | sum _ _ _ ihl ihr => simpa [or_imp, forall_and, hoperator] using And.intro ihl ihr

-- ---------------------------------------------------------------------------
-- What is balanced is derived
-- ---------------------------------------------------------------------------

theorem splitGroup_cons {n : Node} {opened : ℕ} (h : 0 ≤ opened + n.shift)
    (rest : Expression) :
    Compiler.splitGroup opened (n :: rest) =
      (Compiler.splitGroup (opened + n.shift).toNat rest).map fun (inner, after) =>
        (n :: inner, after) := by
  cases n with
  | operator op =>
    cases op with
    | openParen =>
      have hup : ((opened : ℤ) + Node.shift (.operator .openParen)).toNat = opened + 1 := by
        simp only [Node.shift]
        omega
      rw [hup]
      cases opened <;> rfl
    | closeParen =>
      cases opened with
      | zero => exact absurd h (by decide)
      | succ opened => simp [Compiler.splitGroup, Node.shift]
    | _ => simp [Compiler.splitGroup, Node.shift]
  | _ => simp [Compiler.splitGroup, Node.shift]

theorem shift_negative {n : Node} (h : n.shift < 0) : n = .operator .closeParen := by
  unfold Node.shift at h
  split at h
  · exact absurd h (by decide)
  · rfl
  · exact absurd h (by decide)

/-- The parenthesis that closes a group is found, and what is inside of the group and after it is
balanced. `opened` groups are open inside of it. -/
theorem splitGroup_balanced {depth opened : ℕ} {expectOperand : Bool} {nodes : Expression}
    (h : balanced (depth + 1 + opened) expectOperand nodes = true) :
    ∃ inner after, Compiler.splitGroup opened nodes = some (inner, after) ∧
      balanced opened expectOperand inner = true ∧ balanced depth false after = true := by
  induction nodes generalizing opened expectOperand with
  | nil => simp [balanced] at h
  | cons n rest ih =>
    obtain ⟨hstarts, depth', hdepth, hrest⟩ := balanced_cons h
    by_cases hinside : 0 ≤ (opened : ℤ) + n.shift
    · obtain ⟨opened', hopened⟩ := Int.eq_ofNat_of_zero_le hinside
      obtain rfl : depth' = depth + 1 + opened' := by omega
      obtain ⟨inner, after, hsplit, hinner, hafter⟩ := ih hrest
      refine ⟨n :: inner, after, ?_, ?_, hafter⟩
      · rw [splitGroup_cons hinside, hopened, Int.toNat_natCast, hsplit]
        rfl
      · simp [balanced, hstarts, hopened, hinner]
    · obtain rfl : n = .operator .closeParen := shift_negative (by omega)
      obtain rfl : opened = 0 := by
        simp only [Node.shift] at hinside
        omega
      obtain rfl : depth' = depth := by simpa [Node.shift] using hdepth
      exact ⟨[], rest, rfl, by rw [← hstarts]; rfl, hrest⟩

theorem group_balanced {depth : ℕ} {rest : Expression}
    (h : balanced depth true (.operator .openParen :: rest) = true) :
    ∃ inner after, Compiler.splitGroup 0 rest = some (inner, after) ∧
      balanced 0 true inner = true ∧ balanced depth false after = true := by
  rw [balanced_open] at h
  exact splitGroup_balanced h

theorem balanced_group {depth : ℕ} {rest inner after : Expression}
    (hs : Compiler.splitGroup 0 rest = some (inner, after))
    (h : balanced depth true (.operator .openParen :: rest) = true) :
    balanced 0 true inner = true ∧ balanced depth false after = true := by
  obtain ⟨inner', after', hsplit, hinner, hafter⟩ := group_balanced h
  rw [hs] at hsplit
  cases hsplit
  exact ⟨hinner, hafter⟩

theorem known_group {rest inner after : Expression}
    (hs : Compiler.splitGroup 0 rest = some (inner, after))
    (hknown : ∀ n ∈ .operator .openParen :: rest, n.Known) :
    (∀ n ∈ inner, n.Known) ∧ ∀ n ∈ after, n.Known := by
  rw [splitGroup_eq hs] at hknown
  exact ⟨fun n hn => hknown n (by simp [hn]), fun n hn => hknown n (by simp [hn])⟩

/-- Reading gets to the end of what is balanced. -/
theorem read_balanced {sum : Left} {state : Reading} {nodes : Expression}
    (hknown : ∀ n ∈ nodes, n.Known) (h : balanced 0 state.expectsValue nodes = true) :
    ∃ t, read sum state nodes = some t := by
  fun_induction read sum state nodes with
  | case1 => exact ⟨_, rfl⟩
  | case2 sum l op rest hnone =>
    have hop := hknown _ List.mem_cons_self
    cases op with
    | openParen | closeParen => simp [Reading.expectsValue, balanced, Node.starts, Node.shift] at h
    | unknown => exact absurd rfl hop
    | _ => cases hnone
  | case3 sum l op rest a ha _ ih =>
    obtain rfl := Arithmetic.operator_eq ha
    exact ih (List.forall_mem_cons.mp hknown).2 ((balanced_arithmetic a 0 rest).symm.trans h)
  | case4 sum l op rest a ha _ ih =>
    obtain rfl := Arithmetic.operator_eq ha
    exact ih (List.forall_mem_cons.mp hknown).2 ((balanced_arithmetic a 0 rest).symm.trans h)
  | case5 sum left k rest ih =>
    exact ih (List.forall_mem_cons.mp hknown).2 ((balanced_operand rfl 0 rest).symm.trans h)
  | case6 sum left name rest ih =>
    exact ih (List.forall_mem_cons.mp hknown).2 ((balanced_operand rfl 0 rest).symm.trans h)
  | case7 sum left rest hs =>
    obtain ⟨inner, after, hsplit, -⟩ := group_balanced h
    rw [hs] at hsplit
    cases hsplit
  | case8 sum left rest inner after hs _ hnone ihg =>
    obtain ⟨t, ht⟩ := ihg (known_group hs hknown).1 (balanced_group hs h).1
    rw [hnone] at ht
    cases ht
  | case9 sum left rest inner after hs _ group hg ihg ihm =>
    exact ihm (known_group hs hknown).2 (balanced_group hs h).2
  | case10 sum state nodes hend hop hvalue hsymbol hgroup =>
    rcases state with left | t <;> rcases nodes with _ | ⟨n, rest⟩
    · simp [Reading.expectsValue, balanced] at h
    · have hn := hknown _ List.mem_cons_self
      cases n with
      | value k => exact absurd rfl (hvalue left k rest rfl)
      | symbol name => exact absurd rfl (hsymbol left name rest rfl)
      | operator op =>
        cases op with
        | openParen => exact absurd rfl (hgroup left rest rfl)
        | _ => simp [Reading.expectsValue, balanced, Node.starts] at h
      | unknown op => exact hn.elim
    · exact absurd rfl (hend t rfl)
    · cases n with
      | operator op => exact absurd rfl (hop t op rest rfl)
      | _ => simp [Reading.expectsValue, balanced, Node.starts] at h

/-- Expressions of known nodes are derived where they are balanced. -/
theorem balanced_iff {nodes : Expression} (hknown : ∀ n ∈ nodes, n.Known) :
    balanced 0 true nodes = true ↔ ∃ t, Derives .sum nodes t := by
  constructor
  · intro h
    obtain ⟨t, ht⟩ : ∃ t, read none (.before none) nodes = some t := read_balanced hknown h
    exact ⟨t, read_iff.mp ht⟩
  · rintro ⟨t, ht⟩
    have h := ht.balanced 0 []
    rwa [List.append_nil] at h

end Birl
