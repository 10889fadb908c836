import Birl.Command.Parse
import Birl.Proofs.Compiler.Expression
import Birl.Proofs.Source.Decimal
import Birl.Proofs.Source.Token

/-!
# Expressions written and read

The nodes that reading gives (`Node.Readable`) are each said by one token, or by a minus
and the token of a number (`Node.said`). The text of an expression is read as the tokens
of its nodes (`spells_expression`), and from these tokens the expression is parsed
(`expression_said`).
-/

namespace Birl

-- ---------------------------------------------------------------------------
-- Nodes and their tokens
-- ---------------------------------------------------------------------------

/-- The literals that are read from a text. -/
def Constant.Readable : Constant → Prop
  | null => False
  | int n => -(integerEnd : ℤ) < n.toInt
  | number x => x.Plain ∨ ∃ y : Number, y.Plain ∧ x = y.negate
  | text t => ∃ cs, t = .ofChars cs

def Node.Readable : Node → Prop
  | value k => k.Readable
  | symbol name => name.IsWord
  | operator op => op ≠ .unknown
  | unknown _ => False

def Constant.said : Constant → List Said
  | null => []
  | int n =>
    if n.toInt < 0 then [{ kind := .minus }, { kind := .integer (-n) }]
    else [{ kind := .integer n }]
  | number x =>
    if x.isNegative then [{ kind := .minus }, { kind := .number x.negate }]
    else [{ kind := .number x }]
  | text t => [{ kind := .string t }]

def Operator.said : Operator → List Said
  | plus => [{ kind := .plus }]
  | minus => [{ kind := .minus }]
  | times => [{ kind := .times }]
  | divide => [{ kind := .divide }]
  | openParen => [{ kind := .openParen }]
  | closeParen => [{ kind := .closeParen }]
  | unknown => []

def Node.said : Node → List Said
  | value k => k.said
  | symbol name => [⟨.word, name⟩]
  | operator op => op.said
  | unknown _ => []

def Node.starts : Node → Bool
  | operator .openParen => true
  | operator _ => false
  | _ => true

def Node.opens : Node → Bool
  | operator .closeParen => false
  | operator _ => true
  | _ => false

/-- What the node adds to the number of open parentheses. -/
def Node.shift : Node → ℤ
  | operator .openParen => 1
  | operator .closeParen => -1
  | _ => 0

namespace Number

theorem negate_negate (x : Number) : x.negate.negate = x := by
  cases x
  simp only [negate, UInt64.xor_assoc, UInt64.xor_self, UInt64.xor_zero]

theorem Plain.isNegative {x : Number} (h : x.Plain) : x.isNegative = false := by
  have hlt : x.bits.toNat < 0x8000000000000000 := Nat.lt_trans h (by decide)
  simpa [Number.isNegative] using hlt

theorem Plain.isNegative_negate {x : Number} (h : x.Plain) : x.negate.isNegative = true := by
  simp [Number.isNegative, h.bits_negate]

end Number

/-- A node is said by one token, which is its own, or by a minus and the token of a number that
the minus turns into the node. -/
theorem Node.said_cases {n : Node} (h : n.Readable) :
    (∃ s, n.said = [s] ∧ ∀ t : Token, t.said = s → Parse.nodeOf? t = some (n, n.opens)) ∨
    (n.starts = true ∧ n.opens = false ∧ n.shift = 0 ∧
      ∃ s, n.said = [{ kind := .minus }, s] ∧ ∀ t : Token, t.said = s → Parse.negated? t = some n) := by
  have hown {kind : TokenKind} (hs : n.said = [{ kind }])
      (hn : ∀ t : Token, t.kind = kind → Parse.nodeOf? t = some (n, n.opens)) :
      ∃ s, n.said = [s] ∧ ∀ t : Token, t.said = s → Parse.nodeOf? t = some (n, n.opens) :=
    ⟨_, hs, fun t ht => hn t (Token.kind_of_said ht)⟩
  cases n with
  | value k =>
    cases k with
    | null => exact h.elim
    | int n =>
      by_cases hneg : n.toInt < 0
      · refine .inr ⟨rfl, rfl, rfl, _, if_pos hneg, ?_⟩
        intro t ht
        simp [Parse.negated?, Token.kind_of_said ht]
      · exact .inl (hown (if_neg hneg) fun t ht => by simp [Parse.nodeOf?, ht, Node.opens])
    | number x =>
      rcases h with hx | ⟨y, hy, rfl⟩
      · refine .inl (hown (if_neg (by simp [hx.isNegative])) ?_)
        intro t ht
        simp [Parse.nodeOf?, ht, Node.opens]
      · refine .inr ⟨rfl, rfl, rfl, _, if_pos hy.isNegative_negate, ?_⟩
        intro t ht
        simp [Parse.negated?, Token.kind_of_said ht, Number.negate_negate]
    | text content => exact .inl (hown rfl fun t ht => by simp [Parse.nodeOf?, ht, Node.opens])
  | symbol name =>
    refine .inl ⟨_, rfl, ?_⟩
    intro t ht
    obtain ⟨hkind, hlexeme⟩ := Token.word_of_said ht
    simp [Parse.nodeOf?, hkind, hlexeme, Node.opens]
  | operator op =>
    cases op with
    | unknown => exact absurd rfl h
    | _ => exact .inl (hown rfl fun t ht => by simp [Parse.nodeOf?, ht, Node.opens])
  | unknown _ => exact h.elim

theorem nodeOf?_kind {t : Token} {n : Node} {b : Bool} (h : Parse.nodeOf? t = some (n, b)) :
    (t.kind = .minus → n = .operator .minus) ∧ t.kind ≠ .comma ∧
      n.shift = match t.kind with
        | .openParen => 1
        | .closeParen => -1
        | _ => 0 := by
  unfold Parse.nodeOf? at h
  split at h
  all_goals
    rename_i hkind
    cases h <;> simp [hkind, Node.shift]

-- ---------------------------------------------------------------------------
-- Alternation and balance
-- ---------------------------------------------------------------------------

/-- Operands and operators alternate, and the parentheses after `depth` open ones balance. -/
def Expression.balanced (depth : ℕ) (expectOperand : Bool) : Expression → Bool
  | [] => depth == 0 && !expectOperand
  | n :: rest =>
    n.starts == expectOperand && decide (0 ≤ depth + n.shift) &&
      Expression.balanced (depth + n.shift).toNat n.opens rest

theorem balanced_cons {depth : ℕ} {expectOperand : Bool} {n : Node} {rest : Expression}
    (h : Expression.balanced depth expectOperand (n :: rest) = true) :
    n.starts = expectOperand ∧ ∃ depth' : ℕ, (depth' : ℤ) = depth + n.shift ∧
      Expression.balanced depth' n.opens rest = true := by
  simp only [Expression.balanced, Bool.and_eq_true, beq_iff_eq, decide_eq_true_eq] at h
  exact ⟨h.1.1, _, Int.toNat_of_nonneg h.1.2, h.2⟩

/-- What is checked depends on the nodes alone. -/
theorem validateFrom_iff {first depth : ℕ} {expectOperand : Bool} {placed : List PlacedNode} :
    Parse.validateFrom first depth expectOperand placed = .ok () ↔
      Expression.balanced depth expectOperand (placed.map PlacedNode.node) = true := by
  induction placed generalizing depth expectOperand with
  | nil =>
    cases expectOperand <;>
      by_cases hd : depth = 0 <;> simp [Parse.validateFrom, Expression.balanced, Parse.failAtEnd, hd]
  | cons p rest ih =>
    obtain ⟨node, t⟩ := p
    have hup : ((depth : ℤ) + 1).toNat = depth + 1 := by omega
    have hdown : ((depth : ℤ) + -1).toNat = depth - 1 := by omega
    have hleast : 0 ≤ (depth : ℤ) + -1 ↔ depth ≠ 0 := by omega
    have hnonneg : 0 ≤ (depth : ℤ) + 1 := by omega
    rw [List.map_cons]
    unfold Parse.validateFrom Expression.balanced
    cases node with
    | operator op =>
      cases op <;> cases expectOperand <;>
        simp [Node.starts, Node.shift, Node.opens, Parse.failAt, ih, hup, hdown, hleast, hnonneg]
      by_cases hd : depth = 0 <;> simp [hd, ih]
    | _ =>
      cases expectOperand <;> simp [Node.starts, Node.shift, Node.opens, Parse.failAt, ih]

-- ---------------------------------------------------------------------------
-- Tokens parsed as an expression
-- ---------------------------------------------------------------------------

structure Expression.Readable (e : Expression) : Prop where
  nodes : ∀ n ∈ e, n.Readable
  balanced : Expression.balanced 0 true e = true

def Expression.said (e : Expression) : List Said := e.flatMap Node.said

theorem tokens_append {tokens : List Token} {said said' : List Said}
    (h : tokens.map Token.said = said ++ said') :
    ∃ first second, tokens = first ++ second ∧ first.map Token.said = said ∧
      second.map Token.said = said' := by
  obtain ⟨first, second, rfl, hfirst, hsecond⟩ := List.map_eq_append_iff.mp h
  exact ⟨first, second, rfl, hfirst, hsecond⟩

theorem tokens_cons {tokens : List Token} {s : Said} {said : List Said}
    (h : tokens.map Token.said = s :: said) :
    ∃ t rest, tokens = t :: rest ∧ t.said = s ∧ rest.map Token.said = said := by
  obtain ⟨t, rest, rfl, ht, hrest⟩ := List.map_eq_cons_iff.mp h
  exact ⟨t, rest, rfl, ht, hrest⟩

section
variable {t next : Token} {n : Node} {b expectOperand : Bool}

theorem nodes_own (hn : Parse.nodeOf? t = some (n, b))
    (hminus : ¬(t.kind = .minus ∧ expectOperand = true)) (rest : List Token) :
    Parse.nodes expectOperand (t :: rest) = (Parse.nodes b rest).map (⟨n, t⟩ :: ·) := by
  rw [Parse.nodes.eq_def]
  simp only [if_neg hminus, hn]
  cases Parse.nodes b rest <;> rfl

theorem nodes_negated (ht : t.kind = .minus) (hn : Parse.negated? next = some n)
    (rest : List Token) :
    Parse.nodes true (t :: next :: rest) = (Parse.nodes false rest).map (⟨n, next⟩ :: ·) := by
  rw [Parse.nodes, if_pos ⟨ht, rfl⟩]
  simp only [hn]
  cases Parse.nodes false rest <;> rfl

end

theorem nodes_said {e : Expression} {depth : ℕ} {expectOperand : Bool} {tokens : List Token}
    (hr : ∀ n ∈ e, n.Readable) (hb : e.balanced depth expectOperand = true)
    (ht : tokens.map Token.said = e.said) :
    ∃ placed, Parse.nodes expectOperand tokens = .ok placed ∧
      placed.map PlacedNode.node = e := by
  induction e generalizing depth expectOperand tokens with
  | nil =>
    have htokens : tokens = [] := List.map_eq_nil_iff.mp ht
    subst htokens
    exact ⟨[], by rw [Parse.nodes], rfl⟩
  | cons n e ih =>
    obtain ⟨hn, hr⟩ := List.forall_mem_cons.mp hr
    obtain ⟨hstarts, depth', -, hb⟩ := balanced_cons hb
    rcases Node.said_cases hn with ⟨s, hs, hnode⟩ | ⟨hoperand, hopens, -, s, hs, hnode⟩
    · rw [Expression.said, List.flatMap_cons, hs] at ht
      obtain ⟨t, rest, rfl, ht, hrest⟩ := tokens_cons ht
      have hnode := hnode t ht
      obtain ⟨placed, hplaced, hnodes⟩ := ih hr hb hrest
      have hminus : ¬(t.kind = .minus ∧ expectOperand = true) := by
        rintro ⟨hkind, rfl⟩
        rw [(nodeOf?_kind hnode).1 hkind] at hstarts
        cases hstarts
      refine ⟨⟨n, t⟩ :: placed, ?_, by simp [hnodes]⟩
      rw [nodes_own hnode hminus, hplaced]
      rfl
    · rw [Expression.said, List.flatMap_cons, hs] at ht
      obtain ⟨sign, rest, rfl, hsign, ht⟩ := tokens_cons ht
      obtain ⟨t, rest, rfl, ht, hrest⟩ := tokens_cons ht
      rw [hopens] at hb
      obtain ⟨placed, hplaced, hnodes⟩ := ih hr hb hrest
      obtain rfl : expectOperand = true := hstarts ▸ hoperand
      refine ⟨⟨n, t⟩ :: placed, ?_, by simp [hnodes]⟩
      rw [nodes_negated (Token.kind_of_said hsign) (hnode t ht), hplaced]
      rfl

theorem expression_iff {tokens : List Token} {placed : List PlacedNode} :
    Parse.expression tokens = .ok placed ↔
      Parse.nodes true tokens = .ok placed ∧
        Expression.balanced 0 true (placed.map PlacedNode.node) = true := by
  have hvalid (placed : List PlacedNode) : Parse.validate placed = .ok () ↔
      Expression.balanced 0 true (placed.map PlacedNode.node) = true := validateFrom_iff
  cases tokens with
  | nil =>
    rw [Parse.expression, if_pos List.isEmpty_nil, Parse.nodes]
    constructor
    · rintro ⟨⟩
    · rintro ⟨⟨⟩, ⟨⟩⟩
  | cons t rest =>
    rw [Parse.expression, if_neg (by simp)]
    simp only [bind_ok, pure_ok]
    constructor
    · rintro ⟨placed, hplaced, _, hb, rfl⟩
      exact ⟨hplaced, (hvalid placed).mp hb⟩
    · rintro ⟨hplaced, hb⟩
      exact ⟨placed, hplaced, (), (hvalid placed).mpr hb, rfl⟩

theorem expression_said {e : Expression} {tokens : List Token} (h : e.Readable)
    (ht : tokens.map Token.said = e.said) :
    ∃ placed, Parse.expression tokens = .ok placed ∧ placed.map PlacedNode.node = e := by
  obtain ⟨placed, hplaced, rfl⟩ := nodes_said h.nodes h.balanced ht
  exact ⟨placed, expression_iff.mpr ⟨hplaced, h.balanced⟩, rfl⟩

theorem splitArguments_ne_nil (depth : ℤ) (tokens : List Token) :
    Parse.splitArguments depth tokens ≠ [] := by
  cases tokens with
  | nil => simp [Parse.splitArguments]
  | cons t rest =>
    unfold Parse.splitArguments
    split
    · simp
    · dsimp only
      generalize Parse.splitArguments _ rest = pieces
      cases pieces <;> simp

theorem splitArguments_node {t : Token} {n : Node} {b : Bool} (h : Parse.nodeOf? t = some (n, b))
    (depth : ℤ) (rest : List Token) :
    Parse.splitArguments depth (t :: rest) =
      (Parse.splitArguments (depth + n.shift) rest).modifyHead (t :: ·) := by
  obtain ⟨-, hcomma, hshift⟩ := nodeOf?_kind h
  have hdepth : (match t.kind with
      | .openParen => depth + 1
      | .closeParen => depth - 1
      | _ => depth) = depth + n.shift := by
    rw [hshift]
    split <;> ring
  rw [Parse.splitArguments, if_neg (fun h => hcomma h.1), ← hdepth]
  dsimp only
  split
  · rename_i hnil
    exact absurd hnil (splitArguments_ne_nil _ _)
  · rename_i hcons
    exact (congrArg (List.modifyHead (t :: ·)) hcons).symm

/-- The commas between expressions are outside of all parentheses. -/
theorem splitArguments_said {e : Expression} {depth : ℕ} {expectOperand : Bool}
    {tokens : List Token} (hr : ∀ n ∈ e, n.Readable)
    (hb : e.balanced depth expectOperand = true) (ht : tokens.map Token.said = e.said)
    (rest : List Token) :
    Parse.splitArguments depth (tokens ++ rest) =
      (Parse.splitArguments 0 rest).modifyHead (tokens ++ ·) := by
  induction e generalizing depth expectOperand tokens with
  | nil =>
    have htokens : tokens = [] := List.map_eq_nil_iff.mp ht
    have hdepth : depth = 0 := by
      simp only [Expression.balanced, Bool.and_eq_true, beq_iff_eq] at hb
      exact hb.1
    rw [htokens, hdepth, Nat.cast_zero, List.nil_append]
    cases Parse.splitArguments 0 rest <;> rfl
  | cons n e ih =>
    obtain ⟨hn, hr⟩ := List.forall_mem_cons.mp hr
    obtain ⟨-, depth', hdepth, hb⟩ := balanced_cons hb
    rcases Node.said_cases hn with ⟨s, hs, hnode⟩ | ⟨-, -, hzero, s, hs, hnode⟩
    · rw [Expression.said, List.flatMap_cons, hs] at ht
      obtain ⟨t, more, rfl, ht, hmore⟩ := tokens_cons ht
      rw [List.cons_append, splitArguments_node (hnode t ht), ← hdepth, ih hr hb hmore]
      cases Parse.splitArguments 0 rest <;> rfl
    · rw [Expression.said, List.flatMap_cons, hs] at ht
      obtain ⟨sign, more, rfl, hsign, ht⟩ := tokens_cons ht
      obtain ⟨t, more, rfl, ht, hmore⟩ := tokens_cons ht
      have hsign : Parse.nodeOf? sign = some (.operator .minus, true) := by
        simp [Parse.nodeOf?, Token.kind_of_said hsign]
      obtain ⟨k, b, hown⟩ : ∃ k b, Parse.nodeOf? t = some (.value k, b) := by
        have hnegated := hnode t ht
        unfold Parse.negated? at hnegated
        split at hnegated <;> simp_all [Parse.nodeOf?]
      rw [List.cons_append, List.cons_append, splitArguments_node hsign, splitArguments_node hown,
        show (depth : ℤ) + Node.shift (.operator .minus) + Node.shift (.value k) = depth' by
          rw [hdepth, hzero]; simp [Node.shift], ih hr hb hmore]
      cases Parse.splitArguments 0 rest <;> rfl

def argumentsSaid (es : List Expression) : List Said :=
  es.flatMap fun e => { kind := .comma } :: e.said

theorem expressions_said {e : Expression} {es : List Expression} {tokens : List Token}
    (h : ∀ x ∈ e :: es, Expression.Readable x)
    (ht : tokens.map Token.said = e.said ++ argumentsSaid es) :
    ∃ placed, Parse.expressions tokens = .ok placed ∧
      placed.map (fun nodes => nodes.map PlacedNode.node) = e :: es := by
  induction es generalizing e tokens with
  | nil =>
    obtain ⟨first, second, rfl, hfirst, hsecond⟩ := tokens_append ht
    have he := h e (by simp)
    have hsecond : second = [] := List.map_eq_nil_iff.mp hsecond
    obtain ⟨placed, hplaced, hnodes⟩ := expression_said he hfirst
    refine ⟨[placed], ?_, by simp [hnodes]⟩
    have hsplit := splitArguments_said he.nodes he.balanced hfirst second
    rw [Nat.cast_zero] at hsplit
    rw [Parse.expressions, hsplit, hsecond]
    simp [Parse.splitArguments, hplaced]
  | cons e' es ih =>
    obtain ⟨first, second, rfl, hfirst, hsecond⟩ := tokens_append ht
    rw [argumentsSaid, List.flatMap_cons, List.cons_append] at hsecond
    obtain ⟨comma, rest, rfl, hcomma, hrest⟩ := tokens_cons hsecond
    obtain ⟨he, hes⟩ := List.forall_mem_cons.mp h
    obtain ⟨placed, hplaced, hnodes⟩ := expression_said he hfirst
    obtain ⟨more, hmore, hall⟩ := ih hes hrest
    refine ⟨placed :: more, ?_, by simp [hnodes, hall]⟩
    have hsplit := splitArguments_said he.nodes he.balanced hfirst (comma :: rest)
    rw [Nat.cast_zero] at hsplit
    have hkind : comma.kind = .comma := Token.kind_of_said hcomma
    rw [Parse.splitArguments, if_pos ⟨hkind, rfl⟩] at hsplit
    rw [Parse.expressions] at hmore ⊢
    simp [hsplit, hplaced, hmore]
    rfl

-- ---------------------------------------------------------------------------
-- What parsing gives
-- ---------------------------------------------------------------------------

theorem Token.Read.node {t : Token} (h : t.Read) {n : Node} {b : Bool}
    (hn : Parse.nodeOf? t = some (n, b)) : n.Readable := by
  unfold Parse.nodeOf? at hn
  unfold Token.Read at h
  split at hn
  all_goals
    rename_i hkind
    rw [hkind] at h
    cases hn
  · exact Int.lt_of_lt_of_le (by decide) h
  · exact .inl h
  · exact h
  · exact h
  all_goals exact Operator.noConfusion

theorem Token.Read.negated {t : Token} (h : t.Read) {n : Node}
    (hn : Parse.negated? t = some n) : n.Readable := by
  unfold Parse.negated? at hn
  unfold Token.Read at h
  split at hn
  · rename_i k hkind
    rw [hkind] at h
    cases hn
    have hlt := k.toInt_lt
    have hend : (integerEnd : ℤ) = 2 ^ 63 := rfl
    show -(integerEnd : ℤ) < (-k).toInt
    rw [Int64.toInt_neg, Int.bmod_eq_of_le]
    all_goals omega
  · rename_i x hkind
    rw [hkind] at h
    cases hn
    exact .inr ⟨x, h, rfl⟩
  · cases hn

/-- Every node that is parsed comes from tokens, or stands around the operand of a minus. -/
theorem readable_nodes {expectOperand : Bool} {tokens : List Token} {placed : List PlacedNode}
    (hr : ∀ t ∈ tokens, t.Read) (h : Parse.nodes expectOperand tokens = .ok placed) :
    ∀ p ∈ placed, p.node.Readable := by
  induction expectOperand, tokens using Parse.nodes.induct generalizing placed with
  | case1 =>
    rw [Parse.nodes] at h
    cases h
    exact List.forall_mem_nil _
  | case2 _ t hminus =>
    rw [Parse.nodes, if_pos hminus] at h
    cases h
  | case3 _ t hminus next after literal hliteral ih =>
    rw [Parse.nodes, if_pos hminus] at h
    simp only [hliteral, bind_ok, pure_ok] at h
    obtain ⟨more, hmore, rfl⟩ := h
    obtain ⟨-, hr⟩ := List.forall_mem_cons.mp hr
    obtain ⟨hnext, hr⟩ := List.forall_mem_cons.mp hr
    exact List.forall_mem_cons.mpr ⟨hnext.negated hliteral, ih hr hmore⟩
  | case4 _ t hminus next after hnone ihinner ihmore =>
    rw [Parse.nodes, if_pos hminus] at h
    simp only [hnone, bind_ok, pure_ok] at h
    obtain ⟨extent, -, inner, hinner, more, hmore, rfl⟩ := h
    obtain ⟨-, hr⟩ := List.forall_mem_cons.mp hr
    have hinner := ihinner extent (fun t ht => hr t (List.mem_of_mem_take ht)) hinner
    have hmore := ihmore extent (fun t ht => hr t (List.mem_of_mem_drop ht)) hmore
    have hzero : Node.Readable (.value (.int 0)) := by
      show -(integerEnd : ℤ) < (0 : Int64).toInt
      decide
    intro p hp
    simp only [List.mem_cons, List.mem_append] at hp
    rcases hp with rfl | rfl | rfl | hp | rfl | hp
    · exact Operator.noConfusion
    · exact hzero
    · exact Operator.noConfusion
    · exact hinner p hp
    · exact Operator.noConfusion
    · exact hmore p hp
  | case5 _ t after hminus node expectNext hnode ih =>
    rw [Parse.nodes.eq_def] at h
    simp only [if_neg hminus, hnode, bind_ok, pure_ok] at h
    obtain ⟨more, hmore, rfl⟩ := h
    obtain ⟨ht, hr⟩ := List.forall_mem_cons.mp hr
    exact List.forall_mem_cons.mpr ⟨ht.node hnode, ih hr hmore⟩
  | case6 _ t after hminus hnone =>
    rw [Parse.nodes.eq_def] at h
    simp only [if_neg hminus, hnone] at h
    cases h

theorem readable_expression {tokens : List Token} {placed : List PlacedNode}
    (hr : ∀ t ∈ tokens, t.Read) (h : Parse.expression tokens = .ok placed) :
    Expression.Readable (placed.map PlacedNode.node) := by
  obtain ⟨hplaced, hbalanced⟩ := expression_iff.mp h
  exact ⟨by simpa using readable_nodes hr hplaced, hbalanced⟩

theorem mem_splitArguments {depth : ℤ} {tokens piece : List Token} {t : Token}
    (h : piece ∈ Parse.splitArguments depth tokens) (ht : t ∈ piece) : t ∈ tokens := by
  induction tokens generalizing depth piece with
  | nil =>
    rw [Parse.splitArguments, List.mem_singleton] at h
    rw [h] at ht
    exact ht
  | cons t' rest ih =>
    unfold Parse.splitArguments at h
    split at h
    · rcases List.mem_cons.mp h with rfl | h
      · cases ht
      · exact List.mem_cons_of_mem _ (ih h ht)
    · dsimp only at h
      generalize hpieces : Parse.splitArguments _ rest = pieces at h
      cases pieces with
      | nil => exact absurd hpieces (splitArguments_ne_nil _ _)
      | cons first pieces =>
        rcases List.mem_cons.mp h with rfl | h
        · rcases List.mem_cons.mp ht with rfl | ht
          · exact List.mem_cons_self
          · exact List.mem_cons_of_mem _ (ih (hpieces ▸ List.mem_cons_self) ht)
        · exact List.mem_cons_of_mem _ (ih (hpieces ▸ List.mem_cons_of_mem _ h) ht)

/-- There is at least one expression, and reading gives all of them. -/
theorem readable_expressions {tokens : List Token} {placed : List (List PlacedNode)}
    (hr : ∀ t ∈ tokens, t.Read) (h : Parse.expressions tokens = .ok placed) :
    placed ≠ [] ∧ ∀ nodes ∈ placed, Expression.Readable (nodes.map PlacedNode.node) := by
  have hall := mapM_iff.mp h
  constructor
  · rintro rfl
    exact splitArguments_ne_nil _ _ (List.forall₂_nil_right_iff.mp hall)
  · intro nodes hnodes
    obtain ⟨piece, hpiece, hparse⟩ := mem_of_forall₂ hall nodes hnodes
    exact readable_expression (fun t ht => hr t (mem_splitArguments hpiece ht)) hparse

-- ---------------------------------------------------------------------------
-- The text of an expression
-- ---------------------------------------------------------------------------

section
variable {rest : Text}

theorem breaks_empty : Breaks .empty := by
  intro r hr
  cases hr

theorem breaks_char {c : Char} (hpart : Scan.isWordPart c = false) (hpoint : c ≠ '.')
    (cs : List Char) (rest : Text) : Breaks (.ofChars (c :: cs) ++ rest) := by
  intro r hr
  rw [Text.runes_ofChars_append] at hr
  cases hr
  exact ⟨hpart, hpoint⟩

theorem breaks_blank (rest : Text) : Breaks (" " ++ rest) :=
  breaks_char (by decide) (by decide) [] rest

theorem spells_int {n : Int64} (h : -(integerEnd : ℤ) < n.toInt) (hs : Breaks rest) :
    Spells (Text.ofInt n.toInt) (Constant.int n).said rest := by
  have hend : integerEnd = 2 ^ 63 := rfl
  have hlt := n.toInt_lt
  have hn := n.ofInt_toInt
  rw [Constant.said]
  cases hi : n.toInt with
  | ofNat k =>
    rw [hi] at hn hlt
    have hnonneg : ¬Int.ofNat k < 0 := Int.not_lt.mpr (Int.natCast_nonneg k)
    rw [if_neg hnonneg, ← hn]
    refine spells_integer ?_ hs
    rw [hend]
    exact Int.ofNat_lt.mp hlt
  | negSucc k =>
    rw [hi] at hn h
    have hneg : -n = Int64.ofInt ((k + 1 : ℕ) : ℤ) := by
      rw [← hn, ← Int64.ofInt_neg, Int.neg_negSucc]
    have hk : k + 1 < integerEnd := by omega
    rw [if_pos (Int.negSucc_lt_zero k), hneg]
    exact (spells_sign (c := '-') rfl _).append (spells_integer hk hs)

theorem spells_plain {x : Number} (h : x.Plain) (hs : Breaks rest) :
    Spells (Render.number x) [{ kind := .number x }] rest := by
  obtain ⟨ds, fs, hd, hne, hf, hfne, hrender, hread⟩ := number_reads h
  rw [hrender]
  exact spells_number hd hne hf hfne hread hs

theorem spells_node {n : Node} (h : n.Readable) (hs : n ≠ .operator .openParen → Breaks rest) :
    Spells (Render.node n) n.said rest := by
  cases n with
  | value k =>
    have hbreaks : Breaks rest := hs (by simp)
    cases k with
    | null => exact h.elim
    | int n => exact spells_int h hbreaks
    | number x =>
      rcases h with hx | ⟨y, hy, rfl⟩
      · have hsaid : Node.said (.value (.number x)) = [{ kind := .number x }] := by
          simp [Node.said, Constant.said, hx.isNegative]
        rw [hsaid]
        exact spells_plain hx hbreaks
      · have hsaid : Node.said (.value (.number y.negate)) =
            [{ kind := .minus }] ++ [{ kind := .number y }] := by
          simp [Node.said, Constant.said, hy.isNegative_negate, Number.negate_negate]
        rw [hsaid, Render.node, Render.literal, number_negate hy]
        exact (spells_sign (c := '-') rfl _).append (spells_plain hy hbreaks)
    | text t =>
      obtain ⟨cs, rfl⟩ := h
      exact spells_string cs rest
  | symbol name => exact spells_word h (hs (by simp))
  | operator op =>
    cases op with
    | plus => exact spells_sign (c := '+') rfl rest
    | minus => exact spells_sign (c := '-') rfl rest
    | times => exact spells_sign (c := '*') rfl rest
    | divide => exact spells_sign (c := '/') rfl rest
    | openParen => exact spells_sign (c := '(') rfl rest
    | closeParen => exact spells_sign (c := ')') rfl rest
    | unknown => exact absurd rfl h
  | unknown _ => exact h.elim

theorem breaks_expressionAfter {previous : Node} (hp : previous ≠ .operator .openParen)
    (e : Expression) (hs : Breaks rest) : Breaks (Render.expressionAfter previous e ++ rest) := by
  cases e with
  | nil => exact hs
  | cons n e =>
    rw [Render.expressionAfter]
    split
    · rw [Text.append_assoc, Text.append_assoc]
      exact breaks_blank _
    · rename_i hblank
      have hn : n = .operator .closeParen := by
        unfold Render.blankBetween at hblank
        split at hblank <;> simp_all
      rw [hn, Text.append_assoc]
      exact breaks_char (c := ')') (by decide) (by decide) [] _

theorem spells_expressionAfter {e : Expression} (h : ∀ n ∈ e, n.Readable) (previous : Node)
    (hs : Breaks rest) : Spells (Render.expressionAfter previous e) (Expression.said e) rest := by
  induction e generalizing previous with
  | nil => exact spells_empty rest
  | cons n e ih =>
    obtain ⟨hn, hr⟩ := List.forall_mem_cons.mp h
    have hnode : Spells (Render.node n) n.said (Render.expressionAfter n e ++ rest) :=
      spells_node hn fun hne => breaks_expressionAfter hne e hs
    rw [Render.expressionAfter]
    refine Spells.append ?_ (ih hr n)
    split
    · exact (spells_blank _).append hnode
    · exact hnode

/-- An expression is written so that it is read as the tokens of its nodes. -/
theorem spells_expression {e : Expression} (h : ∀ n ∈ e, n.Readable) (hs : Breaks rest) :
    Spells (Render.expression e) e.said rest := by
  cases e with
  | nil => exact spells_empty rest
  | cons n e =>
    obtain ⟨hn, hr⟩ := List.forall_mem_cons.mp h
    exact (spells_node hn fun hne => breaks_expressionAfter hne e hs).append
      (spells_expressionAfter hr n hs)

end
end Birl
