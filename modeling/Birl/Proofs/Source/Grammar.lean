import Birl.Proofs.Source.Balance

/-!
# The grammar of written expressions

Tokens are a list of expressions, as the grammar of the language has it (`WritesList`), where
parsing accepts them, and what parsing gives is the form of each (`expressions_grammar`). The form
keeps signs and parentheses; its nodes have each sign worked into a literal or written out as a
difference from zero (`Form.nodes`), and they are read as its tree (`Writes.derives`).
-/

namespace Birl

-- ---------------------------------------------------------------------------
-- Forms
-- ---------------------------------------------------------------------------

/-- An expression as it is written. -/
inductive Form where
  | literal (k : Constant)
  | named (name : Text)
  | negate (operand : Form)
  | group (inner : Form)
  | apply (op : Arithmetic) (left right : Form)

namespace Form

/-- The number that the form is, with its sign changed. -/
def negated? : Form → Option Constant
  | literal (.int n) => some (.int (-n))
  | literal (.number x) => some (.number x.negate)
  | _ => none

/-- A minus in front of a number belongs to the number; any other stands for a difference from
zero. -/
def tree : Form → Tree
  | literal k => .literal k
  | named name => .named name
  | negate operand =>
    match operand.negated? with
    | some k => .literal k
    | none => .apply .sub (.literal (.int 0)) operand.tree
  | group inner => inner.tree
  | apply op left right => .apply op left.tree right.tree

def nodes : Form → Expression
  | literal k => [.value k]
  | named name => [.symbol name]
  | negate operand =>
    match operand.negated? with
    | some k => [.value k]
    | none =>
      .operator .openParen :: .value (.int 0) :: .operator .minus ::
        (operand.nodes ++ [.operator .closeParen])
  | group inner => .operator .openParen :: (inner.nodes ++ [.operator .closeParen])
  | apply op left right => left.nodes ++ .operator op.operator :: right.nodes

end Form

-- ---------------------------------------------------------------------------
-- The grammar
-- ---------------------------------------------------------------------------

def Token.operand? (t : Token) : Option Form :=
  match t.kind with
  | .word => some (.named t.lexeme)
  | .integer n => some (.literal (.int n))
  | .number x => some (.literal (.number x))
  | .string content => some (.literal (.text content))
  | _ => none

def Token.operator? (t : Token) : Option Arithmetic :=
  match t.kind with
  | .plus => some .add
  | .minus => some .sub
  | .times => some .mul
  | .divide => some .div
  | _ => none

/-- The tokens write a form. A sum is made of terms with `+` and `-` between them, a term of factors
with `*` and `/` between them, and a factor is one token, a factor after a minus, or a sum in
parentheses. -/
inductive Writes : Level → List Token → Form → Prop
  | operand {t : Token} {f : Form} (h : t.operand? = some f) : Writes .factor [t] f
  | negate {t : Token} {tokens : List Token} {f : Form} (ht : t.kind = .minus)
      (h : Writes .factor tokens f) : Writes .factor (t :: tokens) (.negate f)
  | group {opening closing : Token} {tokens : List Token} {f : Form}
      (ho : opening.kind = .openParen) (h : Writes .sum tokens f)
      (hc : closing.kind = .closeParen) :
      Writes .factor (opening :: (tokens ++ [closing])) (.group f)
  | factor {tokens : List Token} {f : Form} (h : Writes .factor tokens f) : Writes .term tokens f
  | product {left right : List Token} {t : Token} {l r : Form} {op : Arithmetic}
      (hl : Writes .term left l) (ht : t.operator? = some op) (ho : op.isHigh = true)
      (hr : Writes .factor right r) : Writes .term (left ++ t :: right) (.apply op l r)
  | term {tokens : List Token} {f : Form} (h : Writes .term tokens f) : Writes .sum tokens f
  | sum {left right : List Token} {t : Token} {l r : Form} {op : Arithmetic}
      (hl : Writes .sum left l) (ht : t.operator? = some op) (ho : op.isHigh = false)
      (hr : Writes .term right r) : Writes .sum (left ++ t :: right) (.apply op l r)

/-- Expressions with commas between them. -/
inductive WritesList : List Token → List Form → Prop
  | one {tokens : List Token} {f : Form} (h : Writes .sum tokens f) : WritesList tokens [f]
  | cons {tokens rest : List Token} {comma : Token} {f : Form} {fs : List Form}
      (h : Writes .sum tokens f) (hc : comma.kind = .comma) (hs : WritesList rest fs) :
      WritesList (tokens ++ comma :: rest) (f :: fs)

section
variable {t : Token} {f : Form} {op : Arithmetic} {level : Level} {tokens : List Token}

theorem operand_node (h : t.operand? = some f) :
    ∃ n, Parse.nodeOf? t = some (n, false) ∧ n.shift = 0 ∧ n.tree? = some f.tree ∧
      f.nodes = [n] := by
  unfold Token.operand? at h
  split at h
  all_goals
    rename_i hkind
    cases h <;> simp [Parse.nodeOf?, hkind, Node.shift, Node.tree?, Form.tree, Form.nodes]

theorem operand_kind (h : t.operand? = some f) : t.kind ≠ .minus := by
  intro hkind
  simp [Token.operand?, hkind] at h

theorem operator_node (h : t.operator? = some op) :
    Parse.nodeOf? t = some (.operator op.operator, true) := by
  unfold Token.operator? at h
  split at h
  all_goals
    rename_i hkind
    cases h <;> simp [Parse.nodeOf?, hkind, Arithmetic.operator]

theorem Writes.negated {next : Token} {after : List Token}
    (h : Writes .factor (next :: after) f) :
    (∃ k, Parse.negated? next = some (.value k) ∧ f.negated? = some k ∧ after = []) ∨
      Parse.negated? next = none ∧ f.negated? = none := by
  cases h with
  | operand h =>
    unfold Token.operand? at h
    split at h
    all_goals
      rename_i hkind
      cases h <;> simp [Parse.negated?, hkind, Form.negated?]
  | negate ht _ => exact .inr ⟨by simp [Parse.negated?, ht], rfl⟩
  | group ho _ _ => exact .inr ⟨by simp [Parse.negated?, ho], rfl⟩

/-- The nodes of a form are read as its tree. -/
theorem Writes.derives (h : Writes level tokens f) : Derives level f.nodes f.tree := by
  induction h with
  | operand h =>
    obtain ⟨n, -, -, htree, hnodes⟩ := operand_node h
    rw [hnodes]
    cases n with
    | value k =>
      rw [← Option.some.inj htree]
      exact .literal k
    | symbol name =>
      rw [← Option.some.inj htree]
      exact .named name
    | _ => cases htree
  | @negate t tokens f _ _ ih =>
    unfold Form.nodes Form.tree
    cases f.negated? with
    | some k => exact .literal k
    | none =>
      have hlow : Arithmetic.isHigh .sub = false := rfl
      exact .group (.sum (.term (.factor (.literal _))) hlow (.factor ih))
  | group _ _ _ ih => exact .group ih
  | factor _ ih => exact .factor ih
  | product _ _ ho _ ihl ihr => exact .product ihl ho ihr
  | term _ ih => exact .term ih
  | sum _ _ ho _ ihl ihr => exact .sum ihl ho ihr

end

-- ---------------------------------------------------------------------------
-- Parentheses
-- ---------------------------------------------------------------------------

def Token.shift (t : Token) : ℤ :=
  match t.kind with
  | .openParen => 1
  | .closeParen => -1
  | _ => 0

theorem shift_node {t : Token} {n : Node} {b : Bool} (h : Parse.nodeOf? t = some (n, b)) :
    n.shift = t.shift := (nodeOf?_kind h).2.2

theorem shift_operand {t : Token} {f : Form} (h : t.operand? = some f) : t.shift = 0 := by
  obtain ⟨n, hnode, hshift, -⟩ := operand_node h
  exact (shift_node hnode).symm.trans hshift

theorem shift_operator {t : Token} {op : Arithmetic} (h : t.operator? = some op) :
    t.shift = 0 := by
  rw [← shift_node (operator_node h)]
  cases op <;> rfl

/-- The parentheses in the tokens match, and there is no comma. -/
inductive Matched : List Token → Prop
  | token {t : Token} {n : Node} {b : Bool} (h : Parse.nodeOf? t = some (n, b))
      (hs : t.shift = 0) : Matched [t]
  | append {s t : List Token} (hs : Matched s) (ht : Matched t) : Matched (s ++ t)
  | group {opening closing : Token} {tokens : List Token} (ho : opening.kind = .openParen)
      (h : Matched tokens) (hc : closing.kind = .closeParen) :
      Matched (opening :: (tokens ++ [closing]))

section
variable {level : Level} {tokens : List Token} {f : Form}

theorem Writes.matched (h : Writes level tokens f) : Matched tokens := by
  have hoperator {t : Token} {op : Arithmetic} (ht : t.operator? = some op) : Matched [t] :=
    .token (operator_node ht) (shift_operator ht)
  induction h with
  | operand h =>
    obtain ⟨n, hnode, -⟩ := operand_node h
    exact .token hnode (shift_operand h)
  | @negate t tokens f ht _ ih =>
    have hnode : Parse.nodeOf? t = some (.operator .minus, true) := by simp [Parse.nodeOf?, ht]
    exact (Matched.token hnode (by simp [Token.shift, ht])).append ih
  | group ho _ hc ih => exact .group ho ih hc
  | factor _ ih => exact ih
  | product _ ht _ _ ihl ihr => exact ihl.append ((hoperator ht).append ihr)
  | term _ ih => exact ih
  | sum _ ht _ _ ihl ihr => exact ihl.append ((hoperator ht).append ihr)

/-- The end of a group is looked for token by token, up to the parenthesis that closes it. -/
theorem closingExtent?_cons {t : Token} {depth depth' : ℕ} (h : (depth' : ℤ) = depth + t.shift)
    (hpos : 0 < depth') (rest : List Token) :
    Parse.closingExtent? depth (t :: rest) =
      (Parse.closingExtent? depth' rest).map (· + 1) := by
  rw [Parse.closingExtent?]
  unfold Token.shift at h
  split
  · rename_i hkind
    simp only [hkind] at h
    obtain rfl : depth' = depth + 1 := by omega
    rfl
  · rename_i hkind
    simp only [hkind] at h
    obtain rfl : depth' = depth - 1 := by omega
    rw [if_neg (by omega)]
  · rename_i hopen hclose
    have hkeep : (depth' : ℤ) = depth := by
      split at h
      · exact absurd ‹_› hopen
      · exact absurd ‹_› hclose
      · simpa using h
    rw [Int.ofNat_inj.mp hkeep]

theorem Matched.closingExtent? (h : Matched tokens) {depth : ℕ} (hpos : 0 < depth)
    (rest : List Token) :
    Parse.closingExtent? depth (tokens ++ rest) =
      (Parse.closingExtent? depth rest).map (· + tokens.length) := by
  induction h generalizing depth rest with
  | token h hs =>
    rw [List.singleton_append, closingExtent?_cons (by rw [hs, add_zero]) hpos]
    rfl
  | @append s t _ _ ihs iht =>
    rw [List.append_assoc, ihs hpos, iht hpos, Option.map_map, List.length_append]
    congr 1
    funext n
    simp only [Function.comp_apply]
    omega
  | @group opening closing tokens ho h hc ih =>
    have hup : ((depth + 1 : ℕ) : ℤ) = depth + opening.shift := by simp [Token.shift, ho]
    have hdown : (depth : ℤ) = (depth + 1 : ℕ) + closing.shift := by simp [Token.shift, hc]
    rw [List.cons_append, List.append_assoc, List.singleton_append,
      closingExtent?_cons hup (by omega), ih (by omega), closingExtent?_cons hdown hpos]
    simp only [Option.map_map, List.length_cons, List.length_append, List.length_nil]
    congr 1
    funext n
    simp only [Function.comp_apply]
    omega

theorem Matched.splitArguments (h : Matched tokens) (depth : ℤ) (rest : List Token) :
    Parse.splitArguments depth (tokens ++ rest) =
      (Parse.splitArguments depth rest).modifyHead (tokens ++ ·) := by
  induction h generalizing depth rest with
  | token h hs =>
    rw [List.singleton_append, splitArguments_node h, shift_node h, hs, add_zero]
    rfl
  | append _ _ ihs iht =>
    rw [List.append_assoc, ihs, iht, List.modifyHead_modifyHead]
    congr 1
    funext piece
    rw [Function.comp_apply, List.append_assoc]
  | @group opening closing tokens ho h hc ih =>
    have hopen : Parse.nodeOf? opening = some (.operator .openParen, true) := by
      simp [Parse.nodeOf?, ho]
    have hclose : Parse.nodeOf? closing = some (.operator .closeParen, false) := by
      simp [Parse.nodeOf?, hc]
    have hdepth : depth + Node.shift (.operator .openParen) + Node.shift (.operator .closeParen) =
        depth := by simp [Node.shift]
    rw [List.cons_append, List.append_assoc, List.singleton_append, splitArguments_node hopen, ih,
      splitArguments_node hclose, hdepth, List.modifyHead_modifyHead, List.modifyHead_modifyHead]
    congr 1
    funext piece
    simp

end

-- ---------------------------------------------------------------------------
-- What is derived is parsed
-- ---------------------------------------------------------------------------

section
variable {level : Level} {tokens : List Token} {f : Form}

theorem Writes.ne_nil (h : Writes level tokens f) : tokens ≠ [] := by
  induction h with
  | factor _ ih => exact ih
  | term _ ih => exact ih
  | _ => simp

theorem operandExtent_operand {t : Token} (h : t.operand? = some f) (sign : Token)
    (rest : List Token) : Parse.operandExtent sign (t :: rest) = .ok 1 := by
  obtain ⟨kind, lexeme, column⟩ := t
  cases kind <;> first | rfl | cases h

theorem operandExtent_minus {t : Token} (h : t.kind = .minus) (sign : Token) (rest : List Token) :
    Parse.operandExtent sign (t :: rest) = (Parse.operandExtent t rest).map (· + 1) := by
  obtain ⟨kind, lexeme, column⟩ := t
  cases h
  rfl

theorem operandExtent_group {t : Token} (h : t.kind = .openParen) (sign : Token)
    (rest : List Token) :
    Parse.operandExtent sign (t :: rest) =
      (Parse.closingExtent? 1 rest).elim (Parse.failAt t .unbalanced) fun n => .ok (n + 1) := by
  obtain ⟨kind, lexeme, column⟩ := t
  cases h
  conv_lhs => whnf
  cases Parse.closingExtent? 1 rest <;> rfl

theorem operandExtent_writes (h : Writes .factor tokens f) (sign : Token) (rest : List Token) :
    Parse.operandExtent sign (tokens ++ rest) = .ok tokens.length := by
  generalize hlevel : Level.factor = level at h
  induction h generalizing sign with
  | operand h => exact operandExtent_operand h sign rest
  | @negate t tokens f ht _ ih =>
    rw [List.cons_append, operandExtent_minus ht, ih t hlevel]
    rfl
  | @group opening closing tokens f ho h hc _ =>
    have hclose : Parse.closingExtent? 1 (closing :: rest) = some 1 := by
      simp [Parse.closingExtent?, hc]
    rw [List.cons_append, List.append_assoc, List.singleton_append, operandExtent_group ho,
      h.matched.closingExtent? Nat.one_pos, hclose]
    simp [Nat.add_comm]
  | _ => cases hlevel

theorem nodes_difference {sign next : Token} {after : List Token} {extent : ℕ}
    {inner : List PlacedNode} (ht : sign.kind = .minus) (hn : Parse.negated? next = none)
    (he : Parse.operandExtent sign (next :: after) = .ok extent)
    (hi : Parse.nodes true ((next :: after).take extent) = .ok inner) :
    Parse.nodes true (sign :: next :: after) =
      (Parse.nodes false ((next :: after).drop extent)).map fun more =>
        ⟨.operator .openParen, sign⟩ :: ⟨.value (.int 0), sign⟩ :: ⟨.operator .minus, sign⟩ ::
          (inner ++ ⟨.operator .closeParen, sign⟩ :: more) := by
  rw [Parse.nodes, if_pos ⟨ht, rfl⟩]
  simp only [hn, he, bind, Except.bind, hi]
  cases Parse.nodes false ((next :: after).drop extent) <;> rfl

/-- The tokens are parsed as the nodes of the form, whatever follows. -/
def ParsedAs (tokens : List Token) (f : Form) : Prop :=
  ∃ placed, placed.map PlacedNode.node = f.nodes ∧
    ∀ rest, Parse.nodes true (tokens ++ rest) = (Parse.nodes false rest).map (placed ++ ·)

theorem ParsedAs.apply {left right : List Token} {t : Token} {l r : Form} {op : Arithmetic}
    (hl : ParsedAs left l) (ht : t.operator? = some op) (hr : ParsedAs right r) :
    ParsedAs (left ++ t :: right) (.apply op l r) := by
  obtain ⟨first, hfirst, hl⟩ := hl
  obtain ⟨second, hsecond, hr⟩ := hr
  refine ⟨first ++ ⟨.operator op.operator, t⟩ :: second, ?_, fun rest => ?_⟩
  · rw [List.map_append, List.map_cons, hfirst, hsecond]
    rfl
  · have hplain : ¬(t.kind = .minus ∧ false = true) := fun h => Bool.noConfusion h.2
    rw [List.append_assoc, List.cons_append, hl, nodes_own (operator_node ht) hplain, hr,
      map_map, map_map]
    congr 1
    funext more
    simp

theorem ParsedAs.alone (h : ParsedAs tokens f) :
    ∃ placed, Parse.nodes true tokens = .ok placed ∧ placed.map PlacedNode.node = f.nodes := by
  obtain ⟨placed, hnodes, hparsed⟩ := h
  have hend := hparsed []
  rw [List.append_nil, Parse.nodes] at hend
  exact ⟨placed, by simpa [Except.map] using hend, hnodes⟩

theorem ParsedAs.negate {sign next : Token} {after : List Token} (hs : sign.kind = .minus)
    (hn : Parse.negated? next = none) (hf : f.negated? = none)
    (he : ∀ rest, Parse.operandExtent sign (next :: after ++ rest) =
      .ok (next :: after).length) (h : ParsedAs (next :: after) f) :
    ParsedAs (sign :: next :: after) (.negate f) := by
  obtain ⟨placed, hinner, hnodes⟩ := h.alone
  refine ⟨⟨.operator .openParen, sign⟩ :: ⟨.value (.int 0), sign⟩ ::
    ⟨.operator .minus, sign⟩ :: (placed ++ [⟨.operator .closeParen, sign⟩]), ?_, fun rest => ?_⟩
  · simp [Form.nodes, hf, hnodes]
  · have hextent := he rest
    rw [List.cons_append] at hextent
    rw [List.cons_append, List.cons_append,
      nodes_difference hs hn hextent (by simpa using hinner)]
    simp

theorem ParsedAs.group {opening closing : Token} (ho : opening.kind = .openParen)
    (h : ParsedAs tokens f) (hc : closing.kind = .closeParen) :
    ParsedAs (opening :: (tokens ++ [closing])) (.group f) := by
  obtain ⟨placed, hnodes, hparsed⟩ := h
  have hopen : Parse.nodeOf? opening = some (.operator .openParen, true) := by
    simp [Parse.nodeOf?, ho]
  have hclose : Parse.nodeOf? closing = some (.operator .closeParen, false) := by
    simp [Parse.nodeOf?, hc]
  refine ⟨⟨.operator .openParen, opening⟩ ::
    (placed ++ [⟨.operator .closeParen, closing⟩]), ?_, fun rest => ?_⟩
  · simp [Form.nodes, hnodes]
  · rw [List.cons_append, List.append_assoc, List.singleton_append,
      nodes_own hopen (by simp [ho]), hparsed, nodes_own hclose (by simp), map_map, map_map]
    congr 1
    funext more
    simp

theorem Writes.parsed (h : Writes level tokens f) : ParsedAs tokens f := by
  induction h with
  | @operand t f h =>
    obtain ⟨n, hnode, -, -, hnodes⟩ := operand_node h
    exact ⟨[⟨n, t⟩], hnodes.symm, nodes_own hnode fun hminus => operand_kind h hminus.1⟩
  | @negate sign tokens f hsign h ih =>
    obtain ⟨next, after, rfl⟩ := List.exists_cons_of_ne_nil h.ne_nil
    rcases h.negated with ⟨k, hk, hf, rfl⟩ | ⟨hk, hf⟩
    · exact ⟨[⟨.value k, next⟩], by simp [Form.nodes, hf], nodes_negated hsign hk⟩
    · exact ih.negate hsign hk hf (operandExtent_writes h sign)
  | group ho _ hc ih => exact ih.group ho hc
  | factor _ ih => exact ih
  | product _ ht _ _ ihl ihr => exact ihl.apply ht ihr
  | term _ ih => exact ih
  | sum _ ht _ _ ihl ihr => exact ihl.apply ht ihr

theorem Writes.expression (h : Writes .sum tokens f) :
    ∃ placed, Parse.expression tokens = .ok placed ∧ placed.map PlacedNode.node = f.nodes := by
  obtain ⟨placed, hparsed, hnodes⟩ := h.parsed.alone
  have hbalanced := h.derives.balanced 0 []
  rw [List.append_nil, ← hnodes] at hbalanced
  exact ⟨placed, expression_iff.mpr ⟨hparsed, hbalanced⟩, hnodes⟩

theorem WritesList.arguments {fs : List Form} (h : WritesList tokens fs) :
    List.Forall₂ (Writes .sum) (Parse.splitArguments 0 tokens) fs := by
  induction h with
  | @one tokens f h =>
    have hsplit := h.matched.splitArguments 0 []
    rw [List.append_nil] at hsplit
    rw [hsplit, Parse.splitArguments, List.modifyHead_cons, List.append_nil]
    exact .cons h .nil
  | @cons tokens rest comma f fs h hc _ ih =>
    rw [h.matched.splitArguments, Parse.splitArguments, if_pos ⟨hc, rfl⟩, List.modifyHead_cons,
      List.append_nil]
    exact .cons h ih

end

end Birl
