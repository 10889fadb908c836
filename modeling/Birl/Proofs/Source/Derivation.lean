import Birl.Proofs.Source.Grammar

/-!
# What is parsed is derived

Parsing accepts no tokens but those of the grammar. It works out the signs in nodes before it checks
these, so the check is carried back to the tokens first: they too alternate between balanced
parentheses, where a sign is no operand (`nodes_walk`). Tokens that do so have been read as a sum
inside of the groups that are still open (`Frames.walk`), and all of them as a sum in the end.
-/

namespace Birl

-- ---------------------------------------------------------------------------
-- Alternation and balance of tokens
-- ---------------------------------------------------------------------------

/-- Whether an operand is expected after the token, where one is expected or not. -/
def Token.turn? (t : Token) (expectOperand : Bool) : Option Bool :=
  if expectOperand then
    if t.operand?.isSome then some false
    else if t.kind = .minus ∨ t.kind = .openParen then some true
    else none
  else if t.operator?.isSome then some true
  else if t.kind = .closeParen then some false
  else none

section
variable {t : Token} {f : Form} {op : Arithmetic}

theorem turn?_operand (h : t.operand? = some f) : t.turn? true = some false := by
  simp [Token.turn?, h]

theorem turn?_minus (h : t.kind = .minus) : t.turn? true = some true := by
  simp [Token.turn?, Token.operand?, h]

theorem turn?_open (h : t.kind = .openParen) : t.turn? true = some true := by
  simp [Token.turn?, Token.operand?, h]

theorem operandExtent_ok {sign : Token} {rest : List Token} {extent : ℕ}
    (hx : Parse.operandExtent sign (t :: rest) = .ok extent) :
    (∃ f, t.operand? = some f ∧ extent = 1) ∨
      (t.kind = .minus ∧ ∃ n, Parse.operandExtent t rest = .ok n ∧ extent = n + 1) ∨
        (t.kind = .openParen ∧ ∃ n, Parse.closingExtent? 1 rest = some n ∧ extent = n + 1) := by
  obtain ⟨kind, lexeme, column⟩ := t
  cases kind with
  | minus =>
    rw [operandExtent_minus rfl, map_ok] at hx
    obtain ⟨n, hn, rfl⟩ := hx
    exact .inr (.inl ⟨rfl, n, hn, rfl⟩)
  | openParen =>
    rw [operandExtent_group rfl] at hx
    cases hclosing : Parse.closingExtent? 1 rest with
    | none =>
      rw [hclosing] at hx
      cases hx
    | some n =>
      rw [hclosing] at hx
      cases hx
      exact .inr (.inr ⟨rfl, n, rfl, rfl⟩)
  | word | integer _ | number _ | string _ =>
    cases hx
    exact .inl ⟨_, rfl, rfl⟩
  | _ => cases hx

end

/-- How far tokens are read: the number of open parentheses, and whether an operand is expected. -/
structure Place where
  depth : ℕ
  expectOperand : Bool

/-- Tokens that alternate between parentheses which do not close more than is open. -/
inductive Walk : Place → List Token → Place → Prop
  | done (p : Place) : Walk p [] p
  | step {depth depth' : ℕ} {e e' : Bool} {t : Token} {rest : List Token} {p : Place}
      (ht : t.turn? e = some e') (hd : (depth' : ℤ) = depth + t.shift)
      (h : Walk ⟨depth', e'⟩ rest p) : Walk ⟨depth, e⟩ (t :: rest) p

section
variable {p q r : Place} {s tokens : List Token} {t : Token} {e e' : Bool}

theorem Walk.append (h : Walk p s q) (h' : Walk q tokens r) : Walk p (s ++ tokens) r := by
  induction h with
  | done => exact h'
  | step ht hd _ ih => exact .step ht hd (ih h')

theorem Token.shift_negative (h : t.shift < 0) : t.kind = .closeParen ∧ t.shift = -1 := by
  unfold Token.shift at h ⊢
  split at h
  · exact absurd h (by decide)
  · rename_i hkind
    exact ⟨hkind, rfl⟩
  · exact absurd h (by decide)

/-- The rest of a group closes it, at any depth alike. -/
theorem Walk.closing {opened extent depth : ℕ}
    (hx : Parse.closingExtent? opened tokens = some extent) (hpos : 0 < opened)
    (h : Walk ⟨depth + opened, e⟩ (tokens.take extent) p) :
    p = ⟨depth, false⟩ ∧ ∀ depth', Walk ⟨depth' + opened, e⟩ (tokens.take extent) ⟨depth', false⟩ := by
  induction tokens generalizing opened extent e with
  | nil => cases hx
  | cons t rest ih =>
    by_cases hinside : 0 < (opened : ℤ) + t.shift
    · obtain ⟨opened', hopened⟩ := Int.eq_ofNat_of_zero_le hinside.le
      have hpos' : 0 < opened' := by omega
      rw [closingExtent?_cons hopened.symm hpos'] at hx
      obtain ⟨extent, hrest, rfl⟩ := Option.map_eq_some_iff.mp hx
      rw [List.take_succ_cons] at h ⊢
      cases h with
      | @step _ depth₁ _ e' _ _ _ ht hd h =>
        obtain rfl : depth₁ = depth + opened' := by
          push_cast at hd
          omega
        obtain ⟨rfl, hall⟩ := ih hrest hpos' h
        refine ⟨rfl, fun depth' => .step ht ?_ (hall depth')⟩
        push_cast
        omega
    · obtain ⟨hkind, hshift⟩ := Token.shift_negative (t := t) (by omega)
      obtain rfl : opened = 1 := by omega
      obtain rfl : extent = 1 := by simpa [Parse.closingExtent?, hkind, eq_comm] using hx
      rw [List.take_succ_cons, List.take_zero] at h ⊢
      cases h with
      | @step _ depth₁ _ e' _ _ _ ht hd h =>
        cases h
        obtain rfl : depth₁ = depth := by
          push_cast at hd
          omega
        have hturn : e' = false := by
          cases e <;> simp [Token.turn?, Token.operand?, Token.operator?, hkind] at ht
          exact ht
        subst hturn
        refine ⟨rfl, fun depth' => .step ht ?_ (.done _)⟩
        push_cast
        omega

theorem Walk.tail {depth depth' : ℕ} (ht : t.turn? e = some e')
    (hd : (depth' : ℤ) = depth + t.shift) (h : Walk ⟨depth, e⟩ (t :: tokens) p) :
    Walk ⟨depth', e'⟩ tokens p := by
  cases h with
  | step ht' hd' h =>
    rw [ht] at ht'
    cases ht'
    rwa [Int.ofNat_inj.mp (hd.trans hd'.symm)]

/-- An operand leaves the depth as it was, at any depth alike. -/
theorem Walk.operand {sign : Token} {extent depth : ℕ}
    (hx : Parse.operandExtent sign tokens = .ok extent)
    (h : Walk ⟨depth, true⟩ (tokens.take extent) p) :
    p = ⟨depth, false⟩ ∧ ∀ depth', Walk ⟨depth', true⟩ (tokens.take extent) ⟨depth', false⟩ := by
  induction tokens generalizing sign extent with
  | nil => cases hx
  | cons t rest ih =>
    have hflat (hshift : t.shift = 0) (depth : ℕ) : (depth : ℤ) = depth + t.shift := by
      rw [hshift, add_zero]
    rcases operandExtent_ok hx with ⟨f, hf, rfl⟩ | ⟨hkind, n, hn, rfl⟩ | ⟨hkind, n, hn, rfl⟩
    · have hturn := turn?_operand hf
      have hshift := hflat (shift_operand hf)
      rw [List.take_succ_cons, List.take_zero] at h ⊢
      cases h.tail hturn (hshift depth)
      exact ⟨rfl, fun depth' => .step hturn (hshift depth') (.done _)⟩
    · have hturn := turn?_minus hkind
      have hshift := hflat (by simp [Token.shift, hkind])
      rw [List.take_succ_cons] at h ⊢
      obtain ⟨rfl, hall⟩ := ih hn (h.tail hturn (hshift depth))
      exact ⟨rfl, fun depth' => .step hturn (hshift depth') (hall depth')⟩
    · have hturn := turn?_open hkind
      have hshift (depth : ℕ) : ((depth + 1 : ℕ) : ℤ) = depth + t.shift := by
        simp [Token.shift, hkind]
      rw [List.take_succ_cons] at h ⊢
      obtain ⟨rfl, hall⟩ := Walk.closing hn Nat.one_pos (h.tail hturn (hshift depth))
      exact ⟨rfl, fun depth' => .step hturn (hshift depth') (hall depth')⟩

end

theorem nodeOf?_turn {t : Token} {n : Node} {b : Bool} (h : Parse.nodeOf? t = some (n, b)) :
    t.turn? n.starts = some b ∧ b = n.opens := by
  unfold Parse.nodeOf? at h
  split at h
  all_goals
    rename_i hkind
    cases h <;> simp [Token.turn?, Token.operand?, Token.operator?, hkind, Node.starts, Node.opens]

theorem negated?_turn {t : Token} {n : Node} (h : Parse.negated? t = some n) :
    t.turn? true = some false ∧ t.shift = 0 ∧ ∃ k, n = .value k := by
  unfold Parse.negated? at h
  split at h
  all_goals
    rename_i hkind
    cases h <;> simp [Token.turn?, Token.operand?, hkind, Token.shift]

/-- The check of the nodes carries over to the tokens that they come from. -/
theorem nodes_walk {expectOperand : Bool} {tokens : List Token} {placed : List PlacedNode}
    (h : Parse.nodes expectOperand tokens = .ok placed) {depth : ℕ} {rest : Expression}
    (hb : Expression.balanced depth expectOperand
      (placed.map PlacedNode.node ++ rest) = true) :
    ∃ p, Walk ⟨depth, expectOperand⟩ tokens p ∧
      Expression.balanced p.depth p.expectOperand rest = true := by
  induction expectOperand, tokens using Parse.nodes.induct generalizing placed depth rest with
  | case1 =>
    rw [Parse.nodes] at h
    cases h
    exact ⟨_, .done _, hb⟩
  | case2 _ t hminus =>
    rw [Parse.nodes, if_pos hminus] at h
    cases h
  | case3 _ t hminus next after literal hliteral ih =>
    obtain ⟨hkind, rfl⟩ := hminus
    rw [nodes_negated hkind hliteral, map_ok] at h
    obtain ⟨more, hmore, rfl⟩ := h
    obtain ⟨hturn, hshift, k, rfl⟩ := negated?_turn hliteral
    rw [List.map_cons, List.cons_append, Expression.balanced_operand rfl] at hb
    obtain ⟨p, hafter, hp⟩ := ih hmore hb
    have hnext : Walk ⟨depth, true⟩ (next :: after) p :=
      .step hturn (by rw [hshift, add_zero]) hafter
    exact ⟨p, .step (turn?_minus hkind) (by simp [Token.shift, hkind]) hnext, hp⟩
  | case4 _ t hminus next after hnone ihinner ihmore =>
    obtain ⟨hkind, rfl⟩ := hminus
    rw [Parse.nodes, if_pos ⟨hkind, rfl⟩] at h
    simp only [hnone, bind_ok, pure_ok] at h
    obtain ⟨extent, hextent, inner, hinner, more, hmore, rfl⟩ := h
    have hopen : Expression.balanced (depth + 1) true (inner.map PlacedNode.node ++
        .operator .closeParen :: (more.map PlacedNode.node ++ rest)) = true := by
      have hzero (rest : Expression) : Expression.balanced (depth + 1) true
          (.value (.int 0) :: .operator .minus :: rest) =
            Expression.balanced (depth + 1) true rest :=
        (Expression.balanced_operand rfl _ _).trans (Expression.balanced_arithmetic .sub _ rest)
      rw [← hzero, ← Expression.balanced_open]
      simpa using hb
    obtain ⟨p, hslice, hclose⟩ := ihinner extent hinner hopen
    obtain ⟨rfl, hall⟩ := hslice.operand hextent
    rw [Expression.balanced_close] at hclose
    obtain ⟨q, hrest, hq⟩ := ihmore extent hmore hclose
    have hturn := turn?_minus hkind
    have hwhole := (hall depth).append hrest
    rw [List.take_append_drop] at hwhole
    exact ⟨q, .step hturn (by simp [Token.shift, hkind]) hwhole, hq⟩
  | case5 _ t after hminus node expectNext hnode ih =>
    rw [nodes_own hnode hminus, map_ok] at h
    obtain ⟨more, hmore, rfl⟩ := h
    obtain ⟨hstarts, depth', hdepth, hb⟩ := balanced_cons hb
    obtain ⟨hturn, rfl⟩ := nodeOf?_turn hnode
    obtain ⟨p, hafter, hp⟩ := ih hmore hb
    rw [hstarts] at hturn
    exact ⟨p, .step hturn (by rw [hdepth, shift_node hnode]) hafter, hp⟩
  | case6 _ t after hminus hnone =>
    rw [Parse.nodes.eq_def] at h
    simp only [if_neg hminus, hnone] at h
    cases h

-- ---------------------------------------------------------------------------
-- Groups that are open
-- ---------------------------------------------------------------------------

/-- The tokens are a sum up to some factor, which may be any. -/
def Opens (tokens : List Token) : Prop :=
  ∀ factor f, Writes .factor factor f → ∃ f', Writes .sum (tokens ++ factor) f'

def IsSum (tokens : List Token) : Prop := ∃ f, Writes .sum tokens f

/-- What the tokens are before and after an operand. -/
def Part : (expectOperand : Bool) → List Token → Prop
  | true => Opens
  | false => IsSum

/-- Tokens with `depth` groups open. Each of these stands where a factor may stand, and what is read
of the innermost one has the property `inner`. -/
inductive Frames : (inner : List Token → Prop) → (depth : ℕ) → List Token → Prop
  | outermost {inner : List Token → Prop} {tokens : List Token} (h : inner tokens) :
      Frames inner 0 tokens
  | opened {inner : List Token → Prop} {depth : ℕ} {before tokens : List Token} {t : Token}
      (hb : Frames Opens depth before) (ht : t.kind = .openParen) (h : inner tokens) :
      Frames inner (depth + 1) (before ++ t :: tokens)

theorem Frames.extend {inner inner' : List Token → Prop} {depth : ℕ} {tokens more : List Token}
    (h : Frames inner depth tokens) (hmore : ∀ ts, inner ts → inner' (ts ++ more)) :
    Frames inner' depth (tokens ++ more) := by
  cases h with
  | outermost h => exact .outermost (hmore _ h)
  | opened hb ht h =>
    rw [List.append_assoc, List.cons_append]
    exact .opened hb ht (hmore _ h)

section
variable {tokens : List Token} {t : Token} {e : Bool}

theorem opens_nil : Opens [] := fun _ _ hf => ⟨_, .term (.factor hf)⟩

theorem Opens.sign (h : Opens tokens) (ht : t.kind = .minus) : Opens (tokens ++ [t]) := by
  intro factor f hf
  rw [List.append_assoc, List.singleton_append]
  exact h _ _ (.negate ht hf)

theorem IsSum.operator {op : Arithmetic} (h : IsSum tokens) (ht : t.operator? = some op) :
    Opens (tokens ++ [t]) := by
  intro factor f hf
  obtain ⟨sum, hsum⟩ := h
  rw [List.append_assoc, List.singleton_append]
  cases ho : op.isHigh with
  | false => exact ⟨_, .sum hsum ht ho (.factor hf)⟩
  | true =>
    -- What binds tighter joins the last term of the sum.
    cases hsum with
    | term hterm => exact ⟨_, .term (.product hterm ht ho hf)⟩
    | sum hl ht' ho' hr =>
      rw [List.append_assoc, List.cons_append]
      exact ⟨_, .sum hl ht' ho' (.product hr ht ho hf)⟩

theorem turn?_true (h : t.turn? true = some e) :
    (e = false ∧ t.shift = 0 ∧ ∃ f, t.operand? = some f) ∨
      (e = true ∧ t.shift = 0 ∧ t.kind = .minus) ∨
        (e = true ∧ t.shift = 1 ∧ t.kind = .openParen) := by
  simp only [Token.turn?, if_true] at h
  split at h
  · rename_i hoperand
    obtain ⟨f, hf⟩ := Option.isSome_iff_exists.mp hoperand
    cases h
    exact .inl ⟨rfl, shift_operand hf, f, hf⟩
  · split at h
    · rename_i hkind
      cases h
      rcases hkind with hkind | hkind
      · exact .inr (.inl ⟨rfl, by simp [Token.shift, hkind], hkind⟩)
      · exact .inr (.inr ⟨rfl, by simp [Token.shift, hkind], hkind⟩)
    · cases h

theorem turn?_false (h : t.turn? false = some e) :
    (e = true ∧ t.shift = 0 ∧ ∃ op, t.operator? = some op) ∨
      (e = false ∧ t.shift = -1 ∧ t.kind = .closeParen) := by
  simp only [Token.turn?, Bool.false_eq_true, if_false] at h
  split at h
  · rename_i hoperator
    obtain ⟨op, hop⟩ := Option.isSome_iff_exists.mp hoperator
    cases h
    exact .inl ⟨rfl, shift_operator hop, op, hop⟩
  · split at h
    · rename_i hkind
      cases h
      exact .inr ⟨rfl, by simp [Token.shift, hkind], hkind⟩
    · cases h

/-- One token keeps what is known about the tokens before it. -/
theorem Frames.step {depth depth' : ℕ} {e e' : Bool} (h : Frames (Part e) depth tokens)
    (ht : t.turn? e = some e') (hd : (depth' : ℤ) = depth + t.shift) :
    Frames (Part e') depth' (tokens ++ [t]) := by
  cases e with
  | true =>
    rcases turn?_true ht with ⟨rfl, hshift, f, hf⟩ | ⟨rfl, hshift, hkind⟩ | ⟨rfl, hshift, hkind⟩
    · obtain rfl : depth' = depth := by omega
      exact h.extend fun ts hts => hts [t] f (.operand hf)
    · obtain rfl : depth' = depth := by omega
      exact h.extend fun ts hts => hts.sign hkind
    · obtain rfl : depth' = depth + 1 := by omega
      exact .opened h hkind opens_nil
  | false =>
    rcases turn?_false ht with ⟨rfl, hshift, op, hop⟩ | ⟨rfl, hshift, hkind⟩
    · obtain rfl : depth' = depth := by omega
      exact h.extend fun ts hts => hts.operator hop
    · cases h with
      | outermost => omega
      | @opened _ depth before tokens opening hb ho h =>
        obtain rfl : depth' = depth := by
          push_cast at hd
          omega
        obtain ⟨f, hf⟩ := h
        rw [List.append_assoc, List.cons_append]
        exact hb.extend fun ts hts => hts _ _ (.group ho hf hkind)

theorem Frames.walk {more : List Token} {p q : Place}
    (h : Frames (Part p.expectOperand) p.depth tokens) (hw : Walk p more q) :
    Frames (Part q.expectOperand) q.depth (tokens ++ more) := by
  induction hw generalizing tokens with
  | done => rwa [List.append_nil]
  | step ht hd _ ih =>
    have h := ih (h.step ht hd)
    rwa [List.append_assoc, List.singleton_append] at h

end

-- ---------------------------------------------------------------------------
-- Expressions
-- ---------------------------------------------------------------------------

theorem writes_of_expression {tokens : List Token} {placed : List PlacedNode}
    (h : Parse.expression tokens = .ok placed) : ∃ f, Writes .sum tokens f := by
  obtain ⟨hnodes, hbalanced⟩ := expression_iff.mp h
  rw [← List.append_nil (placed.map PlacedNode.node)] at hbalanced
  obtain ⟨⟨depth, e⟩, hwalk, hend⟩ := nodes_walk hnodes hbalanced
  obtain ⟨rfl, rfl⟩ : depth = 0 ∧ e = false := by simpa [Expression.balanced] using hend
  have hstart : Frames (Part true) 0 [] := .outermost opens_nil
  cases hstart.walk (p := ⟨0, true⟩) hwalk with
  | outermost h => exact h

theorem derives_of_expressions {tokens : List Token} {placed : List (List PlacedNode)}
    (h : Parse.expressions tokens = .ok placed) :
    ∀ nodes ∈ placed, ∃ t, Derives .sum (nodes.map PlacedNode.node) t := by
  intro nodes hnodes
  obtain ⟨piece, -, hparsed⟩ := mem_of_forall₂ (mapM_iff.mp h) nodes hnodes
  obtain ⟨f, hf⟩ := writes_of_expression hparsed
  obtain ⟨nodes', hnodes', heq⟩ := hf.expression
  rw [hparsed] at hnodes'
  cases hnodes'
  exact ⟨f.tree, heq ▸ hf.derives⟩

/-- Tokens between commas. -/
inductive Joined : List (List Token) → List Token → Prop
  | one (tokens : List Token) : Joined [tokens] tokens
  | cons {pieces : List (List Token)} {rest : List Token} {comma : Token} (tokens : List Token)
      (hc : comma.kind = .comma) (h : Joined pieces rest) :
      Joined (tokens :: pieces) (tokens ++ comma :: rest)

theorem joined_splitArguments (depth : ℤ) (tokens : List Token) :
    Joined (Parse.splitArguments depth tokens) tokens := by
  induction tokens generalizing depth with
  | nil => exact .one []
  | cons t rest ih =>
    rw [Parse.splitArguments]
    split
    · rename_i hcomma
      exact .cons [] hcomma.1 (ih 0)
    · dsimp only
      generalize hpieces : Parse.splitArguments _ rest = pieces
      have hjoined : Joined pieces rest := hpieces ▸ ih _
      cases hjoined with
      | one => exact .one (t :: rest)
      | cons piece hc h => exact .cons (t :: piece) hc h

theorem Joined.writes {pieces : List (List Token)} {tokens : List Token} {fs : List Form}
    (h : Joined pieces tokens) (hw : List.Forall₂ (Writes .sum) pieces fs) :
    WritesList tokens fs := by
  induction h generalizing fs with
  | one tokens =>
    cases hw with
    | cons h hnil =>
      cases hnil
      exact .one h
  | cons tokens hc _ ih =>
    cases hw with
    | cons h hs => exact .cons h hc (ih hs)

/-- Parsing gives expressions for the tokens of a list of forms and for no others. Where it does, it
gives one for each form, in their order: the nodes of the form, which are read as its tree. -/
theorem expressions_grammar (tokens : List Token) :
    ((∃ placed, Parse.expressions tokens = .ok placed) ↔ ∃ fs, WritesList tokens fs) ∧
      ∀ placed fs, Parse.expressions tokens = .ok placed → WritesList tokens fs →
        List.Forall₂ (fun nodes f => nodes.map PlacedNode.node = f.nodes ∧
          Derives .sum (nodes.map PlacedNode.node) f.tree) placed fs := by
  refine ⟨⟨?_, ?_⟩, ?_⟩
  · rintro ⟨placed, h⟩
    have hall := mapM_iff.mp h
    obtain ⟨fs, hfs⟩ := forall₂_choose (S := Writes .sum) (fun _ _ => writes_of_expression) hall
    exact ⟨fs, (joined_splitArguments 0 tokens).writes hfs⟩
  · rintro ⟨fs, h⟩
    have hparsed (piece : List Token) (f : Form) (hf : Writes .sum piece f) :
        ∃ nodes, Parse.expression piece = .ok nodes := by
      obtain ⟨nodes, hnodes, -⟩ := hf.expression
      exact ⟨nodes, hnodes⟩
    obtain ⟨placed, hplaced⟩ := forall₂_choose hparsed h.arguments
    exact ⟨placed, mapM_iff.mpr hplaced⟩
  · intro placed fs hparsed hwritten
    refine forall₂_meet ?_ (mapM_iff.mp hparsed) hwritten.arguments
    intro piece nodes f hnodes hf
    obtain ⟨nodes', hnodes', heq⟩ := hf.expression
    rw [hnodes] at hnodes'
    cases hnodes'
    exact ⟨heq, heq ▸ hf.derives⟩

/-- Signs in front of a name, of a number in parentheses, of a number and of a sign. -/
theorem expressions_grammar_signs :
    let sign (column : ℕ) : Token := ⟨.minus, "-", column⟩
    let tokens : List Token :=
      [sign 1, ⟨.word, "A", 2⟩, ⟨.times, "*", 3⟩, sign 4, ⟨.openParen, "(", 5⟩, ⟨.integer 2, "2", 6⟩,
        ⟨.closeParen, ")", 7⟩, ⟨.comma, ",", 8⟩, sign 9, sign 10, ⟨.integer 3, "3", 11⟩]
    let fs : List Form :=
      [.apply .mul (.negate (.named "A")) (.negate (.group (.literal (.int 2)))),
        .negate (.negate (.literal (.int 3)))]
    WritesList tokens fs ∧ ∃ placed, Parse.expressions tokens = .ok placed ∧
      List.Forall₂ (fun nodes f => nodes.map PlacedNode.node = f.nodes ∧
        Derives .sum (nodes.map PlacedNode.node) f.tree) placed fs := by
  intro sign tokens fs
  have hwritten : WritesList tokens fs := by
    have hnamed : Writes .factor [sign 1, ⟨.word, "A", 2⟩] (.negate (.named "A")) :=
      .negate rfl (.operand rfl)
    have hgroup : Writes .factor [sign 4, ⟨.openParen, "(", 5⟩, ⟨.integer 2, "2", 6⟩,
        ⟨.closeParen, ")", 7⟩] (.negate (.group (.literal (.int 2)))) :=
      .negate rfl (.group rfl (.term (.factor (.operand rfl))) rfl)
    have hsigns : Writes .factor [sign 9, sign 10, ⟨.integer 3, "3", 11⟩]
        (.negate (.negate (.literal (.int 3)))) := .negate rfl (.negate rfl (.operand rfl))
    exact .cons (.term (.product (.factor hnamed) rfl rfl hgroup)) rfl
      (.one (.term (.factor hsigns)))
  obtain ⟨placed, hparsed⟩ := (expressions_grammar tokens).1.mpr ⟨fs, hwritten⟩
  exact ⟨hwritten, placed, hparsed, (expressions_grammar tokens).2 placed fs hparsed hwritten⟩

end Birl
