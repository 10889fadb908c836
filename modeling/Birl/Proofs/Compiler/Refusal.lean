import Birl.Proofs.Compiler.Meaning
import Birl.Proofs.Source.Balance

/-!
# Why expressions are refused

Nodes that are not compiled are malformed, or name a variable that is not visible, or need more slots
than the frame has (`compileFrom_refusal`). A name is looked up and a slot is taken on the way, so the
first reason that is met is the one that is given. How many slots are enough follows from the number
of groups that are open at once (`hasRoom_of_nesting`).
-/

namespace Birl

-- ---------------------------------------------------------------------------
-- Nesting
-- ---------------------------------------------------------------------------

/-- The greatest number of groups that are open at once, over those that are open before. -/
def Expression.nesting : Expression → ℕ
  | [] => 0
  | n :: rest => (n.shift + Expression.nesting rest).toNat

open Expression (nesting balanced)

theorem nesting_cons {n : Node} (h : n.shift = 0) (rest : Expression) :
    nesting (n :: rest) = nesting rest := by
  simp [nesting, h]

theorem nesting_operator {op : Operator} (hopen : op ≠ .openParen) (hclose : op ≠ .closeParen)
    (rest : Expression) : nesting (.operator op :: rest) = nesting rest :=
  nesting_cons (by cases op <;> simp_all [Node.shift]) rest

theorem nesting_other {n : Node} (hop : ∀ op, n ≠ .operator op) (rest : Expression) :
    nesting (n :: rest) = nesting rest := by
  refine nesting_cons ?_ rest
  cases n with
  | operator op => exact absurd rfl (hop op)
  | _ => rfl

theorem nesting_splitGroup {opened : ℕ} {nodes inner after : Expression}
    (h : Compiler.splitGroup opened nodes = some (inner, after)) :
    nesting inner ≤ nesting nodes ∧ nesting after ≤ nesting nodes + opened + 1 := by
  induction nodes generalizing opened inner after with
  | nil => cases h
  | cons n rest ih =>
    by_cases hinside : 0 ≤ (opened : ℤ) + n.shift
    · rw [splitGroup_cons hinside] at h
      obtain ⟨⟨inner, after⟩, hsplit, heq⟩ := Option.map_eq_some_iff.mp h
      cases heq
      obtain ⟨hinner, hafter⟩ := ih hsplit
      simp only [nesting]
      omega
    · obtain rfl : n = .operator .closeParen := shift_negative (by omega)
      obtain rfl : opened = 0 := by
        simp only [Node.shift] at hinside
        omega
      cases h
      simp only [nesting, Node.shift]
      omega

/-- A group is nested less deeply than what it stands in, and what follows it no deeper. -/
theorem nesting_group {rest inner after : Expression}
    (h : Compiler.splitGroup 0 rest = some (inner, after)) :
    nesting inner < nesting (.operator .openParen :: rest) ∧
      nesting after ≤ nesting (.operator .openParen :: rest) := by
  obtain ⟨hinner, hafter⟩ := nesting_splitGroup h
  simp only [nesting, Node.shift]
  omega

namespace Compiler

section
variable {c : Compiler} {next : ℕ} {expectOperand : Bool} {nodes : List Node} {fault : Fault}

-- ---------------------------------------------------------------------------
-- Why nodes are refused
-- ---------------------------------------------------------------------------

/-- The reasons for which nodes are not compiled from slot `next` on. -/
inductive Refusal (c : Compiler) (next : ℕ) (expectOperand : Bool) (nodes : List Node) : Fault → Prop
  | unknown {name : Text} (hmem : .symbol name ∈ nodes) (hnone : c.resolve name = none) :
      Refusal c next expectOperand nodes (.unknownVariable name)
  | full (hsize : c.frameSize ≤ next + 2 * nesting nodes) :
      Refusal c next expectOperand nodes (.frameFull (c.frameSize - 1))
  | malformed {fault : Fault} (hb : balanced 0 expectOperand nodes = false)
      (hkind : fault.kind = .parse) : Refusal c next expectOperand nodes fault

theorem Refusal.whole {next' : ℕ} {expectOperand' : Bool} {nodes' : List Node}
    (h : Refusal c next expectOperand nodes fault) (hmem : nodes ⊆ nodes')
    (hsize : next + 2 * nesting nodes ≤ next' + 2 * nesting nodes')
    (hb : balanced 0 expectOperand' nodes' = true → balanced 0 expectOperand nodes = true) :
    Refusal c next' expectOperand' nodes' fault := by
  cases h with
  | unknown hname hnone => exact .unknown (hmem hname) hnone
  | full hfull => exact .full (Nat.le_trans hfull hsize)
  | malformed hbad hkind =>
    refine .malformed (Bool.eq_false_iff.mpr fun hgood => ?_) hkind
    rw [hb hgood] at hbad
    cases hbad

theorem Refusal.inner {start : ℕ} {rest inner after : List Node}
    (hs : splitGroup 0 rest = some (inner, after)) (hstart : start ≤ next + 2)
    (h : Refusal c start true inner fault) :
    Refusal c next true (.operator .openParen :: rest) fault := by
  have hless := (nesting_group hs).1
  refine h.whole ?_ (by omega) fun hb => (balanced_group hs hb).1
  intro n hn
  simp [splitGroup_eq hs, hn]

theorem Refusal.after {rest inner after : List Node}
    (hs : splitGroup 0 rest = some (inner, after)) (h : Refusal c next false after fault) :
    Refusal c next true (.operator .openParen :: rest) fault := by
  have hle := (nesting_group hs).2
  refine h.whole ?_ (by omega) fun hb => (balanced_group hs hb).2
  intro n hn
  simp [splitGroup_eq hs, hn]

theorem Refusal.join {op : Operator} {rest : List Node} (hopen : op ≠ .openParen)
    (hclose : op ≠ .closeParen) (h : Refusal c next true rest fault) :
    Refusal c next false (.operator op :: rest) fault := by
  refine h.whole (List.subset_cons_self _ _) ?_ fun hb => ?_
  · rw [nesting_operator hopen hclose]
  · rwa [Expression.balanced_operator hopen hclose] at hb

theorem Refusal.operand {node : Node} {rest : List Node} (hnode : node.isOperand = true)
    (h : Refusal c next false rest fault) : Refusal c next true (node :: rest) fault := by
  obtain ⟨t, ht, hshift⟩ : ∃ t, node.tree? = some t ∧ node.shift = 0 := by
    cases node with
    | value k => exact ⟨_, rfl, rfl⟩
    | symbol name => exact ⟨_, rfl, rfl⟩
    | _ => cases hnode
  refine h.whole (List.subset_cons_self _ _) ?_ fun hb => ?_
  · rw [nesting_cons hshift]
  · rwa [Expression.balanced_operand ht] at hb

theorem operand_error {node : Node} (hnode : node.isOperand = true)
    (h : c.operand node = .error fault) (expectOperand : Bool) :
    Refusal c next expectOperand (node :: nodes) fault := by
  cases node with
  | value k => cases h
  | symbol name =>
    simp only [Compiler.operand] at h
    split at h
    · cases h
    · rename_i hnone
      cases h
      exact .unknown List.mem_cons_self hnone
  | _ => cases hnode

theorem allocate_error {address : ℕ} (h : c.allocate address = .error fault) :
    c.frameSize ≤ address ∧ fault = .frameFull (c.frameSize - 1) := by
  unfold allocate at h
  split at h
  · rename_i hfull
    cases h
    exact ⟨hfull, rfl⟩
  · cases h

theorem Progress.free_le (s : Progress) (next : ℕ) : s.free next ≤ next + 1 := by
  unfold Progress.free
  split <;> omega

/-- Nodes that are not compiled are refused for a reason, whatever was compiled before them. -/
theorem compileFrom_refusal {s : Progress} (hknown : ∀ n ∈ nodes, n.Known)
    (h : c.compileFrom next s nodes = .error fault) :
    Refusal c next s.expectValue nodes fault := by
  have hrest {n : Node} {rest : List Node} (hknown : ∀ m ∈ n :: rest, m.Known) :
      ∀ m ∈ rest, m.Known := (List.forall_mem_cons.mp hknown).2
  fun_induction compileFrom c next s nodes generalizing fault with
  | case1 next s he =>
    cases h
    exact .malformed (by simp [balanced, he]) rfl
  | case2 => cases h
  | case3 next s rest he =>
    cases h
    simp only [Bool.not_eq_true'] at he
    exact .malformed (by simp [balanced, Node.starts, he]) rfl
  | case4 next s rest he hs =>
    cases h
    simp only [Bool.not_eq_true', Bool.not_eq_false] at he
    -- What is balanced would have a parenthesis that closes the group.
    refine .malformed (Bool.eq_false_iff.mpr fun hb => ?_) rfl
    rw [he] at hb
    obtain ⟨inner, after, hsplit, -⟩ := group_balanced hb
    rw [hs] at hsplit
    cases hsplit
  | case5 next s rest he inner after hs _ hp ihg ihm =>
    simp only [Bool.not_eq_true', Bool.not_eq_false] at he
    obtain ⟨hinner, hafter⟩ := known_group hs hknown
    rw [he]
    simp only [bind_error] at h
    rcases h with h | ⟨_, -, h | ⟨_, -, h⟩⟩
    · exact (ihg hinner h).inner hs (Nat.le_succ_of_le (s.free_le next))
    · exact (ihm hafter h).after hs
    · cases h
  | case6 next s rest he inner after hs _ op hp ihg ihm =>
    simp only [Bool.not_eq_true', Bool.not_eq_false] at he
    obtain ⟨hinner, hafter⟩ := known_group hs hknown
    -- The sum and the term in front of the group take a slot each.
    have hfree := s.free_le next
    rw [he]
    simp only [bind_error] at h
    rcases h with h | ⟨slot, hslot, h | ⟨_, -, h | ⟨_, -, h⟩⟩⟩
    · obtain ⟨hfull, rfl⟩ := allocate_error h
      have hless := (nesting_group hs).1
      exact .full (by omega)
    · obtain ⟨-, rfl⟩ := allocate_ok hslot
      exact (ihg _ hinner h).inner hs (by omega)
    · exact (ihm hafter h).after hs
    · cases h
  | case7 next s =>
    cases h
    exact .malformed (by simp [balanced, Node.shift]) rfl
  | case8 next s op rest hopen hclose he =>
    cases h
    exact .malformed (by cases op <;> simp_all [balanced, Node.starts]) rfl
  | case9 next s op rest hopen hclose he ho ih =>
    rw [Bool.not_eq_true] at he
    rw [he]
    exact (ih (hrest hknown) h).join hopen hclose
  | case10 next s op _ _ _ _ hsimple => cases hsimple
  | case11 next s op hopen hclose he ho sum node rest hsimple =>
    rename_i ih
    rw [Bool.not_eq_true] at he
    rw [he]
    have hnode : node.isOperand = true := (Bool.and_eq_true_iff.mp hsimple).1
    refine Refusal.join hopen hclose ?_
    simp only [bind_error] at h
    rcases h with h | ⟨_, -, h | ⟨_, -, h⟩⟩
    · exact operand_error hnode h true
    · exact (ih (hrest (hrest hknown)) h).operand hnode
    · cases h
  | case12 next s op rest hopen hclose he ho sum hsimple join hacc =>
    rename_i ih
    rw [Bool.not_eq_true] at he
    rw [he]
    simp +zetaDelta only [bind_error] at h
    rcases h with h | ⟨_, -, h | ⟨_, -, h⟩⟩
    · obtain ⟨hfull, rfl⟩ := allocate_error h
      exact .full (Nat.le_add_right_of_le hfull)
    · exact (ih (hrest hknown) h).join hopen hclose
    · cases h
  | case13 next s op rest hopen hclose he ho sum hsimple join hacc =>
    rename_i ih
    rw [Bool.not_eq_true] at he
    rw [he]
    simp +zetaDelta only [bind_error] at h
    rcases h with h | ⟨_, -, h⟩
    · exact (ih (hrest hknown) h).join hopen hclose
    · cases h
  | case14 next s node rest _ _ hop he =>
    cases h
    simp only [Bool.not_eq_true'] at he
    have hstarts : node.starts = true := by
      cases node <;> first | rfl | exact absurd rfl (hop _)
    exact .malformed (by simp [balanced, hstarts, he]) rfl
  | case15 next s node rest _ _ hop he ih =>
    simp only [Bool.not_eq_true', Bool.not_eq_false] at he
    have hnode := (hknown node List.mem_cons_self).isOperand hop
    rw [he]
    simp only [bind_error] at h
    rcases h with h | ⟨_, -, h | ⟨_, -, h⟩⟩
    · exact operand_error hnode h true
    · exact (ih (hrest hknown) h).operand hnode
    · cases h

theorem expression_refusal {e : Expression} (hknown : ∀ n ∈ e, n.Known)
    (h : c.expression next e = .error fault) : Refusal c next true e fault := by
  unfold expression at h
  split at h
  · rename_i hempty
    cases h
    rw [List.isEmpty_iff.mp hempty]
    exact .malformed rfl rfl
  · exact compileFrom_refusal hknown h

theorem Refusal.kind_ne {e : Expression} {t : Tree} (h : Refusal c next true e fault)
    (ht : Derives .sum e t) : fault.kind ≠ .parse := by
  cases h with
  | unknown => exact ErrorKind.noConfusion
  | full => exact ErrorKind.noConfusion
  | malformed hb =>
    rw [(balanced_iff ht.known).mpr ⟨t, ht⟩] at hb
    cases hb

/-- The frame does not get full while the expression is compiled. This asks for no more slots than are
used; `hasRoom_of_nesting` gives a number that always suffices. -/
def HasRoom (c : Compiler) (next : ℕ) (e : Expression) : Prop :=
  ∀ most, c.expression next e ≠ .error (.frameFull most)

/-- Two slots for every group that is open at once, and one for the sum around them. -/
theorem hasRoom_of_nesting {e : Expression} (hknown : ∀ n ∈ e, n.Known)
    (hsize : next + 2 * nesting e < c.frameSize) : c.HasRoom next e := by
  intro most h
  cases expression_refusal hknown h with
  | full hfull => omega
  | malformed _ hkind => cases hkind

theorem derives_of_expression {e : Expression} {code : List Operation}
    (hknown : ∀ n ∈ e, n.Known) (h : c.expression next e = .ok code) :
    ∃ t, Derives .sum e t := by
  have hmeant : Node.operator .unknown ∉ e := fun hmem => absurd rfl (hknown _ hmem)
  obtain ⟨t, ht⟩ : ∃ t, read none (.before none) e = some t :=
    (compiles_of_expression h).reads hmeant none rfl
  exact ⟨t, read_iff.mp ht⟩

theorem expression_of_derives {e : Expression} {t : Tree}
    (hresolved : ∀ name, .symbol name ∈ e → (c.resolve name).isSome = true)
    (hroom : c.HasRoom next e) (ht : Derives .sum e t) :
    ∃ code, c.expression next e = .ok code := by
  cases h : c.expression next e with
  | ok code => exact ⟨code, rfl⟩
  | error fault =>
    exfalso
    have hrefusal := expression_refusal ht.known h
    have hkind := hrefusal.kind_ne ht
    cases hrefusal with
    | @unknown name hmem hnone =>
      have hsome := hresolved name hmem
      rw [hnone] at hsome
      cases hsome
    | full => exact hroom _ h
    | malformed _ hparse => exact hkind hparse

end

end Compiler
end Birl
