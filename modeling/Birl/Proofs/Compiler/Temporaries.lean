import Birl.Proofs.Compiler.InPlace
import Birl.Proofs.Compiler.Quiet
import Birl.Proofs.Compiler.Refusal

/-!
# Hidden slots grow only with nesting

While an expression is compiled, a level of parentheses has at most two hidden slots at a time: one
for its sum, and one for the term in front of a group. So everything that is emitted, also on the way
to a failure, writes at most two slots for every group that is open at once and one more
(`writes_level`), however long the expression is. The slots are given back in the end, and there are
enough of them if that many are free (`temporaries_follow_nesting`).
-/

namespace Birl

open Expression (nesting)

namespace Compiler

/-- The operation works on registers or writes a hidden slot from `first` up to `last`. -/
def WritesHidden (c : Compiler) (first last : ℕ) (op : Operation) : Prop :=
  op.onRegisters = true ∨ ∃ slot, first ≤ slot ∧ slot ≤ last ∧ op = (c.hidden slot).write

theorem Spares.onRegisters {c : Compiler} {op : Operation} (h : c.Spares c.frameSize op) :
    op.onRegisters = true := by
  rcases h with h | ⟨slot, hbase, hsize, -⟩
  · exact h
  · omega

namespace Work

/-- Whatever the work emits before it ends or fails writes hidden slots from `first` up to `last`
alone. -/
def Writes (first last : ℕ) (c : Compiler) (w : Work Unit) : Prop :=
  ∀ code, ∃ added, (w.run.run ⟨c, code⟩).2.code = code ++ added ∧
    ∀ op ∈ added, c.WritesHidden first last op

section
variable {c : Compiler} {first last : ℕ} {w w' : Work Unit} {r : Except Fault (List Operation)}

-- ---------------------------------------------------------------------------
-- Pieces of work
-- ---------------------------------------------------------------------------

theorem Writes.mono {first' last' : ℕ} (h : Writes first last c w) (hf : first' ≤ first)
    (hl : last ≤ last') : Writes first' last' c w := by
  intro code
  obtain ⟨added, hcode, hadded⟩ := h code
  refine ⟨added, hcode, fun op hop => (hadded op hop).imp_right ?_⟩
  rintro ⟨slot, hfirst, hlast, rfl⟩
  exact ⟨slot, hf.trans hfirst, hlast.trans hl, rfl⟩

theorem writes_throw (fault : Fault) : Writes first last c (throw fault) :=
  fun code => ⟨[], (List.append_nil code).symm, nofun⟩

theorem writes_emit {ops : List Operation} (h : ∀ op ∈ ops, c.Spares c.frameSize op) :
    Writes first last c (emit ops) :=
  fun _ => ⟨ops, rfl, fun op hop => .inl (h op hop).onRegisters⟩

theorem writes_swap (c : Compiler) : Writes first last c (emit [.swap]) :=
  writes_emit (by simp [Spares, Operation.onRegisters])

theorem writes_write {slot : ℕ} (hf : first ≤ slot) (hl : slot ≤ last) :
    Writes first last c (write slot) := by
  refine fun _ => ⟨[(c.hidden slot).write], rfl, fun op hop => .inr ⟨slot, hf, hl, ?_⟩⟩
  exact List.mem_singleton.mp hop

theorem writes_fold (slot : ℕ) (op : Operator) : Writes first last c (fold slot op) :=
  fun _ => ⟨c.foldInto slot op, rfl, fun _ hop => .inl (spares_foldInto slot op _ hop).onRegisters⟩

theorem writes_settle (slot : ℕ) (low : Option Operator) :
    Writes first last c (low.elim (pure ()) (fold slot)) := by
  cases low with
  | none => exact fun code => ⟨[], (List.append_nil code).symm, nofun⟩
  | some op => exact writes_fold slot op

theorem writes_ask {α : Type} {f : Compiler → Except Fault α} {k : α → Work Unit}
    (h : ∀ a, f c = .ok a → Writes first last c (k a)) : Writes first last c (ask f >>= k) := by
  intro code
  rw [run_bind, run_ask]
  cases hf : f c with
  | error fault => exact ⟨[], (List.append_nil code).symm, nofun⟩
  | ok a => exact h a hf code

theorem writes_load (node : Node) : Writes first last c (load node) :=
  writes_ask (f := (·.operand node)) fun _ hops => writes_emit (loads_of_ok hops).spares

theorem Writes.seq (h : Writes first last c w) (hadds : Adds c w r) (h' : Writes first last c w') :
    Writes first last c (do w; w') := by
  intro code
  obtain ⟨_, rfl, hends⟩ := hadds code
  obtain ⟨added, hcode, hadded⟩ := h code
  rw [run_bind]
  generalize w.run.run ⟨c, code⟩ = result at hends hcode
  cases hends with
  | failed => exact ⟨added, hcode, hadded⟩
  | added ops =>
    obtain rfl : ops = added := List.append_cancel_left hcode
    obtain ⟨more, hcode', hmore⟩ := h' (code ++ ops)
    exact ⟨ops ++ more, hcode'.trans (List.append_assoc _ _ _), List.forall_mem_append.mpr
      ⟨hadded, hmore⟩⟩

theorem Writes.scratch (h : Writes first last c w) : Writes first last c (scratch w) := by
  intro code
  rw [run_scratch]
  exact h code

theorem writes_get {k : Draft → Work Unit} (h : ∀ code, Writes first last c (k ⟨c, code⟩)) :
    Writes first last c (get >>= k) :=
  fun code => h code code

-- Which slots are hidden does not depend on the one that is free, so the bounds carry over.

theorem writes_reserve {n : ℕ} {k : ℕ → Work Unit}
    (h : Writes first last { c with next := n + 1 } (k n)) :
    Writes first last { c with next := n } (reserve >>= k) := by
  intro code
  rw [run_bind]
  unfold reserve
  rw [run_bind, run_ask]
  simp only
  cases hslot : ({ c with next := n } : Compiler).allocate n with
  | error fault => exact ⟨[], (List.append_nil code).symm, nofun⟩
  | ok slot =>
    obtain ⟨-, rfl⟩ := allocate_ok hslot
    exact h code

theorem writes_release {n next : ℕ} (h : Writes first last { c with next } w) :
    Writes first last { c with next := n } (do release next; w) :=
  fun code => h code

end

-- ---------------------------------------------------------------------------
-- Levels
-- ---------------------------------------------------------------------------

/-- A level whose first hidden slot is `first`. The cases are those of the compiler; a group is
nested less deeply than what it stands in, which makes up for the slots it starts after. -/
theorem writes_level (c : Compiler) (first slot : ℕ) (s : Progress) (nodes : List Node)
    (hs : s.hasAccumulator = true ∨ s.low.isSome = true → slot = first) :
    Writes first (first + 2 * nesting nodes) { c with next := s.free first } (level slot s nodes) := by
  fun_induction compileFrom c first s nodes generalizing slot with
  | case1 first s he =>
    rw [level, if_pos he]
    exact writes_throw _
  | case2 first s he =>
    rw [level, if_neg he]
    exact writes_settle slot s.low
  | case3 first s rest he =>
    rw [level, if_pos he]
    exact writes_throw _
  | case4 first s rest he hg =>
    rw [level, if_neg he]
    split
    · exact writes_throw _
    · rename_i hg'
      cases hg.symm.trans hg'
  | case5 first s rest he inner after hg _ hp ihg ihm =>
    rw [level_group (by simpa using he) hg]
    simp only [hp] at ihm ⊢
    obtain ⟨hinner, hafter⟩ := nesting_group hg
    have hfree := s.free_le first
    have hle := s.le_free first
    exact ((ihg 0 (by simp)).mono hle (by omega)).scratch.seq
      (level_uses c (s.free first) 0 {} inner (by simp)).scratch
      ((ihm slot hs).mono le_rfl (by omega))
  | case6 first s rest he inner after hg _ op hp ihg ihm =>
    rw [level_group (by simpa using he) hg]
    simp only [hp]
    obtain ⟨hinner, hafter⟩ := nesting_group hg
    have hfree := s.free_le first
    have hle := s.le_free first
    refine writes_get fun _ => writes_reserve ?_
    have hmore := (ihm slot hs).mono le_rfl (show first + 2 * nesting after ≤
      first + 2 * nesting (.operator .openParen :: rest) by omega)
    have hgroup := ((ihg (s.free first) 0 (by simp)).mono (show first ≤ _ by omega)
      (show _ ≤ first + 2 * nesting (.operator .openParen :: rest) by omega)).scratch
    refine (writes_write hle (by omega)).seq (adds_write _ _) ?_
    refine hgroup.seq (level_uses c (s.free first + 1) 0 {} inner (by simp)).scratch ?_
    exact (writes_fold _ op).seq (adds_fold _ _ op) (writes_release hmore)
  | case7 =>
    rw [level]
    exact writes_throw _
  | case8 first s op rest hopen hclose he =>
    rw [level_operator hopen hclose, if_pos he]
    exact writes_throw _
  | case9 first s op rest hopen hclose he ho ih =>
    rw [level_operator hopen hclose, if_neg he, if_pos ho, nesting_operator hopen hclose]
    exact ih slot hs
  | case10 first s op hopen hclose he ho hsimple => cases hsimple
  | case11 first s op hopen hclose he ho sum node rest hsimple =>
    rename_i ih
    have hnode : node.isOperand = true := (Bool.and_eq_true_iff.mp hsimple).1
    have hop : ∀ op, node ≠ .operator op := by
      rintro op rfl
      cases hnode
    rw [level_operator hopen hclose, if_neg he, if_neg ho, if_pos hsimple,
      nesting_operator hopen hclose, nesting_other hop]
    refine (writes_settle slot s.low).seq (adds_settle _ hs) ?_
    refine (writes_swap _).seq (adds_emit _ _) ?_
    refine (writes_load node).seq (adds_load _ node) ?_
    refine (writes_emit (spares_operations op)).seq (adds_emit _ _) ?_
    exact ih slot fun h => hs (.inl (by simpa using h))
  | case12 first s op rest hopen hclose he ho sum hsimple join hacc =>
    rename_i ih
    rw [level_operator hopen hclose, if_neg he, if_neg ho, if_neg hsimple, if_neg (by simpa using hacc),
      nesting_operator hopen hclose]
    have hfree : s.free first = first := by simp_all [Progress.free]
    rw [hfree]
    refine (writes_settle slot s.low).seq (adds_settle _ hs) (writes_reserve ?_)
    exact (writes_write le_rfl (Nat.le_add_right _ _)).seq (adds_write _ _) (ih first fun _ => rfl)
  | case13 first s op rest hopen hclose he ho sum hsimple join hacc =>
    rename_i ih
    have hacc : s.hasAccumulator = true := by simpa using hacc
    obtain rfl : slot = first := hs (.inl hacc)
    rw [level_operator hopen hclose, if_neg he, if_neg ho, if_neg hsimple, if_pos hacc,
      nesting_operator hopen hclose]
    have hmore := ih slot fun _ => rfl
    have hfree : s.free slot = slot + 1 := by simp [Progress.free, hacc]
    rw [hfree]
    rw [hacc]
    refine (writes_settle slot s.low).seq (adds_settle _ hs) ?_
    exact (writes_write le_rfl (Nat.le_add_right _ _)).seq (adds_write _ _) hmore
  | case14 first s node rest hopen hclose hop he =>
    rw [level.eq_6 _ _ _ _ hopen hclose hop, if_pos he]
    exact writes_throw _
  | case15 first s node rest hopen hclose hop he ih =>
    rw [level.eq_6 _ _ _ _ hopen hclose hop, if_neg he, nesting_other hop]
    have hmore := ih slot hs
    cases hp : s.pending with
    | none =>
      exact (writes_load node).seq (adds_load _ node) hmore
    | some op =>
      refine (writes_swap _).seq (adds_emit _ _) ?_
      refine (writes_load node).seq (adds_load _ node) ?_
      exact (writes_emit (spares_operations op)).seq (adds_emit _ _) hmore

theorem writes_expression (c : Compiler) (e : Expression) :
    Writes c.next (c.next + 2 * nesting e) c (expression e) := by
  unfold expression
  split
  · exact writes_throw _
  · exact (writes_level c c.next 0 {} e nofun).scratch

end Work

/-- An expression compiles, however long it is, where two slots are free for every group that is open
at once and one more. Whether it succeeds or fails, compiling it leaves the compiler as it was, with the
same next free slot, and of all slots the code emitted on the way writes only hidden ones among
those. -/
theorem temporaries_follow_nesting (c : Compiler) {e : Expression} {t : Tree}
    (ht : Derives .sum e t)
    (hresolved : ∀ name, .symbol name ∈ e → (c.resolve name).isSome = true) :
    (c.next + 2 * nesting e + 1 ≤ c.frameSize → ∃ code, c.expression c.next e = .ok code) ∧
      ∀ before, ∃ added,
        (Work.expression e).run.run ⟨c, before⟩ =
          ((c.expression c.next e).map fun _ => (), ⟨c, before ++ added⟩) ∧
        (∀ code, c.expression c.next e = .ok code → added = code) ∧
        ∀ op ∈ added, c.WritesHidden c.next (c.next + 2 * nesting e) op := by
  refine ⟨fun hsize => ?_, fun before => ?_⟩
  · exact expression_of_derives hresolved (hasRoom_of_nesting ht.known (by omega)) ht
  · obtain ⟨_, rfl, hends⟩ := Work.adds_expression c c.next e before
    obtain ⟨added, hcode, hadded⟩ := Work.writes_expression c e before
    refine ⟨added, ?_⟩
    generalize (Work.expression e).run.run ⟨c, before⟩ = result at hends hcode ⊢
    generalize c.expression c.next e = compiled at hends ⊢
    cases hends with
    | added ops =>
      obtain rfl : ops = added := List.append_cancel_left hcode
      exact ⟨rfl, fun code hok => Except.ok.inj hok, hadded⟩
    | failed fault _ code =>
      obtain rfl : code = before ++ added := hcode
      exact ⟨rfl, nofun, hadded⟩

/-- `1 + 2 * (3 - 4 * (X + 5 * 6))` takes all five slots that are free for it. In a frame with one slot
less there is none for the innermost sum, and the failure leaves nothing behind. -/
theorem temporaries_follow_nesting_twice :
    let e : Expression :=
      [.value (.int 1), .operator .plus, .value (.int 2), .operator .times, .operator .openParen,
        .value (.int 3), .operator .minus, .value (.int 4), .operator .times, .operator .openParen,
        .symbol returnName, .operator .plus, .value (.int 5), .operator .times, .value (.int 6),
        .operator .closeParen, .operator .closeParen]
    (∃ t, Derives .sum e t) ∧ (∀ name, .symbol name ∈ e → ((new 5).resolve name).isSome = true) ∧
      (new 6).next + 2 * nesting e + 1 ≤ (new 6).frameSize ∧
      (∃ code, (new 6).expression (new 6).next e = .ok code) ∧
      ∃ added, (Work.expression e).run.run ⟨new 5, []⟩ = (.error (.frameFull 4), ⟨new 5, added⟩) ∧
        ∀ op ∈ added, (new 5).WritesHidden 1 5 op := by
  intro e
  obtain ⟨t, ht⟩ : ∃ t, Derives .sum e t :=
    (balanced_iff (by simp [e, Node.Known])).mp (by decide)
  have hresolved (size : ℤ) : ∀ name, .symbol name ∈ e → ((new size).resolve name).isSome = true := by
    intro name hname
    obtain rfl : name = returnName := by simpa [e] using hname
    rfl
  have hsize : (new 6).next + 2 * nesting e + 1 ≤ (new 6).frameSize := by decide
  have hfull : (new 5).expression (new 5).next e = .error (.frameFull 4) := by decide +kernel
  obtain ⟨added, hrun, -, hadded⟩ := (temporaries_follow_nesting (new 5) ht (hresolved 5)).2 []
  rw [hfull] at hrun
  exact ⟨⟨t, ht⟩, hresolved 5, hsize, (temporaries_follow_nesting (new 6) ht (hresolved 6)).1 hsize,
    added, hrun, hadded⟩

end Compiler
end Birl
