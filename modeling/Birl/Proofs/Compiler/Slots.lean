import Birl.Proofs.Compiler.Layout

/-!
# No two variables share a slot

A block takes slots from the one that was free when it was opened, and a scope gives
each of its names a slot of its own. Together with the layout, which puts the scopes
around a block below that slot, this keeps apart all variables of one frame
(`Reachable.apart`).
-/

namespace Birl

namespace Bindings

/-- Different names of a scope have different slots. -/
def Distinct (vars : Bindings) : Prop :=
  ∀ name name' symbol symbol', vars.find? name = some symbol → vars.find? name' = some symbol' →
    symbol.address = symbol'.address → name = name'

/-- All variables lie at `start` or above. -/
def From (vars : Bindings) (start : Nat) : Prop :=
  ∀ name symbol, vars.find? name = some symbol → start ≤ symbol.address

/-- The variables of an outer scope lie below those of an inner one in the same frame. -/
def Below (outer inner : Bindings) : Prop :=
  ∀ name name' symbol symbol', outer.find? name = some symbol → inner.find? name' = some symbol' →
    symbol.global = symbol'.global → symbol.address < symbol'.address

section
variable {vars : Bindings} {name : Text} {symbol : Symbol}

theorem distinct_nil : Distinct [] := nofun

theorem from_nil (start : Nat) : From [] start := nofun

theorem Distinct.put (h : vars.Distinct)
    (ha : ∀ n s, n ≠ name → vars.find? n = some s → s.address ≠ symbol.address) :
    (vars.put name symbol).Distinct := by
  intro n n' s s' hs hs' heq
  rw [find?_put] at hs hs'
  split at hs <;> split at hs'
  · simp_all
  · rename_i hn hn'
    cases hs
    exact absurd heq.symm (ha n' s' hn' hs')
  · rename_i hn hn'
    cases hs'
    exact absurd heq (ha n s hn hs)
  · exact h n n' s s' hs hs' heq

theorem From.put {start : Nat} (h : vars.From start) (ha : start ≤ symbol.address) :
    (vars.put name symbol).From start := by
  intro n s hs
  rw [find?_put] at hs
  split at hs
  · cases hs
    exact ha
  · exact h n s hs

theorem Within.below {outer inner : Bindings} {limit : Nat} {global : Bool}
    (h : outer.Within limit global) (hi : inner.From limit) : outer.Below inner := by
  intro name name' symbol symbol' hs hs' _
  exact Nat.lt_of_lt_of_le (h name symbol hs).1 (hi name' symbol' hs')

theorem below_of_frames {outer inner : Bindings} {limit limit' : Nat}
    (ho : outer.Within limit true) (hi : inner.Within limit' false) : outer.Below inner := by
  intro name name' symbol symbol' hs hs' heq
  rw [(ho name symbol hs).2, (hi name' symbol' hs').2] at heq
  cases heq

end
end Bindings

namespace Compiler

/-- Each scope gives its names slots of their own, and a block none that was taken
when it was opened. -/
structure Slotted (c : Compiler) : Prop where
  scopes : ∀ vars ∈ c.scopes, vars.Distinct
  blocks : ∀ block ∈ c.blocks, block.vars.From block.savedNext

-- ---------------------------------------------------------------------------
-- Commands
-- ---------------------------------------------------------------------------

section
variable {c c' : Compiler}

theorem scopes_setInnermost (c : Compiler) :
    ∃ outer, c.scopes = c.innermost :: outer ∧
      ∀ vars, (c.setInnermost vars).scopes = vars :: outer := by
  cases hb : c.blocks with
  | cons block rest =>
    refine ⟨rest.map Block.vars ++ (c.function.map OpenFunction.vars).toList ++ [c.globals], ?_, ?_⟩
    · simp [Compiler.scopes, innermost, hb]
    · simp [Compiler.scopes, setInnermost, hb]
  | nil =>
    cases hf : c.function with
    | some function =>
      exact ⟨[c.globals], by simp [Compiler.scopes, innermost, hb, hf],
        by simp [Compiler.scopes, setInnermost, hb, hf]⟩
    | none =>
      exact ⟨[], by simp [Compiler.scopes, innermost, hb, hf],
        by simp [Compiler.scopes, setInnermost, hb, hf]⟩

theorem Slotted.innermost (h : Slotted c) : c.innermost.Distinct := by
  obtain ⟨outer, hscopes, -⟩ := c.scopes_setInnermost
  exact h.scopes _ (hscopes ▸ List.mem_cons_self)

theorem Slotted.setInnermost (h : Slotted c) {vars : Bindings} (hd : vars.Distinct)
    (hf : ∀ block rest, c.blocks = block :: rest → vars.From block.savedNext) :
    Slotted (c.setInnermost vars) := by
  obtain ⟨outer, hscopes, hset⟩ := c.scopes_setInnermost
  constructor
  · have houter : ∀ vars ∈ outer, vars.Distinct := fun vars hvars =>
      h.scopes vars (hscopes ▸ List.mem_cons_of_mem _ hvars)
    rw [hset]
    exact List.forall_mem_cons.mpr ⟨hd, houter⟩
  · have hblocks := h.blocks
    unfold Compiler.setInnermost
    split
    · rename_i block rest hb
      rw [hb] at hblocks
      obtain ⟨-, hrest⟩ := List.forall_mem_cons.mp hblocks
      exact List.forall_mem_cons.mpr ⟨hf block rest hb, hrest⟩
    · exact hblocks
    · exact hblocks

theorem Declares.slotted {name : Text} {readOnly : Bool} {symbol : Symbol}
    (hd : Declares c name readOnly symbol c') (hl : Layout c) (h : Slotted c) : Slotted c' := by
  have hinner (block : Block) (rest : List Block) (hb : c.blocks = block :: rest) :
      c.innermost.From block.savedNext := by
    have hfrom := h.blocks block (hb ▸ List.mem_cons_self)
    simpa [Compiler.innermost, hb] using hfrom
  cases hd with
  | fresh hf =>
    -- The new slot lies above all of the scope, and above where its block began.
    have hfresh : Slotted (c.setInnermost (c.innermost.put name
        { address := c.next, global := c.inGlobal, readOnly })) := by
      refine h.setInnermost (h.innermost.put fun n s _ hs => ?_) fun block rest hb => ?_
      · exact Nat.ne_of_lt (hl.innermost n s hs).1
      · obtain ⟨base, hnests, -⟩ := hl.scopes
        rw [hb] at hnests
        exact (hinner block rest hb).put hnests.2.1
    exact ⟨hfresh.scopes, hfresh.blocks⟩
  | @again previous hp hw =>
    refine h.setInnermost (h.innermost.put fun n s hn hs heq => ?_) fun block rest hb => ?_
    · exact hn (h.innermost n name s previous hs hp heq)
    · exact (hinner block rest hb).put (hinner block rest hb name previous hp)

theorem bindParameters_distinct {params : List Parameter} {address : Nat} {vars vars' : Bindings}
    {kinds : List ParameterKind} (h : bindParameters address vars params = .ok (vars', kinds))
    (hw : vars.Within address false) (hd : vars.Distinct) : vars'.Distinct := by
  induction params generalizing address vars kinds with
  | nil =>
    cases h
    exact hd
  | cons param rest ih =>
    unfold bindParameters at h
    split at h
    · cases h
    · split at h
      · cases h
      · simp only [bind_ok, pure_ok] at h
        obtain ⟨⟨vars'', kinds'⟩, hrest, he⟩ := h
        cases he
        refine ih hrest ((hw.mono (Nat.le_succ address)).put (Nat.lt_succ_self address) rfl) ?_
        exact hd.put fun n s _ hs => Nat.ne_of_lt (hw n s hs).1

theorem distinct_single (name : Text) (symbol : Symbol) : Bindings.Distinct [(name, symbol)] :=
  Bindings.distinct_nil.put nofun

theorem Slotted.of_eq (h : Slotted c) (hg : c'.globals = c.globals)
    (hf : c'.function = c.function) (hb : c'.blocks = c.blocks) : Slotted c' := by
  have hscopes : c'.scopes = c.scopes := by simp [Compiler.scopes, hg, hf, hb]
  exact ⟨hscopes ▸ h.scopes, hb ▸ h.blocks⟩

theorem Emits.slotted {code : List Operation} {hint : ScopeHint} (he : Emits c code c' hint)
    (hl : Layout c) (h : Slotted c) : Slotted c' := by
  cases he with
  | assign _ ht =>
    cases ht with
    | visible => exact h
    | declared hd => exact (declares_of_ok hd).slotted hl h
  | openBlock condition =>
    exact ⟨List.forall_mem_cons.mpr ⟨Bindings.distinct_nil, h.scopes⟩,
      List.forall_mem_cons.mpr ⟨Bindings.from_nil _, h.blocks⟩⟩
  | @closeBlock block rest hb =>
    have hblocks := h.blocks
    rw [hb] at hblocks
    refine ⟨fun vars hvars => h.scopes vars ?_, (List.forall_mem_cons.mp hblocks).2⟩
    have hcons : c.scopes = block.vars ::
        (rest.map Block.vars ++ (c.function.map OpenFunction.vars).toList ++ [c.globals]) := by
      simp [Compiler.scopes, hb]
    rw [hcons]
    exact List.mem_cons_of_mem _ hvars
  | @openFunction _ params vars _ hd _ _ _ hbind =>
    have hblocks := (depth_zero hd).1
    have hreturn : Bindings.Within [(returnName, { address := 0 })] 1 false :=
      Bindings.within_single _ (by decide) rfl
    have hvars := bindParameters_distinct hbind hreturn (distinct_single _ _)
    have hglobals := h.scopes c.globals (by simp [Compiler.scopes])
    refine ⟨?_, h.blocks⟩
    simp only [Compiler.scopes, hblocks]
    exact List.forall_mem_cons.mpr ⟨hvars, List.forall_mem_cons.mpr ⟨hglobals, nofun⟩⟩
  | @closeFunction function hf hb =>
    have hglobals := h.scopes c.globals (by simp [Compiler.scopes])
    refine ⟨?_, h.blocks⟩
    simp only [Compiler.scopes, hb]
    exact List.forall_mem_cons.mpr ⟨hglobals, nofun⟩
  | _ => exact h

theorem Reachable.slotted (h : Reachable c) : Slotted c := by
  induction h with
  | new requested => exact ⟨List.forall_mem_cons.mpr ⟨distinct_single _ _, nofun⟩, nofun⟩
  | compile h hc ih =>
    obtain ⟨code, c₁, hemits, rfl⟩ := compile_ok hc
    exact (hemits.slotted h.layout ih).of_eq rfl rfl rfl
  | declareGlobal h hd ih =>
    obtain ⟨-, symbol, -, hdeclares⟩ := declareGlobal_ok hd
    exact hdeclares.slotted h.layout ih
  | registerPlugin _ hp ih =>
    obtain ⟨-, -, rfl⟩ := registerPlugin_ok hp
    exact ih.of_eq rfl rfl rfl
  | appendEntryCall line _ ih => exact ih.of_eq rfl rfl rfl

end

-- ---------------------------------------------------------------------------
-- All open scopes
-- ---------------------------------------------------------------------------

section
variable {c : Compiler}

theorem Nests.within {global : Bool} {next base : Nat} {blocks : List Block}
    (h : Nests global next blocks base) : ∀ block ∈ blocks, block.vars.Within next global := by
  induction blocks generalizing next with
  | nil => nofun
  | cons block rest ih =>
    obtain ⟨hvars, hsaved, hrest⟩ := h
    exact List.forall_mem_cons.mpr ⟨hvars, fun b hb => (ih hrest b hb).mono hsaved⟩

theorem Nests.below {global : Bool} {next base : Nat} {blocks : List Block}
    (h : Nests global next blocks base) (hf : ∀ block ∈ blocks, block.vars.From block.savedNext) :
    (blocks.map Block.vars).Pairwise (fun inner outer => outer.Below inner) ∧
      ∀ block ∈ blocks, block.vars.From base := by
  induction blocks generalizing next with
  | nil => exact ⟨.nil, nofun⟩
  | cons block rest ih =>
    obtain ⟨-, hsaved, hrest⟩ := h
    obtain ⟨hblock, hf⟩ := List.forall_mem_cons.mp hf
    obtain ⟨hpairs, hbase⟩ := ih hrest hf
    refine ⟨List.pairwise_cons.mpr ⟨fun vars hvars => ?_, hpairs⟩, ?_⟩
    · obtain ⟨outer, houter, rfl⟩ := List.mem_map.mp hvars
      exact (hrest.within outer houter).below hblock
    · refine List.forall_mem_cons.mpr ⟨fun name symbol hs => ?_, hbase⟩
      exact Nat.le_trans hrest.base_le (hblock name symbol hs)

/-- Of two open scopes of a frame, the outer one lies below the inner one. -/
theorem Layout.below (hl : Layout c) (h : Slotted c) :
    c.scopes.Pairwise fun inner outer => outer.Below inner := by
  obtain ⟨base, hnests, hrests⟩ := hl.scopes
  obtain ⟨hpairs, hbase⟩ := hnests.below h.blocks
  have hblocks : ∀ vars ∈ c.blocks.map Block.vars, vars.From base := by
    intro vars hvars
    obtain ⟨block, hblock, rfl⟩ := List.mem_map.mp hvars
    exact hbase block hblock
  unfold Rests at hrests
  cases hf : c.function with
  | none =>
    simp only [hf] at hrests
    have hscopes : c.scopes = c.blocks.map Block.vars ++ [c.globals] := by
      simp [Compiler.scopes, hf]
    rw [hscopes, List.pairwise_append]
    refine ⟨hpairs, List.pairwise_singleton _ _, fun inner hinner outer houter => ?_⟩
    cases List.mem_singleton.mp houter
    exact hrests.below (hblocks inner hinner)
  | some function =>
    simp only [hf] at hrests
    obtain ⟨hvars, -, hglobals⟩ := hrests
    have hin : c.inGlobal = false := by simp [inGlobal, hf]
    have hscopes : c.scopes = c.blocks.map Block.vars ++ [function.vars, c.globals] := by
      simp [Compiler.scopes, hf]
    rw [hscopes, List.pairwise_append]
    refine ⟨hpairs, ?_, fun inner hinner outer houter => ?_⟩
    · simpa using Bindings.below_of_frames hglobals hvars
    · obtain ⟨block, hblock, rfl⟩ := List.mem_map.mp hinner
      simp only [List.mem_cons, List.not_mem_nil, or_false] at houter
      rcases houter with rfl | rfl
      · exact hvars.below (hblocks _ hinner)
      · exact Bindings.below_of_frames hglobals (hin ▸ hnests.within block hblock)

/-- Different bindings of the open scopes of one frame have different slots. -/
theorem Reachable.apart (h : Reachable c) {i j : Nat} {vars vars' : Bindings} {name name' : Text}
    {symbol symbol' : Symbol} (hi : c.scopes[i]? = some vars) (hj : c.scopes[j]? = some vars')
    (hs : vars.find? name = some symbol) (hs' : vars'.find? name' = some symbol')
    (hg : symbol.global = symbol'.global) (ha : symbol.address = symbol'.address) :
    i = j ∧ name = name' := by
  have hbelow := List.pairwise_iff_getElem.mp (h.layout.below h.slotted)
  obtain ⟨hi', rfl⟩ := List.getElem?_eq_some_iff.mp hi
  obtain ⟨hj', rfl⟩ := List.getElem?_eq_some_iff.mp hj
  rcases Nat.lt_trichotomy i j with hlt | rfl | hlt
  · have := hbelow i j hi' hj' hlt name' name symbol' symbol hs' hs hg.symm
    omega
  · exact ⟨rfl, h.slotted.scopes _ (List.getElem_mem _) name name' symbol symbol' hs hs' ha⟩
  · have := hbelow j i hj' hi' hlt name name' symbol symbol' hs hs' hg
    omega

end
end Compiler
end Birl
