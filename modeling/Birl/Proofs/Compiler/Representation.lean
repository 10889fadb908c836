import Birl.Proofs.Compiler.Growth
import Birl.Proofs.Compiler.Operands
import Birl.Proofs.Compiler.Slots

/-!
# What the state of a compiler means

`Representation` says what the parts of a compiler's state have to do with each
other and with the program that was compiled, and that a block or function gives
back, when it ends, what there was when it began. Every compiler that comes about has
it (`reachable_representation`).
-/

namespace Birl.Compiler

section
variable {c c' c₀ c₁ c₂ c₃ : Compiler} {code : List Operation} {hint : ScopeHint}

-- ---------------------------------------------------------------------------
-- Scopes
-- ---------------------------------------------------------------------------

/-- The kinds of the open scopes, the outermost first. -/
def tags (c : Compiler) : List ScopeTag :=
  .function :: ((c.function.map fun _ => .function).toList ++ c.blocks.map fun _ => .executeIf)

/-- The first slot of the global frame that is free. -/
def globalNext (c : Compiler) : Nat := c.function.elim c.next OpenFunction.globalNext

theorem length_scopes (c : Compiler) : c.scopes.length = c.depth + 1 := by
  unfold scopes depth
  cases c.function <;> simp

theorem length_tags (c : Compiler) : c.tags.length = c.depth + 1 := by
  unfold tags depth
  cases c.function <;> simp [Nat.add_comm]

theorem Layout.globalNext_le (h : Layout c) : c.globalNext ≤ c.frameSize := by
  obtain ⟨base, -, hrests⟩ := h.scopes
  unfold Rests at hrests
  unfold globalNext
  cases hf : c.function with
  | none => exact h.next_le
  | some function =>
    simp only [hf] at hrests
    exact hrests.2.1

theorem Layout.scope (h : Layout c) {i : Nat} {vars : Bindings} (hi : c.scopes[i]? = some vars) :
    (i < c.depth ∧ vars.Within c.next c.inGlobal) ∨
      (i = c.depth ∧ vars.Within c.globalNext true) := by
  obtain ⟨base, hnests, hrests⟩ := h.scopes
  have hbase := hnests.base_le
  have hblocks : ∀ vars ∈ c.blocks.map Block.vars, vars.Within c.next c.inGlobal := by
    intro vars hvars
    obtain ⟨block, hblock, rfl⟩ := List.mem_map.mp hvars
    exact hnests.within block hblock
  unfold Rests at hrests
  cases hf : c.function with
  | none =>
    simp only [hf] at hrests
    have hscopes : c.scopes = c.blocks.map Block.vars ++ [c.globals] := by
      simp [Compiler.scopes, hf]
    have hdepth : c.depth = (c.blocks.map Block.vars).length := by simp [depth, hf]
    have hnext : c.globalNext = c.next := by simp [globalNext, hf]
    rw [hscopes, List.getElem?_append] at hi
    split at hi
    · rename_i hlt
      exact .inl ⟨hdepth ▸ hlt, hblocks vars (List.mem_of_getElem? hi)⟩
    · rw [List.getElem?_singleton] at hi
      split at hi
      · cases hi
        exact .inr ⟨by omega, hnext ▸ hrests.mono hbase⟩
      · cases hi
  | some function =>
    simp only [hf] at hrests
    obtain ⟨hvars, -, hglobals⟩ := hrests
    have hin : c.inGlobal = false := by simp [inGlobal, hf]
    have hscopes : c.scopes = (c.blocks.map Block.vars ++ [function.vars]) ++ [c.globals] := by
      simp [Compiler.scopes, hf]
    have hdepth : c.depth = (c.blocks.map Block.vars ++ [function.vars]).length := by
      simp [depth, hf]
    have hnext : c.globalNext = function.globalNext := by simp [globalNext, hf]
    rw [hscopes, List.getElem?_append] at hi
    split at hi
    · rename_i hlt
      refine .inl ⟨hdepth ▸ hlt, ?_⟩
      rcases List.mem_append.mp (List.mem_of_getElem? hi) with hmem | hmem
      · exact hblocks vars hmem
      · cases List.mem_singleton.mp hmem
        exact hin ▸ hvars.mono hbase
    · rw [List.getElem?_singleton] at hi
      split at hi
      · cases hi
        exact .inr ⟨by omega, hnext ▸ hglobals⟩
      · cases hi

-- ---------------------------------------------------------------------------
-- While a scope is open
-- ---------------------------------------------------------------------------

/-- The compiler comes about from an earlier one without closing the scope that was
the innermost one there. -/
inductive StaysOpen (c₀ : Compiler) : Compiler → Prop
  | start : StaysOpen c₀ c₀
  | compile {c c' : Compiler} {line : Int} {cmd : Command} {hint : ScopeHint} (h : StaysOpen c₀ c)
      (hc : c.compile line cmd = .ok (hint, c')) (hd : c₀.depth ≤ c'.depth) : StaysOpen c₀ c'
  | declareGlobal {c c' : Compiler} {name : Text} {readOnly : Bool} {address : Nat}
      (h : StaysOpen c₀ c) (hd : c.declareGlobal name readOnly = .ok (address, c')) : StaysOpen c₀ c'
  | registerPlugin {c c' : Compiler} {name : Text} {params : List ParameterKind} {index : Int}
      (h : StaysOpen c₀ c) (hp : c.registerPlugin name params index = .ok c') : StaysOpen c₀ c'
  | appendEntryCall {c : Compiler} (line : Int) (h : StaysOpen c₀ c) :
      StaysOpen c₀ (c.appendEntryCall line)

/-- The scopes around the innermost one of `c₀`, and the slots that were free there,
are still what they were. -/
inductive Surrounds (c₀ c : Compiler) : Prop
  | block {block : Block} {rest inner : List Block} {vars : Bindings}
      (hb₀ : c₀.blocks = block :: rest) (hb : c.blocks = inner ++ { block with vars } :: rest)
      (hf : c.function = c₀.function) (hg : c.globals = c₀.globals)
  | function {function : OpenFunction} {vars : Bindings} (hb₀ : c₀.blocks = [])
      (hf₀ : c₀.function = some function) (hf : c.function = some { function with vars })
      (hg : c.globals = c₀.globals)

theorem Surrounds.refl (h : 0 < c.depth) : Surrounds c c := by
  cases hb : c.blocks with
  | cons block rest => exact @Surrounds.block _ _ _ _ [] _ hb hb rfl rfl
  | nil =>
    cases hf : c.function with
    | some function => exact .function hb hf hf rfl
    | none => simp [depth, hb, hf] at h

theorem Surrounds.of_eq (h : Surrounds c₀ c) (hb : c'.blocks = c.blocks)
    (hf : c'.function = c.function) (hg : c'.globals = c.globals) : Surrounds c₀ c' := by
  cases h with
  | block hb₀ hb' hf' hg' => exact .block hb₀ (hb.trans hb') (hf.trans hf') (hg.trans hg')
  | function hb₀ hf₀ hf' hg' => exact .function hb₀ hf₀ (hf.trans hf') (hg.trans hg')

theorem Surrounds.depth (h : Surrounds c₀ c) : 0 < c.depth ∧ c₀.depth ≤ c.depth := by
  unfold Compiler.depth
  cases h with
  | block hb₀ hb hf =>
    rw [hb₀, hb, hf]
    simp only [List.length_append, List.length_cons]
    omega
  | function hb₀ hf₀ hf =>
    rw [hb₀, hf₀, hf]
    simp

theorem Surrounds.setInnermost (h : Surrounds c₀ c) (vars : Bindings) :
    Surrounds c₀ (c.setInnermost vars) := by
  cases h with
  | @block block rest inner old hb₀ hb hf hg =>
    cases inner with
    | nil =>
      have hset : c.setInnermost vars = { c with blocks := { block with vars } :: rest } := by
        simp [Compiler.setInnermost, hb]
      rw [hset]
      exact @Surrounds.block _ _ _ _ [] _ hb₀ rfl hf hg
    | cons first inner =>
      have hset : c.setInnermost vars =
          { c with blocks := { first with vars } :: (inner ++ { block with vars := old } :: rest) } := by
        simp [Compiler.setInnermost, hb]
      rw [hset]
      exact @Surrounds.block _ _ _ _ ({ first with vars } :: inner) _ hb₀ rfl hf hg
  | @function function old hb₀ hf₀ hf hg =>
    cases hb : c.blocks with
    | nil =>
      have hset : c.setInnermost vars = { c with function := some { function with vars } } := by
        simp [Compiler.setInnermost, hb, hf]
      rw [hset]
      exact .function hb₀ hf₀ rfl hg
    | cons first rest =>
      have hset : c.setInnermost vars = { c with blocks := { first with vars } :: rest } := by
        simp [Compiler.setInnermost, hb]
      rw [hset]
      exact .function hb₀ hf₀ hf hg

theorem Surrounds.declares (h : Surrounds c₀ c) {name : Text} {readOnly : Bool} {symbol : Symbol}
    (hd : Declares c name readOnly symbol c') : Surrounds c₀ c' := by
  cases hd with
  | fresh => exact (h.setInnermost _).of_eq rfl rfl rfl
  | again => exact h.setInnermost _

theorem Surrounds.emits (h : Surrounds c₀ c) (he : Emits c code c' hint)
    (hd : c₀.depth ≤ c'.depth) : Surrounds c₀ c' := by
  cases he with
  | assign _ ht =>
    cases ht with
    | visible => exact h
    | declared hdecl => exact h.declares (declares_of_ok hdecl)
  | openBlock condition =>
    cases h with
    | block hb₀ hb hf hg =>
      exact @Surrounds.block _ _ _ _ ({ savedNext := c.next } :: _) _ hb₀ (congrArg (_ :: ·) hb) hf hg
    | function hb₀ hf₀ hf hg => exact .function hb₀ hf₀ hf hg
  | @closeBlock closed outer hc =>
    cases h with
    | @block block rest inner vars hb₀ hb hf hg =>
      cases inner with
      | nil =>
        -- This would close the scope itself.
        obtain ⟨-, rfl⟩ := List.cons.inj (hc.symm.trans hb)
        simp only [Compiler.depth, hb₀, hf, List.length_cons] at hd
        omega
      | cons first inner =>
        obtain ⟨-, rfl⟩ := List.cons.inj (hc.symm.trans hb)
        exact .block hb₀ rfl hf hg
    | function hb₀ hf₀ hf hg => exact .function hb₀ hf₀ hf hg
  | openFunction hzero =>
    have := h.depth.1
    omega
  | closeFunction hfun hb =>
    -- The function may only end where the scope is the function itself.
    cases h with
    | block _ hb' => simp [hb] at hb'
    | function hb₀ hf₀ =>
      simp [Compiler.depth, hb₀, hf₀, hb] at hd
  | _ => exact h

theorem StaysOpen.surrounds (h : StaysOpen c₀ c) (hd : 0 < c₀.depth) : Surrounds c₀ c := by
  induction h with
  | start => exact .refl hd
  | compile _ hc hdepth ih =>
    obtain ⟨code, c₁, hemits, rfl⟩ := compile_ok hc
    exact (ih.emits hemits hdepth).of_eq rfl rfl rfl
  | declareGlobal _ hdecl ih =>
    obtain ⟨-, symbol, -, hdeclares⟩ := declareGlobal_ok hdecl
    exact ih.declares hdeclares
  | registerPlugin _ hp ih =>
    obtain ⟨-, -, rfl⟩ := registerPlugin_ok hp
    exact ih.of_eq rfl rfl rfl
  | appendEntryCall line _ ih => exact ih.of_eq rfl rfl rfl

/-- Every scope that is open was opened by a line, and stayed open since. -/
theorem Reachable.opened (h : Reachable c) {d : Nat} (hpos : 0 < d) (hd : d ≤ c.depth) :
    ∃ (c₀ c₁ : Compiler) (line : Int) (cmd : Command), c₀.Reachable ∧
      c₀.compile line cmd = .ok (.opened, c₁) ∧ c₁.depth = d ∧ StaysOpen c₁ c := by
  induction h with
  | new => exact absurd (Nat.lt_of_lt_of_le hpos hd) (Nat.lt_irrefl 0)
  | @compile c c' line cmd hint h hc ih =>
    by_cases hold : d ≤ c.depth
    · obtain ⟨c₀, c₁, line₀, cmd₀, hreach, hopen, hdepth, hstays⟩ := ih hold
      exact ⟨c₀, c₁, line₀, cmd₀, hreach, hopen, hdepth, hstays.compile hc (hdepth ▸ hd)⟩
    · have hafter := depth_compile hc
      have hhint : hint = .opened ∧ c'.depth = d := by
        cases hint <;> simp only [ScopeHint.after] at hafter <;> first | omega | exact ⟨rfl, by omega⟩
      obtain ⟨rfl, hdepth⟩ := hhint
      exact ⟨c, c', line, cmd, h, hc, hdepth, .start⟩
  | declareGlobal h hdecl ih =>
    obtain ⟨hzero, symbol, -, hdeclares⟩ := declareGlobal_ok hdecl
    obtain ⟨-, -, -, -, -, hdepth⟩ := hdeclares.keeps
    omega
  | registerPlugin h hp ih =>
    have hp' := hp
    obtain ⟨-, -, rfl⟩ := registerPlugin_ok hp'
    obtain ⟨c₀, c₁, line, cmd, hreach, hopen, hdepth, hstays⟩ := ih hd
    exact ⟨c₀, c₁, line, cmd, hreach, hopen, hdepth, hstays.registerPlugin hp⟩
  | appendEntryCall line₁ h ih =>
    obtain ⟨c₀, c₁, line, cmd, hreach, hopen, hdepth, hstays⟩ := ih hd
    exact ⟨c₀, c₁, line, cmd, hreach, hopen, hdepth, hstays.appendEntryCall line₁⟩

/-- A line that ends the scope that another line opened gives back the slots and the
scopes that there were. -/
theorem close_restores {line line' : Int} {cmd cmd' : Command}
    (ho : c.compile line cmd = .ok (.opened, c₁)) (hw : StaysOpen c₁ c₂)
    (hc : c₂.compile line' cmd' = .ok (.closed, c₃)) (hd : c₃.depth = c.depth) :
    c₃.next = c.next ∧ c₃.blocks = c.blocks ∧ c₃.function = c.function ∧ c₃.globals = c.globals := by
  have hopened : c₁.depth = c.depth + 1 := depth_compile ho
  have hclosed : c₃.depth = c₂.depth - 1 := depth_compile hc
  have hsurrounds := hw.surrounds (by omega)
  have hdepth : c₂.depth = c₁.depth := by
    have := hsurrounds.depth
    omega
  obtain ⟨_, c₁', hopens, rfl⟩ := compile_ok ho
  obtain ⟨_, c₃', hcloses, rfl⟩ := compile_ok hc
  cases hopens with
  | openBlock condition =>
    cases hsurrounds with
    | @block block rest inner vars hb₀ hb hf hg =>
      obtain ⟨rfl, rfl⟩ := List.cons.inj hb₀
      -- No block inside the one that was opened is open any more.
      have hinner : inner = [] := by
        simp only [Compiler.depth, hb, hf, List.length_append, List.length_cons] at hdepth
        exact List.eq_nil_of_length_eq_zero (by omega)
      subst hinner
      cases hcloses with
      | closeBlock hb' =>
        obtain ⟨rfl, rfl⟩ := List.cons.inj (hb'.symm.trans hb)
        exact ⟨rfl, rfl, hf, hg⟩
      | closeFunction _ hb' => simp [hb'] at hb
    | function hb₀ => cases hb₀
  | openFunction hzero _ _ _ _ =>
    obtain ⟨hblocks, hfunction⟩ := depth_zero hzero
    cases hsurrounds with
    | block hb₀ => simp [hblocks] at hb₀
    | @function function vars hb₀ hf₀ hf hg =>
      cases hf₀
      cases hcloses with
      | closeBlock hb' => simp [Compiler.depth, hb', hf, hblocks] at hdepth
      | closeFunction hf' hb' =>
        cases hf.symm.trans hf'
        exact ⟨rfl, hb'.trans hblocks.symm, hfunction.symm, hg⟩

-- ---------------------------------------------------------------------------
-- The whole state
-- ---------------------------------------------------------------------------

theorem Reachable.function_isSome (h : Reachable c) :
    c.function.isSome = true ↔ c.currentCode ≠ globalCode := by
  have hopen := h.openFunction
  cases hf : c.function with
  | none => simp [currentCode, hf]
  | some function => simpa [currentCode, hf] using hopen function hf

theorem Reachable.inGlobal_iff (h : Reachable c) : c.inGlobal = true ↔ c.currentCode = globalCode := by
  have hfunction := h.function_isSome
  cases hf : c.function <;> simp_all [inGlobal]

theorem Reachable.tags_eq (h : Reachable c) :
    c.tags = .function :: ((if c.currentCode = globalCode then [] else [.function]) ++
      List.replicate c.blocks.length .executeIf) := by
  unfold tags
  split
  · rename_i hzero
    have hnone : c.function = none := by simpa [inGlobal] using h.inGlobal_iff.mpr hzero
    simp [hnone, List.map_const']
  · rename_i hne
    obtain ⟨function, hf⟩ := Option.isSome_iff_exists.mp (h.function_isSome.mpr hne)
    simp [hf, List.map_const']

theorem Reachable.frame (h : Reachable c) {i : Nat} {vars : Bindings} {name : Text} {symbol : Symbol}
    (hi : c.scopes[i]? = some vars) (hs : vars.find? name = some symbol) :
    symbol.global = true ↔ i = c.depth ∨ c.currentCode = globalCode := by
  rcases h.layout.scope hi with ⟨hlt, hvars⟩ | ⟨rfl, hvars⟩
  · rw [(hvars name symbol hs).2, h.inGlobal_iff]
    exact ⟨.inr, fun hor => hor.resolve_left (Nat.ne_of_lt hlt)⟩
  · exact ⟨fun _ => .inl rfl, fun _ => (hvars name symbol hs).2⟩

theorem Layout.bound (h : Layout c) {vars : Bindings} (hvars : vars ∈ c.scopes) {name : Text}
    {symbol : Symbol} (hs : vars.find? name = some symbol) :
    (symbol.global = c.inGlobal → symbol.address < c.next) ∧
      (symbol.global = true → symbol.address < c.globalNext) := by
  have hnext : c.inGlobal = true → c.globalNext = c.next := by
    cases hf : c.function <;> simp [inGlobal, globalNext, hf]
  obtain ⟨i, hi⟩ := List.getElem?_of_mem hvars
  rcases h.scope hi with ⟨-, hwithin⟩ | ⟨-, hwithin⟩ <;>
    obtain ⟨ha, hg⟩ := hwithin name symbol hs
  · exact ⟨fun _ => ha, fun hsymbol => (hnext (hg.symm.trans hsymbol)).symm ▸ ha⟩
  · exact ⟨fun hsymbol => hnext (hsymbol.symm.trans hg) ▸ ha, fun _ => ha⟩

/-- What the parts of a compiler's state have to do with each other. -/
structure Representation (c : Compiler) : Prop where
  /-- The outermost scope is that of the global code. There is another one of a function
  where its code is compiled, and all others are conditional blocks. -/
  tags : c.tags = .function ::
    ((if c.currentCode = globalCode then [] else [.function]) ++
      List.replicate c.blocks.length .executeIf)
  scopes : c.scopes.length = c.depth + 1 ∧ c.tags.length = c.depth + 1
  /-- A variable is in the global frame where it is in the global scope, or where no
  function is open. -/
  frames : ∀ (i : Nat) (vars : Bindings) name symbol, c.scopes[i]? = some vars → vars.find? name = some symbol →
    (symbol.global = true ↔ i = c.depth ∨ c.currentCode = globalCode)
  /-- Different bindings of the open scopes of one frame have different slots. -/
  apart : ∀ (i j : Nat) (vars vars' : Bindings) name name' symbol symbol', c.scopes[i]? = some vars →
    c.scopes[j]? = some vars' → vars.find? name = some symbol → vars'.find? name' = some symbol' →
    symbol.global = symbol'.global → symbol.address = symbol'.address → i = j ∧ name = name'
  /-- What is bound lies below the first slot that is free. -/
  below : ∀ vars ∈ c.scopes, ∀ name symbol, vars.find? name = some symbol →
    (symbol.global = c.inGlobal → symbol.address < c.next) ∧
      (symbol.global = true → symbol.address < c.globalNext)
  next_le : c.next ≤ c.frameSize ∧ c.globalNext ≤ c.frameSize
  opened : ∀ d, 0 < d → d ≤ c.depth → ∃ (c₀ c₁ : Compiler) (line : Int) (cmd : Command),
    c₀.Reachable ∧ c₀.compile line cmd = .ok (.opened, c₁) ∧ c₁.depth = d ∧ StaysOpen c₁ c
  /-- A scope that ends gives back what there was when it began. -/
  restores : ∀ line line' cmd cmd' c₁ c₂ c₃, c.compile line cmd = .ok (.opened, c₁) →
    StaysOpen c₁ c₂ → c₂.compile line' cmd' = .ok (.closed, c₃) → c₃.depth = c.depth →
    c₃.next = c.next ∧ c₃.blocks = c.blocks ∧ c₃.function = c.function ∧ c₃.globals = c.globals
  /-- The blocks that are open in the code are those that the compiler has open. -/
  balanced : Balanced c
  operands : ∀ id segment, c.program.segment? id = some segment →
    ∀ instruction ∈ segment.code, instruction.op.Refers c
  functions : ∀ name f, c.function? name = some f → f.Known c

/-- Every compiler that comes about has its state in order. -/
theorem reachable_representation (h : c.Reachable) : Representation c where
  tags := h.tags_eq
  scopes := ⟨length_scopes c, length_tags c⟩
  frames _ _ _ _ hi hs := h.frame hi hs
  apart _ _ _ _ _ _ _ _ hi hj hs hs' hg ha := h.apart hi hj hs hs' hg ha
  below _ hvars _ _ hs := h.layout.bound hvars hs
  next_le := ⟨h.layout.next_le, h.layout.globalNext_le⟩
  opened _ hpos hd := h.opened hpos hd
  restores _ _ _ _ _ _ _ ho hw hc hd := close_restores ho hw hc hd
  balanced := h.balanced
  operands id segment hs instruction hmem :=
    h.refers id segment hs instruction.op (List.mem_map_of_mem (Array.mem_toList_iff.mpr hmem))
  functions := h.known

/-- A function whose parameter is shadowed in a block. -/
theorem reachable_representation_shadowed : ∃ c : Compiler, c.Reachable ∧
    c.tags = [.function, .function, .executeIf] ∧ c.next = 3 ∧ Representation c := by
  have hopened : Reachable _ := .compile (.new 4)
    (rfl : (Compiler.new 4).compile 1
      { kind := .functionStart, name := "F", params := [{ name := "X", kind := "MONSTRO" }] } =
        .ok (.opened, _))
  have hblock : Reachable _ := .compile hopened
    (rfl : Compiler.compile _ 2 { kind := .executeIf .equal } = .ok (.opened, _))
  have hshadow : Reachable _ := .compile hblock
    (rfl : Compiler.compile _ 3 { kind := .declare, name := "X" } = .ok (.none, _))
  exact ⟨_, hshadow, rfl, rfl, reachable_representation hshadow⟩

end
end Birl.Compiler
