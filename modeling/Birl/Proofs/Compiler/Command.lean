import Birl.Compiler.Statement
import Birl.Proofs.Compiler.Expression

/-!
# The code of commands, rule by rule

`Emits` gives one rule for each form of command: the operations it becomes and the
compiler for the next line. `emits_of_ok` reads a compiled command as one of these
rules; every property of compiled programs is proved by cases on them.
-/

namespace Birl.Compiler

/-- Code that leaves a value in register `b`. -/
inductive Gives (c : Compiler) : List Operation → Prop
  | expression {e : Expression} {code : List Operation} (h : c.expression c.next e = .ok code) :
      Gives c code
  | null : Gives c [.loadB .null]
  | input (kind : Kind) :
      Gives c ([.readInput, .heldToB] ++ if kind = .text then [] else [conversion kind])
  | converted {name : Text} {symbol : Symbol} (kind : Kind) (hr : c.resolve name = some symbol) :
      Gives c [symbol.read, .heldToB, conversion kind]

/-- The variable that takes a value, and the compiler that knows it. -/
inductive Takes (c : Compiler) : Symbol → Compiler → Prop
  | visible {name : Text} {symbol : Symbol} (hr : c.resolve name = some symbol)
      (hw : symbol.readOnly = false) : Takes c symbol c
  | declared {name : Text} {symbol : Symbol} {c' : Compiler}
      (hd : c.declare name false = .ok (symbol, c')) : Takes c symbol c'

def callOperation (f : FunctionInfo) : Operation :=
  if f.callee.isPlugin then .callPlugin f.callee.pluginIndex else .startFrame

def headerCode (c : Compiler) (name : Text) : Nat × Program :=
  if name = entryName then (entryCode, c.program) else c.program.addSegment name

/-- What a command becomes: its operations, the compiler for the next line, and
whether a scope was opened or closed. -/
inductive Emits (c : Compiler) : List Operation → Compiler → ScopeHint → Prop
  | print {op : Operation} {args : List Expression} {code tail : List Operation}
      (hop : op = .print ∨ op = .printDebug) (h : c.printArguments op args = .ok code)
      (ht : tail = [] ∨ tail = [.newLine]) : Emits c (code ++ tail ++ [.flush]) c .none
  | assign {code : List Operation} {symbol : Symbol} {c' : Compiler} (hv : Gives c code)
      (ht : Takes c symbol c') : Emits c (code ++ [symbol.write]) c' .none
  | giveBack {code : List Operation} (hv : Gives c code) : Emits c (code ++ [.returnValue]) c .none
  | compare {left right : Expression} {code : List Operation}
      (h : c.comparison left right = .ok code) : Emits c (code ++ [.compare]) c .none
  | openBlock (condition : Condition) :
      Emits c [.executeIf (.known condition)]
        { c with blocks := { savedNext := c.next } :: c.blocks } .opened
  | closeBlock {block : Block} {rest : List Block} (hb : c.blocks = block :: rest) :
      Emits c [.endIf] { c with blocks := rest, next := block.savedNext } .closed
  | call {name : Text} {f : FunctionInfo} {args : List Expression} {code : List Operation}
      (hf : c.function? name = some f) (hargs : args.length = f.params.length)
      (h : c.arguments 1 args f.params = .ok code) :
      Emits c (.newFrame f.callee.frameOperand :: code ++ [callOperation f]) c .none
  | openFunction {name : Text} {params : List Parameter} {vars : Bindings}
      {kinds : List ParameterKind} (hd : c.depth = 0) (hf : c.function? name = none)
      (he : name = entryName → params = []) (hl : params.length + 1 ≤ c.frameSize)
      (hb : bindParameters 1 [(returnName, { address := 0 })] params = .ok (vars, kinds)) :
      Emits c []
        { c with
          program := (headerCode c name).2
          function := some { code := (headerCode c name).1, vars, globalNext := c.next }
          functions :=
            (name, { name, callee := .code (headerCode c name).1, params := kinds }) :: c.functions
          next := params.length + 1 } .opened
  | closeFunction {function : OpenFunction} (hf : c.function = some function) (hb : c.blocks = []) :
      Emits c [] { c with function := none, next := function.globalNext } .closed
  | quit : Emits c [.flush, .quit] c .none

section
variable {c : Compiler} {cmd : Command} {compiled : Compiled}

theorem arity_ok {least most : Nat} (h : arity cmd least most = .ok ()) :
    least ≤ cmd.args.length ∧ cmd.args.length ≤ most := by
  simp only [arity] at h
  split at h
  · cases h
  · rename_i hfits
    simp only [Bool.or_eq_true, decide_eq_true_eq] at hfits
    omega

theorem emits_print (h : c.compilePrint cmd = .ok compiled) :
    Emits c compiled.code compiled.compiler compiled.hint := by
  simp only [compilePrint, bind_ok, pure_ok] at h
  obtain ⟨code, hcode, rfl⟩ := h
  refine .print ?_ hcode ?_
  · split <;> simp
  · split <;> simp

theorem gives_optionalValue {code : List Operation} (h : c.optionalValue cmd = .ok code) :
    Gives c code := by
  simp only [optionalValue, bind_ok] at h
  obtain ⟨_, -, h⟩ := h
  split at h
  · exact .expression h
  · cases h
    exact .null

theorem emits_declare (h : c.compileDeclare cmd = .ok compiled) :
    Emits c compiled.code compiled.compiler compiled.hint := by
  simp only [compileDeclare, bind_ok, pure_ok] at h
  obtain ⟨code, hcode, ⟨symbol, c'⟩, hd, rfl⟩ := h
  exact .assign (gives_optionalValue hcode) (.declared hd)

theorem takes_writable {name : Text} {symbol : Symbol} (h : c.writable name = .ok symbol) :
    c.resolve name = some symbol ∧ symbol.readOnly = false := by
  unfold writable at h
  split at h
  · cases h
  · rename_i hr
    split at h
    · cases h
    · rename_i hw
      cases h
      exact ⟨hr, by simpa using hw⟩

theorem emits_set (h : c.compileSet cmd = .ok compiled) :
    Emits c compiled.code compiled.compiler compiled.hint := by
  simp only [compileSet, bind_ok, pure_ok] at h
  obtain ⟨_, -, symbol, hs, code, hcode, rfl⟩ := h
  obtain ⟨hr, hw⟩ := takes_writable hs
  exact .assign (.expression hcode) (.visible hr hw)

theorem emits_return (h : c.compileReturn cmd = .ok compiled) :
    Emits c compiled.code compiled.compiler compiled.hint := by
  simp only [compileReturn, bind_ok, pure_ok] at h
  obtain ⟨code, hcode, rfl⟩ := h
  exact .giveBack (gives_optionalValue hcode)

theorem emits_compare (h : c.compileCompare cmd = .ok compiled) :
    Emits c compiled.code compiled.compiler compiled.hint := by
  simp only [compileCompare, bind_ok, pure_ok] at h
  obtain ⟨_, -, code, hcode, rfl⟩ := h
  exact .compare hcode

theorem emits_endBlock (h : c.compileEndBlock = .ok compiled) :
    Emits c compiled.code compiled.compiler compiled.hint := by
  unfold compileEndBlock at h
  split at h
  · cases h
  · rename_i hb
    cases h
    exact .closeBlock hb

theorem emits_call (h : c.compileCall cmd = .ok compiled) :
    Emits c compiled.code compiled.compiler compiled.hint := by
  unfold compileCall at h
  split at h
  · cases h
  · rename_i f hf
    simp only [check_ok, bind_ok, pure_ok] at h
    obtain ⟨hargs, code, hcode, rfl⟩ := h
    exact .call hf (by simpa using hargs) hcode

theorem emits_functionStart (h : c.compileFunctionStart cmd = .ok compiled) :
    Emits c compiled.code compiled.compiler compiled.hint := by
  simp only [compileFunctionStart, check_ok, bind_ok, pure_ok] at h
  obtain ⟨hd, hf, he, hl, ⟨vars, kinds⟩, hb, rfl⟩ := h
  have hentry : cmd.name = entryName → cmd.params = [] := by
    intro hname
    simpa [hname] using he
  have hemits := Emits.openFunction (c := c) (by omega) (by simpa using hf) hentry (by omega) hb
  simpa [headerCode] using hemits

theorem emits_functionEnd (h : c.compileFunctionEnd = .ok compiled) :
    Emits c compiled.code compiled.compiler compiled.hint := by
  unfold compileFunctionEnd at h
  split at h
  · cases h
  · rename_i hf
    split at h
    · rename_i hb
      cases h
      exact .closeFunction hf (by simpa using hb)
    · cases h

theorem emits_input {kind : Kind} (h : c.compileInput cmd kind = .ok compiled) :
    Emits c compiled.code compiled.compiler compiled.hint := by
  simp only [compileInput, bind_ok] at h
  obtain ⟨_, -, h⟩ := h
  split at h
  · rename_i symbol hr
    simp only [check_ok, pure_ok] at h
    obtain ⟨hw, rfl⟩ := h
    exact .assign (.input kind) (.visible hr (by simpa using hw))
  · simp only [bind_ok, pure_ok] at h
    obtain ⟨⟨symbol, c'⟩, hd, rfl⟩ := h
    exact .assign (.input kind) (.declared hd)

theorem emits_conversion {kind : Kind} (h : c.compileConversion cmd kind = .ok compiled) :
    Emits c compiled.code compiled.compiler compiled.hint := by
  simp only [compileConversion, bind_ok, pure_ok] at h
  obtain ⟨_, -, symbol, hs, rfl⟩ := h
  obtain ⟨hr, hw⟩ := takes_writable hs
  exact .assign (.converted kind hr) (.visible hr hw)

theorem emits_of_ok (h : c.compileCommand cmd = .ok compiled) :
    Emits c compiled.code compiled.compiler compiled.hint := by
  cases hk : cmd.kind with simp only [compileCommand, hk] at h
  | print => exact emits_print h
  | printLine => exact emits_print h
  | printDebug => exact emits_print h
  | declare => exact emits_declare h
  | set => exact emits_set h
  | returnValue => exact emits_return h
  | compare => exact emits_compare h
  | executeIf condition =>
    cases h
    exact .openBlock condition
  | endBlock => exact emits_endBlock h
  | call => exact emits_call h
  | functionStart => exact emits_functionStart h
  | functionEnd => exact emits_functionEnd h
  | quit =>
    cases h
    exact .quit
  | input kind => exact emits_input h
  | convert kind => exact emits_conversion h
  | unknown code => cases h

/-- A compiled line: the code goes to the segment that was open before the line. -/
theorem compile_ok {line : Int} {hint : ScopeHint} {c' : Compiler}
    (h : c.compile line cmd = .ok (hint, c')) :
    ∃ code c₁, Emits c code c₁ hint ∧
      c' = { c₁ with program := c₁.program.append c.currentCode (code.map fun op => { op, line }) } := by
  unfold compile at h
  split at h
  · cases h
  · rename_i compiled hcompiled
    cases h
    exact ⟨compiled.code, compiled.compiler, emits_of_ok hcompiled, rfl⟩

end

-- ---------------------------------------------------------------------------
-- What holds of every operation
-- ---------------------------------------------------------------------------

section
variable {c : Compiler} {P : Operation → Prop} {code : List Operation}

/-- Every operation of an expression whose values wait in free slots has the property. -/
def Throughout (c : Compiler) (P : Operation → Prop) : Prop :=
  ∀ (next : Nat) (e : Expression) (code : List Operation), c.next ≤ next →
    c.expression next e = .ok code → ∀ op ∈ code, P op

theorem Throughout.printArguments {op : Operation} {args : List Expression} (he : Throughout c P)
    (hop : P op) (h : c.printArguments op args = .ok code) : ∀ op ∈ code, P op := by
  induction args generalizing code with
  | nil =>
    cases h
    nofun
  | cons e rest ih =>
    simp only [Compiler.printArguments, bind_ok, pure_ok] at h
    obtain ⟨first, hfirst, more, hmore, rfl⟩ := h
    simp only [List.forall_mem_append, List.forall_mem_cons]
    exact ⟨he _ _ _ (Nat.le_refl _) hfirst, hop, ih hmore⟩

theorem Throughout.arguments {address : Nat} {args : List Expression} {kinds : List ParameterKind}
    (he : Throughout c P) (hkind : ∀ kind ∈ kinds, P (.assertKind kind))
    (hwrite : ∀ i < kinds.length, P (.writeArgument ↑(address + i)))
    (h : c.arguments address args kinds = .ok code) : ∀ op ∈ code, P op := by
  induction args generalizing address kinds code with
  | nil =>
    cases h
    nofun
  | cons e rest ih =>
    cases kinds with
    | nil =>
      cases h
      nofun
    | cons kind kinds =>
      simp only [Compiler.arguments, bind_ok, pure_ok] at h
      obtain ⟨first, hfirst, more, hmore, rfl⟩ := h
      obtain ⟨hhere, hkinds⟩ := List.forall_mem_cons.mp hkind
      have hwrites (i : Nat) (hi : i < kinds.length) : P (.writeArgument ↑(address + 1 + i)) := by
        rw [Nat.add_assoc, Nat.add_comm 1 i]
        exact hwrite (i + 1) (Nat.succ_lt_succ hi)
      simp only [List.forall_mem_append, List.forall_mem_cons]
      exact ⟨he _ _ _ (Nat.le_refl _) hfirst, hhere, hwrite 0 (Nat.succ_pos _), ih hkinds hwrites hmore⟩

theorem Throughout.between {left right : Expression} (he : Throughout c P)
    (hslot : c.next < c.frameSize → P (c.hidden c.next).read ∧ P (c.hidden c.next).write)
    (hheld : P .heldToA) (h : comparison.between c left right = .ok code) :
    ∀ op ∈ code, P op := by
  simp only [comparison.between, bind_ok, pure_ok] at h
  obtain ⟨first, hfirst, slot, hallocated, second, hsecond, rfl⟩ := h
  obtain ⟨hlt, rfl⟩ := allocate_ok hallocated
  obtain ⟨hread, hwrite⟩ := hslot hlt
  simp only [List.forall_mem_append, List.forall_mem_cons]
  exact ⟨⟨he _ _ _ (Nat.le_refl _) hfirst, hwrite, he _ _ _ (Nat.le_succ _) hsecond⟩, hread, hheld,
    List.forall_mem_nil _⟩

theorem Throughout.comparison {left right : Expression} (he : Throughout c P)
    (hslot : c.next < c.frameSize → P (c.hidden c.next).read ∧ P (c.hidden c.next).write)
    (hregisters : ∀ op, op = .heldToA ∨ op = .swap ∨ (∃ k, op = .loadA k) → P op)
    (hloads : ∀ {node load}, Loads c node load → ∀ op ∈ load, P op)
    (h : c.comparison left right = .ok code) : ∀ op ∈ code, P op := by
  have hheld : P .heldToA := hregisters _ (.inl rfl)
  unfold Compiler.comparison at h
  split at h
  · simp only [bind_ok, pure_ok] at h
    obtain ⟨first, hfirst, rfl⟩ := h
    simp only [List.forall_mem_append, List.forall_mem_cons]
    exact ⟨he _ _ _ (Nat.le_refl _) hfirst, hregisters _ (.inr (.inr ⟨_, rfl⟩)), List.forall_mem_nil _⟩
  · split at h
    · exact he.between hslot hheld h
    · simp only [bind_ok, pure_ok] at h
      obtain ⟨first, hfirst, load, hload, rfl⟩ := h
      simp only [List.forall_mem_append, List.forall_mem_cons]
      exact ⟨he _ _ _ (Nat.le_refl _) hfirst, hregisters _ (.inr (.inl rfl)), hloads (loads_of_ok hload)⟩
  · exact he.between hslot hheld h

end
end Birl.Compiler
