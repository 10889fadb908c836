import Birl.Proofs.Compiler.Command
import Birl.Proofs.Program

/-!
# Reachable compilers

The compilers that come about by compiling lines, declaring globals of the host,
registering plugins and adding the call of the entry point. `Declares` says how a
variable is declared; nothing but the innermost scope and the next free slot
changes.
-/

namespace Birl.Compiler

-- ---------------------------------------------------------------------------
-- The innermost scope
-- ---------------------------------------------------------------------------

section
variable (c : Compiler) (vars : Bindings)

@[simp] theorem setInnermost_frameSize : (c.setInnermost vars).frameSize = c.frameSize := by
  unfold setInnermost; split <;> rfl

@[simp] theorem setInnermost_program : (c.setInnermost vars).program = c.program := by
  unfold setInnermost; split <;> rfl

@[simp] theorem setInnermost_functions : (c.setInnermost vars).functions = c.functions := by
  unfold setInnermost; split <;> rfl

@[simp] theorem setInnermost_next : (c.setInnermost vars).next = c.next := by
  unfold setInnermost; split <;> rfl

@[simp] theorem setInnermost_length_blocks :
    (c.setInnermost vars).blocks.length = c.blocks.length := by
  unfold setInnermost; split <;> simp_all

@[simp] theorem setInnermost_currentCode : (c.setInnermost vars).currentCode = c.currentCode := by
  unfold setInnermost currentCode; split <;> simp_all

@[simp] theorem setInnermost_inGlobal : (c.setInnermost vars).inGlobal = c.inGlobal := by
  unfold setInnermost inGlobal; split <;> simp_all

@[simp] theorem setInnermost_depth : (c.setInnermost vars).depth = c.depth := by
  unfold setInnermost depth; split <;> simp_all

variable {c}

theorem depth_zero (h : c.depth = 0) : c.blocks = [] ∧ c.function = none := by
  unfold depth at h
  refine ⟨List.eq_nil_of_length_eq_zero (by omega), ?_⟩
  cases hf : c.function with
  | none => rfl
  | some function => simp [hf] at h

theorem innermost_of_depth_zero (h : c.depth = 0) : c.innermost = c.globals := by
  obtain ⟨hb, hf⟩ := depth_zero h
  simp [innermost, hb, hf]

theorem setInnermost_of_depth_zero (h : c.depth = 0) :
    c.setInnermost vars = { c with globals := vars } := by
  obtain ⟨hb, hf⟩ := depth_zero h
  simp [setInnermost, hb, hf]

theorem setInnermost_globals (h : 0 < c.depth) : (c.setInnermost vars).globals = c.globals := by
  unfold setInnermost
  split
  · rfl
  · rfl
  · rename_i hb hf
    simp [depth, hb, hf] at h

end

/-- A declaration takes the next free slot, or the slot of an earlier variable of
the same scope that may be written. -/
inductive Declares (c : Compiler) (name : Text) (readOnly : Bool) : Symbol → Compiler → Prop
  | fresh (hf : c.next < c.frameSize) :
      Declares c name readOnly { address := c.next, global := c.inGlobal, readOnly }
        { c.setInnermost
            (c.innermost.put name { address := c.next, global := c.inGlobal, readOnly }) with
          next := c.next + 1 }
  | again {previous : Symbol} (hp : c.innermost.find? name = some previous)
      (hw : previous.readOnly = false) :
      Declares c name readOnly { previous with readOnly }
        (c.setInnermost (c.innermost.put name { previous with readOnly }))

theorem declares_of_ok {c c' : Compiler} {name : Text} {readOnly : Bool} {symbol : Symbol}
    (h : c.declare name readOnly = .ok (symbol, c')) : Declares c name readOnly symbol c' := by
  have hfresh (hd : (do
      let address ← c.allocate c.next
      let symbol : Symbol := { address, global := c.inGlobal, readOnly }
      return (symbol, { c.setInnermost (c.innermost.put name symbol) with next := address + 1 })) =
        (.ok (symbol, c') : Except Fault _)) : Declares c name readOnly symbol c' := by
    simp only [bind_ok, pure_ok] at hd
    obtain ⟨address, ha, he⟩ := hd
    obtain ⟨hf, rfl⟩ := allocate_ok ha
    cases he
    exact .fresh hf
  unfold declare at h
  split at h
  · rename_i previous hp
    split at h
    · exact hfresh h
    · rename_i hw
      cases h
      exact .again hp (by simpa using hw)
  · exact hfresh h

theorem Declares.keeps {c c' : Compiler} {name : Text} {readOnly : Bool} {symbol : Symbol}
    (h : Declares c name readOnly symbol c') :
    c'.frameSize = c.frameSize ∧ c'.program = c.program ∧ c'.functions = c.functions ∧
      c'.blocks.length = c.blocks.length ∧ c'.currentCode = c.currentCode ∧ c'.depth = c.depth := by
  cases h with
  | fresh =>
    have hcode := setInnermost_currentCode c
    have hdepth := setInnermost_depth c
    exact ⟨setInnermost_frameSize c _, setInnermost_program c _, setInnermost_functions c _,
      setInnermost_length_blocks c _, hcode _, hdepth _⟩
  | again => simp

theorem Takes.keeps {c c' : Compiler} {symbol : Symbol} (h : Takes c symbol c') :
    c'.frameSize = c.frameSize ∧ c'.program = c.program ∧ c'.functions = c.functions ∧
      c'.blocks.length = c.blocks.length ∧ c'.currentCode = c.currentCode ∧ c'.depth = c.depth := by
  cases h with
  | visible => simp
  | declared hd => exact (declares_of_ok hd).keeps

-- ---------------------------------------------------------------------------
-- Reachable compilers
-- ---------------------------------------------------------------------------

inductive Reachable : Compiler → Prop
  | new (requestedFrameSize : Int) : Reachable (.new requestedFrameSize)
  | compile {c c' : Compiler} {line : Int} {cmd : Command} {hint : ScopeHint} (h : Reachable c)
      (hc : c.compile line cmd = .ok (hint, c')) : Reachable c'
  | declareGlobal {c c' : Compiler} {name : Text} {readOnly : Bool} {address : Nat}
      (h : Reachable c) (hd : c.declareGlobal name readOnly = .ok (address, c')) : Reachable c'
  | registerPlugin {c c' : Compiler} {name : Text} {params : List ParameterKind} {index : Int}
      (h : Reachable c) (hp : c.registerPlugin name params index = .ok c') : Reachable c'
  | appendEntryCall {c : Compiler} (line : Int) (h : Reachable c) :
      Reachable (c.appendEntryCall line)

theorem declareGlobal_ok {c c' : Compiler} {name : Text} {readOnly : Bool} {address : Nat}
    (h : c.declareGlobal name readOnly = .ok (address, c')) :
    c.depth = 0 ∧ ∃ symbol, symbol.address = address ∧ Declares c name readOnly symbol c' := by
  simp only [declareGlobal, check_ok, bind_ok, pure_ok] at h
  obtain ⟨hd, ⟨symbol, c''⟩, hdecl, he⟩ := h
  cases he
  exact ⟨by omega, symbol, rfl, declares_of_ok hdecl⟩

theorem registerPlugin_ok {c c' : Compiler} {name : Text} {params : List ParameterKind}
    {index : Int} (h : c.registerPlugin name params index = .ok c') :
    c.function? name = none ∧ params.length + 1 ≤ c.frameSize ∧
      c' = { c with functions :=
        (name, { name, callee := .plugin index, params }) :: c.functions } := by
  simp only [registerPlugin, check_ok, pure_ok] at h
  obtain ⟨hf, hl, rfl⟩ := h
  exact ⟨by simpa using hf, by omega, rfl⟩

end Birl.Compiler
