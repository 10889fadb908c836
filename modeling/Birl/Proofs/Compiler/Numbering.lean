import Birl.Compiler.Statement
import Birl.Proofs.Compiler.Expression

/-!
# Line numbers

The line of a command goes into its instructions and into the error when the command
cannot be compiled, and nothing else depends on it (`compile_withoutLines`). So what is
compiled from commands is the same, wherever in a source they stand.
-/

namespace Birl

def Instruction.withoutLine (i : Instruction) : Instruction := { i with line := 0 }

def Segment.withoutLines (s : Segment) : Segment :=
  { s with code := s.code.map Instruction.withoutLine }

def Program.withoutLines (p : Program) : Program := ⟨p.segments.map Segment.withoutLines⟩

/-- The error with no line where it is one of compiling. -/
def Error.withoutLine : Error → Error
  | compile _ fault => compile 0 fault
  | e => e

namespace Compiler

def withoutLines (c : Compiler) : Compiler := { c with program := c.program.withoutLines }

def Compiled.withoutLines (compiled : Compiled) : Compiled :=
  { compiled with compiler := compiled.compiler.withoutLines }

section
variable (c : Compiler)

-- ---------------------------------------------------------------------------
-- Expressions
-- ---------------------------------------------------------------------------

theorem operand_withoutLines (node : Node) : c.withoutLines.operand node = c.operand node := by
  cases node <;> rfl

theorem compileFrom_withoutLines (next : Nat) (s : Progress) (nodes : List Node) :
    c.withoutLines.compileFrom next s nodes = c.compileFrom next s nodes := by
  have hallocate (address) : c.withoutLines.allocate address = c.allocate address := rfl
  have hhidden (address) : c.withoutLines.hidden address = c.hidden address := rfl
  have hfold (address) : c.withoutLines.foldInto address = c.foldInto address := rfl
  induction hn : nodes.length using Nat.strongRecOn generalizing next s nodes with
  | _ n ih =>
    have ih (next : Nat) (s : Progress) (shorter : List Node) (h : shorter.length < nodes.length) :=
      ih _ (hn ▸ h) next s shorter rfl
    rw [compileFrom.eq_def, compileFrom.eq_def c]
    simp only [operand_withoutLines, hallocate, hhidden, hfold]
    split
    · rfl
    · rename_i rest
      split
      · rfl
      · split
        · rfl
        · rename_i inner after hs
          have hlength := length_splitGroup hs
          rw [List.length_cons] at ih
          have hinner (next s) := ih next s inner (by omega)
          have hafter (next s) := ih next s after (by omega)
          simp only [hinner, hafter]
    · rfl
    · rename_i op rest _ _
      have hrest (next s) := ih next s rest (by simp)
      cases rest with
      | nil => simp only [hrest]
      | cons right rest =>
        have hmore (next s) := ih next s rest (by simp only [List.length_cons]; omega)
        simp only [hrest, hmore]
    · rename_i node rest _ _ _
      have hrest (next s) := ih next s rest (by simp)
      simp only [hrest]

theorem expression_withoutLines (next : Nat) (e : Expression) :
    c.withoutLines.expression next e = c.expression next e := by
  rw [expression, expression, compileFrom_withoutLines]

-- ---------------------------------------------------------------------------
-- Commands
-- ---------------------------------------------------------------------------

theorem printArguments_withoutLines (operation : Operation) (es : List Expression) :
    c.withoutLines.printArguments operation es = c.printArguments operation es := by
  induction es with
  | nil => rfl
  | cons e es ih => rw [printArguments, printArguments, expression_withoutLines, ih]; rfl

theorem arguments_withoutLines (address : Nat) (es : List Expression) (kinds : List ParameterKind) :
    c.withoutLines.arguments address es kinds = c.arguments address es kinds := by
  induction es generalizing address kinds with
  | nil => rfl
  | cons e es ih =>
    cases kinds with
    | nil => rfl
    | cons kind kinds => rw [arguments, arguments, expression_withoutLines, ih]; rfl

theorem optionalValue_withoutLines (cmd : Command) :
    c.withoutLines.optionalValue cmd = c.optionalValue cmd := by
  unfold optionalValue
  simp only [expression_withoutLines]
  rfl

theorem comparison_withoutLines (left right : Expression) :
    c.withoutLines.comparison left right = c.comparison left right := by
  have hallocate (address) : c.withoutLines.allocate address = c.allocate address := rfl
  have hhidden (address) : c.withoutLines.hidden address = c.hidden address := rfl
  unfold comparison comparison.between
  simp only [expression_withoutLines, operand_withoutLines, hallocate, hhidden]
  rfl

theorem setInnermost_withoutLines (vars : Bindings) :
    c.withoutLines.setInnermost vars = (c.setInnermost vars).withoutLines := by
  obtain ⟨frameSize, program, globals, function, blocks, functions, next⟩ := c
  cases blocks with
  | cons block rest => rfl
  | nil => cases function <;> rfl

theorem declare_withoutLines (name : Text) (readOnly : Bool) :
    c.withoutLines.declare name readOnly =
      (c.declare name readOnly).map fun declared => (declared.1, declared.2.withoutLines) := by
  have hinnermost : c.withoutLines.innermost = c.innermost := rfl
  have hallocate : c.withoutLines.allocate c.withoutLines.next = c.allocate c.next := rfl
  have hglobal : c.withoutLines.inGlobal = c.inGlobal := rfl
  unfold declare
  simp only [hinnermost, hallocate, hglobal, setInnermost_withoutLines]
  cases c.innermost.find? name with
  | none => cases c.allocate c.next <;> rfl
  | some previous =>
    dsimp only
    split
    · cases c.allocate c.next <;> rfl
    · rfl

variable (cmd : Command)

theorem compilePrint_withoutLines :
    c.withoutLines.compilePrint cmd = (c.compilePrint cmd).map Compiled.withoutLines := by
  unfold compilePrint
  rw [printArguments_withoutLines]
  cases c.printArguments _ cmd.args <;> rfl

theorem compileDeclare_withoutLines :
    c.withoutLines.compileDeclare cmd = (c.compileDeclare cmd).map Compiled.withoutLines := by
  unfold compileDeclare
  rw [optionalValue_withoutLines, declare_withoutLines]
  cases c.optionalValue cmd with
  | error fault => rfl
  | ok code => cases c.declare cmd.name false <;> rfl

theorem compileSet_withoutLines :
    c.withoutLines.compileSet cmd = (c.compileSet cmd).map Compiled.withoutLines := by
  have hwritable : c.withoutLines.writable cmd.name = c.writable cmd.name := rfl
  have hexpression : c.withoutLines.expression c.withoutLines.next (cmd.args.headD []) =
      c.expression c.next (cmd.args.headD []) := expression_withoutLines c _ _
  unfold compileSet
  rw [hwritable, hexpression]
  cases arity cmd 1 1 with
  | error fault => rfl
  | ok _ =>
    cases c.writable cmd.name with
    | error fault => rfl
    | ok symbol => cases c.expression c.next (cmd.args.headD []) <;> rfl

theorem compileReturn_withoutLines :
    c.withoutLines.compileReturn cmd = (c.compileReturn cmd).map Compiled.withoutLines := by
  unfold compileReturn
  rw [optionalValue_withoutLines]
  cases c.optionalValue cmd <;> rfl

theorem compileCompare_withoutLines :
    c.withoutLines.compileCompare cmd = (c.compileCompare cmd).map Compiled.withoutLines := by
  unfold compileCompare
  rw [comparison_withoutLines]
  cases arity cmd 2 2 with
  | error fault => rfl
  | ok _ => cases c.comparison _ _ <;> rfl

theorem compileEndBlock_withoutLines :
    c.withoutLines.compileEndBlock = c.compileEndBlock.map Compiled.withoutLines := by
  obtain ⟨frameSize, program, globals, function, blocks, functions, next⟩ := c
  cases blocks <;> rfl

theorem compileCall_withoutLines :
    c.withoutLines.compileCall cmd = (c.compileCall cmd).map Compiled.withoutLines := by
  have hfunction : c.withoutLines.function? cmd.name = c.function? cmd.name := rfl
  unfold compileCall
  simp only [hfunction, arguments_withoutLines]
  cases c.function? cmd.name with
  | none => rfl
  | some f =>
    dsimp only
    split
    · rfl
    · cases c.arguments 1 cmd.args f.params <;> rfl

theorem addSegment_withoutLines (p : Program) (name : Text) :
    p.withoutLines.addSegment name = ((p.addSegment name).1, (p.addSegment name).2.withoutLines) := by
  simp [Program.addSegment, Program.withoutLines, Segment.withoutLines]

theorem compileFunctionStart_withoutLines :
    c.withoutLines.compileFunctionStart cmd =
      (c.compileFunctionStart cmd).map Compiled.withoutLines := by
  have hdepth : c.withoutLines.depth = c.depth := rfl
  have hfunction : c.withoutLines.function? cmd.name = c.function? cmd.name := rfl
  have hsize : c.withoutLines.frameSize = c.frameSize := rfl
  have hsegment : c.withoutLines.program.addSegment cmd.name =
      ((c.program.addSegment cmd.name).1, (c.program.addSegment cmd.name).2.withoutLines) :=
    addSegment_withoutLines _ _
  unfold compileFunctionStart
  rw [hdepth, hfunction, hsize, hsegment]
  dsimp only
  by_cases hopen : c.depth > 0
  · rw [if_pos hopen, if_pos hopen]
    rfl
  · rw [if_neg hopen, if_neg hopen]
    by_cases hdeclared : (c.function? cmd.name).isSome
    · rw [if_pos hdeclared, if_pos hdeclared]
      rfl
    · rw [if_neg hdeclared, if_neg hdeclared]
      by_cases hentry : decide (cmd.name = entryName) && !cmd.params.isEmpty
      · rw [if_pos hentry, if_pos hentry]
        rfl
      · rw [if_neg hentry, if_neg hentry]
        by_cases hmany : cmd.params.length + 1 > c.frameSize
        · rw [if_pos hmany, if_pos hmany]
          rfl
        · rw [if_neg hmany, if_neg hmany]
          cases bindParameters 1 [(returnName, { address := 0 })] cmd.params with
          | error fault => rfl
          | ok bound =>
            generalize decide (cmd.name = entryName) = isEntry
            cases isEntry <;> rfl

theorem compileFunctionEnd_withoutLines :
    c.withoutLines.compileFunctionEnd = c.compileFunctionEnd.map Compiled.withoutLines := by
  obtain ⟨frameSize, program, globals, function, blocks, functions, next⟩ := c
  cases function with
  | none => rfl
  | some function => cases blocks <;> rfl

theorem compileInput_withoutLines (kind : Kind) :
    c.withoutLines.compileInput cmd kind = (c.compileInput cmd kind).map Compiled.withoutLines := by
  have hresolve : c.withoutLines.resolve cmd.name = c.resolve cmd.name := rfl
  unfold compileInput
  rw [hresolve, declare_withoutLines]
  cases arity cmd 0 0 with
  | error fault => rfl
  | ok _ =>
    cases c.resolve cmd.name with
    | some symbol =>
      dsimp only
      split <;> rfl
    | none => cases c.declare cmd.name false <;> rfl

theorem compileConversion_withoutLines (kind : Kind) :
    c.withoutLines.compileConversion cmd kind =
      (c.compileConversion cmd kind).map Compiled.withoutLines := by
  have hwritable : c.withoutLines.writable cmd.name = c.writable cmd.name := rfl
  unfold compileConversion
  rw [hwritable]
  cases arity cmd 0 0 with
  | error fault => rfl
  | ok _ => cases c.writable cmd.name <;> rfl

theorem compileCommand_withoutLines :
    c.withoutLines.compileCommand cmd = (c.compileCommand cmd).map Compiled.withoutLines := by
  unfold compileCommand
  cases cmd.kind with
  | print | printLine | printDebug => exact compilePrint_withoutLines c cmd
  | declare => exact compileDeclare_withoutLines c cmd
  | set => exact compileSet_withoutLines c cmd
  | returnValue => exact compileReturn_withoutLines c cmd
  | compare => exact compileCompare_withoutLines c cmd
  | executeIf => rfl
  | endBlock => exact compileEndBlock_withoutLines c
  | call => exact compileCall_withoutLines c cmd
  | functionStart => exact compileFunctionStart_withoutLines c cmd
  | functionEnd => exact compileFunctionEnd_withoutLines c
  | quit => rfl
  | input kind => exact compileInput_withoutLines c cmd kind
  | convert kind => exact compileConversion_withoutLines c cmd kind
  | unknown => rfl

theorem append_withoutLines (p : Program) (id : Nat) (code : List Instruction) :
    (p.append id code).withoutLines =
      p.withoutLines.append id (code.map Instruction.withoutLine) := by
  have hsegment (s : Segment) : Segment.withoutLines { s with code := s.code ++ code } =
      { s.withoutLines with
        code := s.withoutLines.code ++ code.map Instruction.withoutLine } := by
    simp [Segment.withoutLines, ← Array.toList_inj]
  refine congrArg Program.mk (Array.ext (by simp [Program.append, Program.withoutLines]) ?_)
  intro i _ _
  simp only [Program.append, Program.withoutLines, Array.getElem_map, Array.getElem_modify]
  split
  · exact hsegment _
  · rfl

theorem compile_withoutLines (line : Int) :
    c.withoutLines.compile 0 cmd = match c.compile line cmd with
      | .ok (hint, compiler) => .ok (hint, compiler.withoutLines)
      | .error e => .error e.withoutLine := by
  unfold compile
  rw [compileCommand_withoutLines]
  cases c.compileCommand cmd with
  | error fault => rfl
  | ok compiled =>
    have happend := append_withoutLines compiled.compiler.program c.currentCode
      (compiled.code.map fun op => { op, line })
    rw [List.map_map] at happend
    simp only [Except.map, withoutLines, happend]
    rfl

end

def compileAll (c : Compiler) : List Command → Compiler × Except Error Unit
  | [] => (c, .ok ())
  | cmd :: rest =>
    match c.compile 0 cmd with
    | .ok (_, c) => c.compileAll rest
    | .error e => (c, .error e)

end Compiler
end Birl
