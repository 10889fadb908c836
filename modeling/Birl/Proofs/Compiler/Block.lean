import Birl.Proofs.Compiler.Reachable
import Birl.Proofs.Machine.Block

/-!
# Blocks of compiled code

Only the commands that open and end a block emit the operations for it; the code
of everything else is straight. So the blocks of every compiled segment are
nested, and those still open are the blocks that the compiler has open
(`Reachable.balanced`).
-/

namespace Birl

/-- The operations that the code of an expression is made of. -/
def Operation.computes : Operation → Bool
  | loadB _ | heldToA | heldToB | swap | arith _ => true
  | readLocal _ | writeLocal _ | readGlobal _ | writeGlobal _ => true
  | _ => false

/-- The operations that open or end a block, and those that build, start or leave frames. -/
def Operation.steers (op : Operation) : Bool := op.boundsBlock || op.moves

theorem Operation.steers_of_computes {op : Operation} (h : op.computes = true) :
    op.steers = false := by
  cases op <;> first | rfl | cases h

theorem Operator.computes {op : Operator} {operation : Operation}
    (h : operation ∈ op.operations) : operation.computes = true := by
  cases op <;> simp [Operator.operations] at h <;> simp [h, Operation.computes]

theorem Symbol.computes_read (s : Symbol) : s.read.computes = true := by
  unfold Symbol.read; split <;> rfl

theorem Symbol.computes_write (s : Symbol) : s.write.computes = true := by
  unfold Symbol.write; split <;> rfl

namespace Compiler

-- ---------------------------------------------------------------------------
-- Straight code
-- ---------------------------------------------------------------------------

section
variable {c : Compiler}

theorem Loads.computes {node : Node} {code : List Operation} (h : Loads c node code) :
    ∀ op ∈ code, op.computes = true := by
  cases h with
  | literal k => simp [Operation.computes]
  | named h =>
    simp only [List.forall_mem_cons]
    exact ⟨Symbol.computes_read _, rfl, by simp⟩

theorem computes_foldInto (accumulator : Nat) (op : Operator) :
    ∀ operation ∈ c.foldInto accumulator op, operation.computes = true := by
  intro operation h
  simp only [foldInto, List.mem_cons] at h
  rcases h with rfl | rfl | h
  · exact Symbol.computes_read _
  · rfl
  · exact Operator.computes h

theorem computes_settle (s : Progress) (next : Nat) :
    ∀ op ∈ s.settle c next, op.computes = true := by
  unfold Progress.settle
  cases s.low with
  | none => simp
  | some op => exact computes_foldInto next op

theorem Compiles.computes {next : Nat} {s : Progress} {nodes : List Node} {code : List Operation}
    (h : Compiles c next s nodes code) : ∀ op ∈ code, op.computes = true := by
  have hops (op : Operator) : ∀ operation ∈ op.operations, operation.computes = true :=
    fun _ => Operator.computes
  induction h with
  | finish => exact computes_settle _ _
  | group _ _ _ _ _ ihg ihm => exact List.forall_mem_append.mpr ⟨ihg, ihm⟩
  | factorGroup _ _ _ _ _ _ ihg ihm =>
    simp only [List.cons_append, List.forall_mem_cons, List.forall_mem_append]
    exact ⟨Symbol.computes_write _, ⟨ihg, computes_foldInto _ _⟩, ihm⟩
  | high _ _ _ ih => exact ih
  | atOnce _ _ _ _ _ hl _ ih =>
    simp only [List.forall_mem_cons, List.forall_mem_append]
    exact ⟨⟨⟨computes_settle _ _, rfl, hl.computes⟩, hops _⟩, ih⟩
  | deferred _ _ _ _ _ _ _ ih =>
    simp only [List.forall_mem_cons, List.forall_mem_append]
    exact ⟨computes_settle _ _, Symbol.computes_write _, ih⟩
  | operand _ _ hl _ ih => exact List.forall_mem_append.mpr ⟨hl.computes, ih⟩
  | factor _ _ hl _ ih =>
    simp only [List.cons_append, List.forall_mem_cons, List.forall_mem_append]
    exact ⟨rfl, ⟨hl.computes, hops _⟩, ih⟩

theorem computes_expression {next : Nat} {e : Expression} {code : List Operation}
    (h : c.expression next e = .ok code) : ∀ op ∈ code, op.computes = true :=
  (compiles_of_expression h).computes

/-- Code that neither opens nor ends a block and stays in its frame. -/
def Straight (code : List Operation) : Prop := ∀ op ∈ code, op.steers = false

theorem Straight.inBlock {code : List Operation} (h : Straight code) :
    ∀ op ∈ code, op.boundsBlock = false :=
  fun op hop => (Bool.or_eq_false_iff.mp (h op hop)).1

theorem Straight.inFrame {code : List Operation} (h : Straight code) :
    ∀ op ∈ code, op.moves = false :=
  fun op hop => (Bool.or_eq_false_iff.mp (h op hop)).2

theorem straight_expression {next : Nat} {e : Expression} {code : List Operation}
    (h : c.expression next e = .ok code) : Straight code :=
  fun op hop => Operation.steers_of_computes (computes_expression h op hop)

theorem straight_symbol (s : Symbol) : s.read.steers = false ∧ s.write.steers = false :=
  ⟨Operation.steers_of_computes s.computes_read,
    Operation.steers_of_computes s.computes_write⟩

theorem straight_conversion (kind : Kind) : (conversion kind).steers = false := by
  cases kind <;> rfl

theorem Gives.straight {code : List Operation} (h : Gives c code) : Straight code := by
  cases h with
  | expression h => exact straight_expression h
  | null => simp [Straight, Operation.steers, Operation.boundsBlock, Operation.moves]
  | input kind =>
    cases kind <;>
      simp [Straight, conversion, Operation.steers, Operation.boundsBlock, Operation.moves]
  | converted kind hr =>
    simp only [Straight, List.forall_mem_cons]
    exact ⟨(straight_symbol _).1, rfl, straight_conversion kind, by simp⟩

theorem Gives.straight_write {code : List Operation} (h : Gives c code) (symbol : Symbol) :
    Straight (code ++ [symbol.write]) := by
  simp only [Straight, List.forall_mem_append, List.forall_mem_cons]
  exact ⟨h.straight, (straight_symbol symbol).2, by simp⟩

theorem throughout_straight : Throughout c (·.steers = false) :=
  fun _ _ _ _ h => straight_expression h

theorem straight_printArguments {op : Operation} (hop : op.steers = false)
    {args : List Expression} {code : List Operation} (h : c.printArguments op args = .ok code) :
    Straight code :=
  throughout_straight.printArguments hop h

theorem straight_arguments {address : Nat} {args : List Expression} {kinds : List ParameterKind}
    {code : List Operation} (h : c.arguments address args kinds = .ok code) : Straight code :=
  throughout_straight.arguments (fun _ _ => rfl) (fun _ _ => rfl) h

theorem straight_comparison {left right : Expression} {code : List Operation}
    (h : c.comparison left right = .ok code) : Straight code := by
  refine throughout_straight.comparison (fun _ => straight_symbol _) ?_ ?_ h
  · rintro op (rfl | rfl | ⟨k, rfl⟩) <;> rfl
  · exact fun hload op hop => Operation.steers_of_computes (hload.computes op hop)

end

-- ---------------------------------------------------------------------------
-- Balance
-- ---------------------------------------------------------------------------

/-- The open blocks of each segment are those that the compiler has open there. -/
def Balanced (c : Compiler) : Prop :=
  ∀ id segment, c.program.segment? id = some segment →
    OpenBlocks (if id = c.currentCode then c.blocks.length else 0) segment.operations

/-- What a command does to the blocks of the segment it adds to. -/
inductive Bounds (c : Compiler) : List Operation → Compiler → Prop
  | straight {code : List Operation} {c' : Compiler} (h : ∀ op ∈ code, op.boundsBlock = false)
      (hp : c'.program = c.program) (hb : c'.blocks.length = c.blocks.length)
      (hc : c'.currentCode = c.currentCode) : Bounds c code c'
  | opens {c' : Compiler} (requirement : Requirement) (hp : c'.program = c.program)
      (hb : c'.blocks.length = c.blocks.length + 1) (hc : c'.currentCode = c.currentCode) :
      Bounds c [.executeIf requirement] c'
  | closes {c' : Compiler} (hp : c'.program = c.program)
      (hb : c.blocks.length = c'.blocks.length + 1) (hc : c'.currentCode = c.currentCode) :
      Bounds c [.endIf] c'
  | leaves {c' : Compiler} (hc : c.blocks = []) (hc' : c'.blocks = [])
      (hp : c'.program = c.program ∨ ∃ name, c'.program = (c.program.addSegment name).2) :
      Bounds c [] c'

theorem Emits.bounds {c c' : Compiler} {code : List Operation} {hint : ScopeHint}
    (h : Emits c code c' hint) : Bounds c code c' := by
  cases h with
  | @print op _ _ _ hop h ht =>
    refine .straight ?_ rfl rfl rfl
    have hop : op.steers = false := by rcases hop with rfl | rfl <;> rfl
    simp only [List.forall_mem_append, List.forall_mem_cons]
    refine ⟨⟨(straight_printArguments hop h).inBlock, ?_⟩, rfl, by simp⟩
    rcases ht with rfl | rfl <;> simp [Operation.boundsBlock]
  | assign hv ht =>
    obtain ⟨-, hp, -, hb, hc, -⟩ := ht.keeps
    exact .straight (hv.straight_write _).inBlock hp hb hc
  | giveBack hv =>
    refine .straight ?_ rfl rfl rfl
    simp only [List.forall_mem_append, List.forall_mem_cons]
    exact ⟨hv.straight.inBlock, rfl, by simp⟩
  | compare h =>
    refine .straight ?_ rfl rfl rfl
    simp only [List.forall_mem_append, List.forall_mem_cons]
    exact ⟨(straight_comparison h).inBlock, rfl, by simp⟩
  | openBlock condition => exact .opens _ rfl rfl rfl
  | closeBlock hb => exact .closes rfl (by simp [hb]) rfl
  | @call _ f _ _ _ _ h =>
    refine .straight ?_ rfl rfl rfl
    have hstart : (callOperation f).boundsBlock = false := by
      unfold callOperation; split <;> rfl
    simp only [List.cons_append, List.forall_mem_append, List.forall_mem_cons]
    exact ⟨rfl, (straight_arguments h).inBlock, hstart, by simp⟩
  | @openFunction name _ _ _ hd =>
    have hblocks := (depth_zero hd).1
    refine .leaves hblocks hblocks ?_
    by_cases hname : name = entryName
    · exact .inl (by simp [headerCode, hname])
    · exact .inr ⟨name, by simp [headerCode, hname]⟩
  | closeFunction _ hb => exact .leaves hb hb (.inl rfl)
  | quit => exact .straight (by simp [Operation.boundsBlock]) rfl rfl rfl

theorem Balanced.append {c c' : Compiler} {code : List Operation} {line : Int}
    (h : Balanced c) (hb : Bounds c code c') :
    Balanced { c' with
      program := c'.program.append c.currentCode (code.map fun op => { op, line }) } := by
  have hops : (code.map fun op => ({ op, line } : Instruction)).map Instruction.op = code := by
    rw [List.map_map]
    exact List.map_id code
  -- What is added to the open segment fits the change in the number of open blocks.
  have hadded {n n' : Nat} (hp : c'.program = c.program) (hc : c'.currentCode = c.currentCode)
      (hn : c.blocks.length = n) (hn' : c'.blocks.length = n')
      (hcode : ∀ {ops}, OpenBlocks n ops → OpenBlocks n' (ops ++ code)) :
      Balanced { c' with
        program := c'.program.append c.currentCode (code.map fun op => { op, line }) } := by
    intro id segment hs
    rw [Program.segment?_append, hp] at hs
    obtain ⟨segment', hs', rfl⟩ := Option.map_eq_some_iff.mp hs
    have hopen := h id segment' hs'
    show OpenBlocks (if id = c'.currentCode then c'.blocks.length else 0) _
    rw [hc, hn']
    rw [hn] at hopen
    by_cases hid : id = c.currentCode
    · simp only [hid, if_true] at hopen ⊢
      rw [Segment.operations_append, hops]
      exact hcode hopen
    · simpa [hid] using hopen
  cases hb with
  | straight hcode hp hb hc =>
    exact hadded hp hc hb.symm rfl fun hopen => hopen.append (nested_of_plain hcode)
  | opens requirement hp hb hc => exact hadded hp hc rfl hb fun hopen => hopen.open requirement
  | closes hp hb hc => exact hadded hp hc hb rfl fun hopen => hopen.close
  | leaves hc hc' hp =>
    intro id segment hs
    rw [Program.segment?_append] at hs
    obtain ⟨segment', hs', rfl⟩ := Option.map_eq_some_iff.mp hs
    show OpenBlocks (if id = c'.currentCode then c'.blocks.length else 0) _
    have hopen : OpenBlocks 0 segment'.operations := by
      have hold {segment} (hs : c.program.segment? id = some segment) :
          OpenBlocks 0 segment.operations := by
        have := h id segment hs
        simpa [hc] using this
      rcases hp with hp | ⟨name, hp⟩
      · exact hold (hp ▸ hs')
      · rw [hp, Program.segment?_addSegment] at hs'
        split at hs'
        · cases hs'
          exact .closed .nil
        · exact hold hs'
    simpa [hc'] using hopen

theorem Reachable.balanced {c : Compiler} (h : Reachable c) : Balanced c := by
  induction h with
  | new requested =>
    intro id segment hs
    rw [Program.operations_empty hs]
    split <;> exact .closed .nil
  | compile _ hc ih =>
    obtain ⟨code, c₁, hemits, rfl⟩ := compile_ok hc
    exact ih.append hemits.bounds
  | declareGlobal _ hd ih =>
    obtain ⟨-, symbol, -, hdeclares⟩ := declareGlobal_ok hd
    obtain ⟨-, hp, -, hb, hc, -⟩ := hdeclares.keeps
    intro id segment hs
    rw [hb, hc]
    exact ih id segment (hp ▸ hs)
  | registerPlugin _ hp ih =>
    obtain ⟨-, -, rfl⟩ := registerPlugin_ok hp
    exact ih
  | @appendEntryCall c line _ ih =>
    intro id segment hs
    change (c.program.append globalCode _).segment? id = some segment at hs
    rw [Program.segment?_append] at hs
    obtain ⟨segment', hs', rfl⟩ := Option.map_eq_some_iff.mp hs
    have hopen := ih id segment' hs'
    show OpenBlocks (if id = c.currentCode then c.blocks.length else 0) _
    by_cases hid : id = globalCode
    · rw [if_pos hid, Segment.operations_append]
      exact hopen.append (nested_of_plain (by simp [Operation.boundsBlock]))
    · rw [if_neg hid]
      exact hopen

end Compiler
end Birl
