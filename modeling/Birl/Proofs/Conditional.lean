import Birl.Proofs.Compiler.Lines
import Birl.Proofs.Machine.Guard

/-!
# Conditional blocks

There are no jumps: a block that is not entered is found its end by counting. The
main statement, `conditional_blocks`, says what this comes to. For any program, a
block that is not entered is passed over and leaves no trace, and a block that is
entered runs from its first instruction to its end, which does nothing. For
compiled programs, every block is such a region, and an instruction is executed
exactly if the conditions of all blocks around it held when they were reached. The
blocks of the code are those of the lines it was compiled from, with their conditions.
-/

namespace Birl

open Machine

namespace Machine

section
variable {p p' : Program} {m m' : Machine} {guards : List Guard}

theorem height_modifyCurrent {g : Frame → Frame} (g' : Control → Control)
    (h : (g m.current).control = g' m.current.control)
    (hready : (g' m.current.control).ready = m.current.control.ready) :
    (m.modifyCurrent g).height = m.height := by
  obtain ⟨above, below, hstack, habove, hcur⟩ := m.stack_current
  rw [height, height, stack_modifyCurrent g' h, hstack, modifyRunning_split habove hcur,
    running_split habove hcur, running_split habove (hready ▸ hcur)]

theorem Watched.extends {d : Nat} {p₀ : Program} {m₀ : Machine} (h : Watched d p₀ m₀ p m guards) :
    p₀.Extends p := by
  induction h with
  | here => exact .refl _
  | grown _ hp ih => exact ih.trans hp
  | kept _ _ ih => exact ih
  | step _ _ _ ih => exact ih

theorem code?_extends {owner : FrameOwner} {segment : Segment} (hp : p.Extends p')
    (h : code? p owner = some segment) :
    ∃ segment', code? p' owner = some segment' ∧ segment.operations <+: segment'.operations := by
  cases owner with
  | code id =>
    obtain ⟨more, hmore⟩ := hp id segment h
    exact ⟨_, hmore, by simp⟩
  | plugin => cases h

-- ---------------------------------------------------------------------------
-- Blocks of any program
-- ---------------------------------------------------------------------------

theorem step_end_of_entered {requirement : Requirement} {body : List Operation}
    (hahead : Ahead p m (.executeIf requirement :: (body ++ [.endIf]))) (hn : Nested body)
    (hw : Watched m.height p (m.moved 1 0) p' m' guards) (hheight : m'.height = m.height)
    (hpc : m'.current.pc = m.current.pc + 1 + body.length) :
    step p' m' = (m'.moved 1 0, .ok .normal) := by
  have hbody : Ahead p (m.moved 1 0) (body ++ [.endIf]) := hahead.next 0
  obtain ⟨segment, hsegment, after, hafter⟩ := hbody
  rw [segment?_eq_code?] at hsegment
  have hlength : (m.moved 1 0).current.pc ≤ segment.operations.length := by
    have := congrArg List.length hafter
    simp only [List.length_append, List.length_drop, List.length_cons] at this
    omega
  have hstart : (m.moved 1 0).stack.reverse[m.height]? = some (m.moved 1 0).current.control := by
    have hmoved : (m.moved 1 0).height = m.height :=
      height_modifyCurrent (fun c => { c with pc := c.pc + 1, skip := 0 }) rfl rfl
    rw [← hmoved, getElem?_reverse_height]
  obtain ⟨c, segment', hc, htracked⟩ :=
    hw.tracked hstart hsegment hlength (by rw [current_moved]; rfl)
  rw [← hheight, getElem?_reverse_height] at hc
  cases hc
  -- The program may have grown, but the block is where it was.
  obtain ⟨segment'', hsegment'', hprefix⟩ := code?_extends hw.extends hsegment
  have hsame : segment'' = segment' := by
    rw [show code? p' (m.moved 1 0).current.owner = some segment' from htracked.code] at hsegment''
    exact (Option.some.inj hsegment'').symm
  obtain ⟨more, hmore⟩ := hsame ▸ hprefix
  have hpc₀ : (m.moved 1 0).current.pc = m.current.pc + 1 := by rw [current_moved]
  rw [hpc₀] at hafter hlength
  have hoperations : segment'.operations.drop (m.current.pc + 1) =
      body ++ .endIf :: (after ++ more) := by
    rw [← hmore, List.drop_append_of_le_length hlength, ← hafter]
    simp
  have hpassed : (segment'.operations.take m'.current.pc).drop (m.current.pc + 1) = body := by
    rw [hpc, List.drop_take, hoperations]
    simp
  obtain ⟨hguards, hskip⟩ := htracked.guards [] (by
    show conditions ((segment'.operations.take m'.current.pc).drop (m.moved 1 0).current.pc) = _
    rw [hpc₀, hpassed, hn.conditions])
  have hnone : guards = [] := by simpa using hguards.symm
  have hzero : m'.current.skip = 0 := by
    rw [hnone] at hskip
    exact hskip
  have hend : Ahead p' m' [.endIf] := by
    refine ⟨segment', ?_, after ++ more, ?_⟩
    · rw [segment?_eq_code?, ← htracked.code, ← htracked.owner]
      rfl
    · rw [hpc, ← List.drop_drop, hoperations]
      simp
  exact step_endIf hzero hend

-- ---------------------------------------------------------------------------
-- Blocks of compiled programs
-- ---------------------------------------------------------------------------

/-- The frame with `d` frames under it does not skip and is outside of every block. -/
def Outside (p : Program) (m : Machine) (d : Nat) : Prop :=
  ∃ f segment, m.frames.reverse[d]? = some f ∧ code? p f.owner = some segment ∧
    f.pc ≤ segment.operations.length ∧ f.skip = 0 ∧
    conditions (segment.operations.take f.pc) = some []

/-- The blocks around the place of the frame with `d` frames under it are those of
the guards, and it skips unless all of them held. -/
def Guarded (p : Program) (m : Machine) (d : Nat) (guards : List Guard) : Prop :=
  ∃ f segment, m.frames.reverse[d]? = some f ∧ code? p f.owner = some segment ∧
    conditions (segment.operations.take f.pc) = some (guards.map Guard.requirement) ∧
    (f.skip = 0 ↔ ∀ g ∈ guards, g.held = true)

theorem Watched.guarded {d : Nat} {p₀ : Program} {m₀ : Machine}
    (hw : Watched d p₀ m₀ p m guards) (hout : Outside p₀ m₀ d)
    (hnested : ∀ id segment, p.segment? id = some segment → ∃ n, OpenBlocks n segment.operations) :
    Guarded p m d guards := by
  obtain ⟨f₀, segment₀, hf, hcode, hpc, hskip, hout⟩ := hout
  have hcontrol : m₀.stack.reverse[d]? = some f₀.control := by
    simp [stack, ← List.map_reverse, hf]
  obtain ⟨c, segment, hc, htracked⟩ := hw.tracked hcontrol hcode hpc hskip
  have hframe : ∃ f, m.frames.reverse[d]? = some f ∧ f.control = c := by
    simpa [stack, ← List.map_reverse] using hc
  obtain ⟨f, hf', rfl⟩ := hframe
  obtain ⟨segment', hsegment', more, hmore⟩ := code?_extends hw.extends hcode
  have hsame : segment' = segment := by
    rw [show code? p f₀.owner = some segment from htracked.code] at hsegment'
    exact (Option.some.inj hsegment').symm
  subst hsame
  obtain ⟨n, hopen⟩ : ∃ n, OpenBlocks n segment'.operations := by
    have hcode' := htracked.code
    cases howner : f₀.control.owner with
    | code id => exact hnested id segment' (by simpa [howner, code?] using hcode')
    | plugin => simp [howner, code?] at hcode'
  obtain ⟨enclosing, henc, -⟩ := hopen.conditions
  obtain ⟨before, hbefore⟩ := conditions_take henc f.pc
  -- Nothing was open at the start, so what is open now was opened since.
  have hsplit : segment'.operations.take f.pc =
      segment₀.operations.take f₀.pc ++ (segment'.operations.take f.pc).drop f₀.pc := by
    have hle : f₀.pc ≤ f.pc := htracked.from_le
    have htake : (segment'.operations.take f.pc).take f₀.pc = segment₀.operations.take f₀.pc := by
      rw [List.take_take, Nat.min_eq_left hle, ← hmore, List.take_append_of_le_length hpc]
    rw [← htake, List.take_append_drop]
  have hsince : conditions ((segment'.operations.take f.pc).drop f₀.pc) = some before := by
    rw [hsplit, conditions_append, hout] at hbefore
    exact hbefore
  obtain ⟨rfl, hskip'⟩ := htracked.guards before hsince
  refine ⟨f, segment', hf', ?_, hbefore, ?_⟩
  · rw [show f.owner = f₀.owner from htracked.owner]
    exact htracked.code
  · rw [show f.skip = skipped guards from hskip', skipped_eq_zero]

/-- A frame executes its next operation if it does not skip, and else only moves past it. -/
theorem step_next {op : Operation} (hnext : m.next? p = some op) :
    (m.current.skip = 0 → (step p m).1 = (execute p m.advance op).1) ∧
      (m.current.skip ≠ 0 →
        step p m = (m.moved 1 (skipAfter m.current.skip op), .ok .normal)) := by
  obtain ⟨segment, hs, hop⟩ := Option.bind_eq_some_iff.mp hnext
  obtain ⟨instruction, hi, rfl⟩ := segment.operations_getElem?.mp hop
  constructor
  · intro hk
    rcases he : execute p m.advance instruction.op with ⟨m', status | fault⟩
    · rw [(Stepped.failed hs hi hk he).step_eq]
    · rw [(Stepped.executed hs hi hk he).step_eq]
  · intro hk
    rw [(Stepped.skipped hs hi (Nat.pos_of_ne_zero hk)).step_eq]
    exact congrArg (·, _) (modifyCurrent_congr rfl)

/-- The current frame stands, without skipping, at the head of a block. -/
structure AtBlock (p : Program) (m : Machine) (requirement : Requirement) (body : List Operation) :
    Prop where
  skip : m.current.skip = 0
  ahead : Ahead p m (.executeIf requirement :: (body ++ [.endIf]))
  nested : Nested body

theorem Watched.current {d : Nat} {p₀ : Program} {m₀ : Machine} (hw : Watched d p₀ m₀ p m guards)
    (hout : Outside p₀ m₀ d)
    (hnested : ∀ id segment, p.segment? id = some segment → ∃ n, OpenBlocks n segment.operations)
    (hd : d = m.height) :
    (m.current.skip = 0 ↔ ∀ g ∈ guards, g.held = true) ∧ ∃ segment,
      code? p m.current.owner = some segment ∧
      conditions (segment.operations.take m.current.pc) = some (guards.map Guard.requirement) := by
  obtain ⟨f, segment, hf, hcode, hconditions, hheld⟩ := hw.guarded hout hnested
  have hcurrent := getElem?_reverse_height m
  rw [← hd] at hcurrent
  have hsame : m.current.control = f.control := by
    simpa [stack, ← List.map_reverse, hf, eq_comm] using hcurrent
  have howner : m.current.owner = f.owner := congrArg Control.owner hsame
  have hpc : m.current.pc = f.pc := congrArg Control.pc hsame
  have hskip : m.current.skip = f.skip := congrArg Control.skip hsame
  rw [howner, hpc, hskip]
  exact ⟨hheld, segment, hcode, hconditions⟩

end
end Machine

-- ---------------------------------------------------------------------------
-- Blocks of lines
-- ---------------------------------------------------------------------------

section
variable {c c' : Compiler} {p : Program} {m : Machine}

theorem segment?_of_operationsAt {id : Nat} {op : Operation} (h : op ∈ p.operationsAt id) :
    ∃ segment, p.segment? id = some segment ∧ segment.operations = p.operationsAt id := by
  unfold Program.operationsAt at h ⊢
  cases hs : p.segment? id with
  | none => simp [hs] at h
  | some segment => exact ⟨segment, rfl, rfl⟩

theorem Compiler.AddsNested.atBlock {requirement : Requirement} {body : List Operation}
    (h : c.AddsNested (.executeIf requirement :: (body ++ [.endIf])) c') (hn : Nested body)
    (hp : c'.program.Extends p) (howner : m.current.owner = .code c.currentCode)
    (hpc : m.current.pc = (c.program.operationsAt c.currentCode).length) (hk : m.current.skip = 0) :
    AtBlock p m requirement body := by
  refine ⟨hk, ?_, hn⟩
  obtain ⟨more, hmore⟩ := hp.operationsAt c.currentCode
  rw [h.operations, if_pos rfl] at hmore
  have hmem : Operation.endIf ∈ p.operationsAt c.currentCode := by
    rw [← hmore]
    simp
  obtain ⟨segment, hs, hops⟩ := segment?_of_operationsAt hmem
  refine ⟨segment, by simp [segment?, howner, hs], more, ?_⟩
  rw [hops, hpc, ← hmore, List.append_assoc, List.drop_left]

theorem conditions_line {c₀ c₁ c₂ c₃ : Compiler} {before : List (Int × Command)}
    {codes : List (List Operation)} {line : Int} {cmd : Command} {hint : ScopeHint}
    (hr : c₀.Reachable) (hclosed : c₀.blocks = []) (hbefore : c₀.CompilesLines before codes c₁)
    (hreg : c₁.Registers c₂) (hc : c₂.compile line cmd = .ok (hint, c₃))
    (hp : c₃.program.Extends p) {k : Nat} (hk : k < (c₂.codeOf cmd).length) :
    conditions ((p.operationsAt c₂.currentCode).take
        ((c₂.program.operationsAt c₂.currentCode).length + k)) =
      some ((openConditions before).map Requirement.known) ∧
    (p.operationsAt c₂.currentCode)[(c₂.program.operationsAt c₂.currentCode).length + k]? =
      (c₂.codeOf cmd)[k]? := by
  have hopen := hbefore.conditions hr hclosed
  obtain ⟨hprogram, -, hcur⟩ := hreg.keeps
  rw [← hprogram, ← hcur] at hopen
  obtain ⟨hlined, hops⟩ := (hreg.reachable (hbefore.reachable hr)).compile_adds hc
  obtain ⟨more, hmore⟩ := hp.operationsAt c₂.currentCode
  rw [hops, if_pos rfl] at hmore
  -- Within the code of one line nothing opens or ends a block before the last operation.
  have hinside : Nested ((c₂.codeOf cmd).take k) := by
    have hsingle {op : Operation} (hcode : c₂.codeOf cmd = [op]) :
        Nested ((c₂.codeOf cmd).take k) := by
      rw [hcode] at hk ⊢
      cases Nat.lt_one_iff.mp hk
      exact .nil
    cases hlined with
    | opens _ hcode => exact hsingle hcode
    | closes _ hcode => exact hsingle hcode
    | plain _ hcode => exact nested_of_plain fun op hop => hcode op (List.mem_of_mem_take hop)
    | leaves _ hcode => simp [hcode] at hk
  rw [← hmore, List.append_assoc]
  constructor
  · rw [List.take_length_add_append, List.take_append_of_le_length (Nat.le_of_lt hk),
      conditions_append, hopen]
    exact hinside.enclose _
  · rw [List.getElem?_append_right (Nat.le_add_right _ _), Nat.add_sub_cancel_left,
      List.getElem?_append_left hk]

end

theorem conditional_blocks :
    -- In any program, a block that is not entered is passed over in as many steps as
    -- it has instructions, and nothing happens but that the current frame moves; a
    -- block that is entered starts at its first instruction, and its end does nothing.
    (∀ p m requirement body, AtBlock p m requirement body →
      (requirement.holds m.current.comparison = false →
        NormalSteps p (body.length + 2) m (m.moved (body.length + 2) 0)) ∧
      (requirement.holds m.current.comparison = true →
        step p m = (m.moved 1 0, .ok .normal) ∧ Ahead p (m.moved 1 0) (body ++ [.endIf]) ∧
        ∀ p' m' guards, Watched m.height p (m.moved 1 0) p' m' guards → m'.height = m.height →
          m'.current.pc = m.current.pc + 1 + body.length →
          step p' m' = (m'.moved 1 0, .ok .normal))) ∧
    -- Every block of a compiled program is such a region, or one of those that the
    -- compiler still has open.
    (∀ c : Compiler, c.Reachable → ∀ id segment before requirement after,
      c.program.segment? id = some segment →
      segment.operations = before ++ .executeIf requirement :: after →
      (∃ body rest, Nested body ∧ after = body ++ .endIf :: rest) ∨
        id = c.currentCode ∧ ∃ outer inner, outer + inner + 1 = c.blocks.length ∧
          OpenBlocks outer before ∧ OpenBlocks inner after) ∧
    -- Along every run of a compiled program, an operation is executed exactly if the
    -- conditions of all blocks around it held when the frame came to them.
    (∀ c : Compiler, c.Reachable → ∀ d p₀ m₀ m guards, Watched d p₀ m₀ c.program m guards →
      Outside p₀ m₀ d → Guarded c.program m d guards ∧
        (d = m.height → ∀ op, m.next? c.program = some op →
          ((∀ g ∈ guards, g.held = true) →
            (step c.program m).1 = (execute c.program m.advance op).1) ∧
          (¬(∀ g ∈ guards, g.held = true) →
            step c.program m = (m.moved 1 (skipAfter m.current.skip op), .ok .normal)))) ∧
    -- The lines of a block, from the command with its condition to the one that ends it,
    -- add one such region to the segment that is open, with the same condition, and the
    -- code of the lines between them is what lies in it.
    (∀ (c c' : Compiler) line line' head last condition body codes, c.Reachable →
      head.kind = .executeIf condition → NestedLines body → last.kind = .endBlock →
      c.CompilesLines ((line, head) :: (body ++ [(line', last)])) codes c' →
      ∃ inner, codes = [.executeIf (.known condition)] :: (inner ++ [[.endIf]]) ∧
        inner.length = body.length ∧
        (∀ id, c'.program.operationsAt id =
          if id = c.currentCode then c.program.operationsAt id ++ codes.flatten
          else c.program.operationsAt id) ∧
        ∀ p m, c'.program.Extends p → m.current.owner = .code c.currentCode →
          m.current.pc = (c.program.operationsAt c.currentCode).length → m.current.skip = 0 →
          AtBlock p m (.known condition) inner.flatten) ∧
    -- Where a frame comes to an operation of a line, the blocks around it are those of the
    -- source around the line, with the conditions of their commands.
    (∀ (c₀ c₁ c₂ c₃ c : Compiler) before line cmd hint codes, c₀.Reachable → c₀.blocks = [] →
      c₀.CompilesLines before codes c₁ → c₁.Registers c₂ →
      c₂.compile line cmd = .ok (hint, c₃) → c.Reachable → c₃.program.Extends c.program →
      cmd.Becomes (c₂.codeOf cmd) ∧
        ∀ d p₀ m₀ m guards k op, Watched d p₀ m₀ c.program m guards → Outside p₀ m₀ d →
          d = m.height → m.current.owner = .code c₂.currentCode →
          m.current.pc = (c₂.program.operationsAt c₂.currentCode).length + k →
          (c₂.codeOf cmd)[k]? = some op →
          m.next? c.program = some op ∧
            guards.map Guard.requirement = (openConditions before).map Requirement.known) := by
  refine ⟨?_, ?_, ?_, ?_, ?_⟩
  · intro p m requirement body hblock
    refine ⟨fun hr => skip_block hblock.skip hblock.ahead hblock.nested hr, fun hr => ?_⟩
    refine ⟨step_enter hblock.skip hblock.ahead hr, hblock.ahead.next 0, ?_⟩
    intro p' m' guards hw hheight hpc
    exact step_end_of_entered hblock.ahead hblock.nested hw hheight hpc
  · intro c hc id segment before requirement after hs hops
    have hopen := hc.balanced id segment hs
    rw [hops] at hopen
    rcases hopen.matched with hmatched | ⟨outer, inner, hcount, hbefore, hafter⟩
    · exact .inl hmatched
    · split at hcount
      · exact .inr ⟨‹_›, outer, inner, hcount, hbefore, hafter⟩
      · omega
  · intro c hc d p₀ m₀ m guards hw hout
    have hnested (id : Nat) (segment : Segment) (hs : c.program.segment? id = some segment) :
        ∃ n, OpenBlocks n segment.operations := ⟨_, hc.balanced id segment hs⟩
    refine ⟨hw.guarded hout hnested, fun hheight op hnext => ?_⟩
    rw [← (hw.current hout hnested hheight).1]
    exact step_next hnext
  · intro c c' line line' head last condition body codes hc hhead hbody hlast hlines
    obtain ⟨inner, rfl, hlength, hnested, hadds⟩ := hlines.block hc hhead hbody hlast
    refine ⟨inner, rfl, hlength, fun id => ?_, fun p m => hadds.atBlock hnested⟩
    simpa using hadds.operations id
  · intro c₀ c₁ c₂ c₃ c before line cmd hint codes hc₀ hclosed hbefore hreg hline hc hp
    refine ⟨Compiler.becomes_of_compile hline, ?_⟩
    intro d p₀ m₀ m guards k op hw hout hheight howner hpc hop
    obtain ⟨hk, -⟩ := List.getElem?_eq_some_iff.mp hop
    obtain ⟨hconditions, hnext⟩ := conditions_line hc₀ hclosed hbefore hreg hline hp hk
    obtain ⟨-, segment, hcode, hguards⟩ := hw.current hout
      (fun id segment hs => ⟨_, hc.balanced id segment hs⟩) hheight
    have hs : c.program.segment? c₂.currentCode = some segment := by
      rw [howner] at hcode
      exact hcode
    have hops : c.program.operationsAt c₂.currentCode = segment.operations := by
      simp [Program.operationsAt, hs]
    rw [hops, ← hpc] at hconditions hnext
    refine ⟨?_, Option.some.inj (hguards.symm.trans hconditions)⟩
    rw [next?, segment?_eq_code?, hcode]
    exact hnext.trans hop

def quittingLines : List (Int × Command) :=
  [(1, { kind := .executeIf .equal }), (2, { kind := .quit }), (3, { kind := .endBlock })]

/-- The compiler after so many operations of that block. -/
def quitting (blocks : List Block) (count : Nat) : Compiler :=
  let code : List Instruction :=
    [⟨.executeIf (.known .equal), 1⟩, ⟨.flush, 2⟩, ⟨.quit, 2⟩, ⟨.endIf, 3⟩]
  { Compiler.new 2 with
    blocks
    program := ⟨#[{ name := "<global>", code := (code.take count).toArray }, { name := "SHOW" }]⟩ }

def openedBlock : Compiler := quitting [{ savedNext := 1 }] 1

/-- A machine at the head of the block that has just found two values equal. -/
def foundEqual : Machine :=
  (Machine.new 2).modifyCurrent fun frame => { frame with comparison := .equal }

theorem compile_openedBlock :
    (Compiler.new 2).compile 1 { kind := .executeIf .equal } = .ok (.opened, openedBlock) := rfl

theorem compile_quit :
    openedBlock.compile 2 { kind := .quit } = .ok (.none, quitting [{ savedNext := 1 }] 3) := rfl

theorem compile_blockEnd : (quitting [{ savedNext := 1 }] 3).compile 3 { kind := .endBlock } =
    .ok (.closed, quitting [] 4) := rfl

theorem compilesLines_quitting : (Compiler.new 2).CompilesLines quittingLines
    [[.executeIf (.known .equal)], [.flush, .quit], [.endIf]] (quitting [] 4) :=
  .cons .none compile_openedBlock
    (.cons .none compile_quit (.cons .none compile_blockEnd (.nil _)))

theorem watched_foundEqual : Watched 0 (quitting [] 4).program foundEqual (quitting [] 4).program
    (foundEqual.moved 1 0) [⟨.known .equal, .equal⟩] :=
  .step .here (rfl : step (quitting [] 4).program foundEqual = (foundEqual.moved 1 0, .ok .normal))
    (by decide)

theorem conditional_blocks_quit :
    (quitting [] 4).Reachable ∧
    AtBlock (quitting [] 4).program (.new 2) (.known .equal) [.flush, .quit] ∧
    NormalSteps (quitting [] 4).program 4 (.new 2) ((Machine.new 2).moved 4 0) ∧
    AtBlock (quitting [] 4).program foundEqual (.known .equal) [.flush, .quit] ∧
    step (quitting [] 4).program foundEqual = (foundEqual.moved 1 0, .ok .normal) ∧
    Outside (quitting [] 4).program foundEqual 0 ∧
    Guarded (quitting [] 4).program (foundEqual.moved 1 0) 0 [⟨.known .equal, .equal⟩] ∧
    (foundEqual.moved 1 0).next? (quitting [] 4).program = some .flush ∧
    [Requirement.known .equal] =
      (openConditions [(1, { kind := .executeIf .equal })]).map .known := by
  have hreachable : (quitting [] 4).Reachable := compilesLines_quitting.reachable (.new 2)
  -- The lines of the block give the region that both machines stand at.
  obtain ⟨inner, hcodes, -, -, hblock⟩ := conditional_blocks.2.2.2.1 (.new 2) (quitting [] 4) 1 3
    { kind := .executeIf .equal } { kind := .endBlock } .equal [(2, { kind := .quit })] _ (.new 2)
    rfl (.plain rfl .nil) rfl compilesLines_quitting
  have hinner : [[.flush, .quit]] = inner := List.append_cancel_right (List.cons.inj hcodes).2
  subst hinner
  have hpass : AtBlock (quitting [] 4).program (.new 2) (.known .equal) [.flush, .quit] :=
    hblock _ _ (.refl _) rfl rfl rfl
  have henter : AtBlock (quitting [] 4).program foundEqual (.known .equal) [.flush, .quit] :=
    hblock _ _ (.refl _) rfl rfl rfl
  have houtside : Outside (quitting [] 4).program foundEqual 0 :=
    ⟨_, _, rfl, rfl, by decide, rfl, rfl⟩
  -- The command within it is reached with the condition of the block.
  have hline := conditional_blocks.2.2.2.2 (.new 2) openedBlock openedBlock _ (quitting [] 4) _ 2
    _ _ _ (.new 2) rfl (.cons .none compile_openedBlock (.nil _)) .none compile_quit hreachable
    (Compiler.widens_compile compile_blockEnd).program
  obtain ⟨hnext, hconditions⟩ :=
    hline.2 0 _ _ _ _ 0 .flush watched_foundEqual houtside (by decide) rfl rfl rfl
  exact ⟨hreachable, hpass, (conditional_blocks.1 _ _ _ _ hpass).1 rfl, henter,
    ((conditional_blocks.1 _ _ _ _ henter).2 rfl).1, houtside,
    (conditional_blocks.2.2.1 _ hreachable _ _ _ _ _ watched_foundEqual houtside).1, hnext,
    hconditions⟩

end Birl
