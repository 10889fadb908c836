import Birl.Proofs.Compiler.Block
import Birl.Proofs.Compiler.Operands
import Birl.Proofs.Machine.Guard

/-!
# Blocks of lines and blocks of code

The command that opens a block becomes the operation with its condition, the command that
ends one becomes the end, and no other command becomes either (`becomes_of_ok`). So the
lines of a block become the code of one, line by line (`CompilesLines.block`), and the
conditions of the blocks around a line are those of the blocks around its code
(`CompilesLines.conditions`).
-/

namespace Birl

/-- The operations of a segment; none where there is no such segment. -/
def Program.operationsAt (p : Program) (id : Nat) : List Operation :=
  (p.segment? id).elim [] Segment.operations

theorem Program.operationsAt_append {p : Program} {target : Nat} {s : Segment}
    (hs : p.segment? target = some s) (more : List Instruction) (id : Nat) :
    (p.append target more).operationsAt id =
      if id = target then p.operationsAt id ++ more.map Instruction.op else p.operationsAt id := by
  rw [operationsAt, segment?_append]
  split
  · rename_i hid
    subst hid
    simp [operationsAt, hs]
  · rw [Option.map_id']
    rfl

theorem Program.operationsAt_addSegment (p : Program) (name : Text) (id : Nat) :
    (p.addSegment name).2.operationsAt id = p.operationsAt id := by
  rw [operationsAt, segment?_addSegment]
  split
  · rename_i hid
    have hnone : p.segment? id = none := by
      cases hs : p.segment? id with
      | none => rfl
      | some s => exact absurd (hid ▸ segment?_lt hs) (Nat.lt_irrefl _)
    simp [operationsAt, hnone, Segment.operations]
  · rfl

theorem Program.Extends.operationsAt {p p' : Program} (h : p.Extends p') (id : Nat) :
    p.operationsAt id <+: p'.operationsAt id := by
  cases hs : p.segment? id with
  | none => simp [Program.operationsAt, hs]
  | some s =>
    obtain ⟨more, hs'⟩ := h id s hs
    simp [Program.operationsAt, hs, hs']

-- ---------------------------------------------------------------------------
-- Blocks of lines
-- ---------------------------------------------------------------------------

/-- The conditions of the blocks that are open after a command, the innermost first. -/
def Command.enclose (enclosing : List Condition) (cmd : Command) : List Condition :=
  match cmd.kind with
  | .executeIf condition => condition :: enclosing
  | .endBlock => enclosing.tail
  | _ => enclosing

/-- The conditions of the blocks that lines leave open, the innermost first. -/
def openConditions (lines : List (Int × Command)) : List Condition :=
  lines.foldl (fun enclosing line => line.2.enclose enclosing) []

def CommandKind.boundsBlock : CommandKind → Bool
  | .executeIf _ | .endBlock => true
  | _ => false

/-- Lines in which every block has its end. -/
inductive NestedLines : List (Int × Command) → Prop
  | nil : NestedLines []
  | plain {line : Int} {cmd : Command} {rest : List (Int × Command)}
      (hk : cmd.kind.boundsBlock = false) (hr : NestedLines rest) :
      NestedLines ((line, cmd) :: rest)
  | block {line line' : Int} {head last : Command} {body rest : List (Int × Command)}
      {condition : Condition} (hh : head.kind = .executeIf condition) (hl : last.kind = .endBlock)
      (hb : NestedLines body) (hr : NestedLines rest) :
      NestedLines ((line, head) :: (body ++ (line', last) :: rest))

/-- What a command is said to become, as far as blocks go. -/
def Command.Becomes (cmd : Command) (code : List Operation) : Prop :=
  match cmd.kind with
  | .executeIf condition => code = [.executeIf (.known condition)]
  | .endBlock => code = [.endIf]
  | _ => ∀ op ∈ code, op.boundsBlock = false

namespace Compiler

-- ---------------------------------------------------------------------------
-- One line
-- ---------------------------------------------------------------------------

section
variable {c c' : Compiler} {cmd : Command} {code : List Operation} {compiled : Compiled}
  {line : Int} {hint : ScopeHint} {condition : Condition}

theorem Emits.plain (h : Emits c code c' .none) : ∀ op ∈ code, op.boundsBlock = false := by
  have hblocks : c'.blocks.length = c.blocks.length := by
    cases h with
    | assign _ ht => exact ht.keeps.2.2.2.1
    | _ => rfl
  cases h.bounds with
  | straight hcode => exact hcode
  | opens _ _ hb => omega
  | closes _ hb => omega
  | leaves => exact List.forall_mem_nil _

theorem becomes_of_ok (h : c.compileCommand cmd = .ok compiled) : cmd.Becomes compiled.code := by
  have hemits := emits_of_ok h
  have hplain (hn : compiled.hint = .none) : ∀ op ∈ compiled.code, op.boundsBlock = false :=
    Emits.plain (hn ▸ hemits)
  unfold Command.Becomes
  cases hk : cmd.kind with simp only [compileCommand, hk] at h ⊢
  | print | printLine | printDebug =>
    simp only [compilePrint, bind_ok, pure_ok] at h
    obtain ⟨_, -, rfl⟩ := h
    exact hplain rfl
  | declare =>
    simp only [compileDeclare, bind_ok, pure_ok] at h
    obtain ⟨_, -, _, -, rfl⟩ := h
    exact hplain rfl
  | set =>
    simp only [compileSet, bind_ok, pure_ok] at h
    obtain ⟨_, -, _, -, _, -, rfl⟩ := h
    exact hplain rfl
  | returnValue =>
    simp only [compileReturn, bind_ok, pure_ok] at h
    obtain ⟨_, -, rfl⟩ := h
    exact hplain rfl
  | compare =>
    simp only [compileCompare, bind_ok, pure_ok] at h
    obtain ⟨_, -, _, -, rfl⟩ := h
    exact hplain rfl
  | executeIf condition =>
    cases h
    rfl
  | endBlock =>
    unfold compileEndBlock at h
    split at h
    · cases h
    · cases h
      rfl
  | call =>
    unfold compileCall at h
    split at h
    · cases h
    · simp only [check_ok, bind_ok, pure_ok] at h
      obtain ⟨-, _, -, rfl⟩ := h
      exact hplain rfl
  | functionStart =>
    simp only [compileFunctionStart, check_ok, bind_ok, pure_ok] at h
    obtain ⟨-, -, -, -, _, -, rfl⟩ := h
    exact List.forall_mem_nil _
  | functionEnd =>
    unfold compileFunctionEnd at h
    split at h
    · cases h
    · split at h
      · cases h
        exact List.forall_mem_nil _
      · cases h
  | quit =>
    cases h
    exact hplain rfl
  | input kind =>
    simp only [compileInput, bind_ok] at h
    obtain ⟨_, -, h⟩ := h
    split at h
    · simp only [check_ok, pure_ok] at h
      obtain ⟨-, rfl⟩ := h
      exact hplain rfl
    · simp only [bind_ok, pure_ok] at h
      obtain ⟨_, -, rfl⟩ := h
      exact hplain rfl
  | convert kind =>
    simp only [compileConversion, bind_ok, pure_ok] at h
    obtain ⟨_, -, _, -, rfl⟩ := h
    exact hplain rfl
  | unknown code => cases h

theorem Emits.currentSegment (he : Emits c code c' hint) (hb : Program.empty.Extends c.program)
    (h : ∃ s, c.program.segment? c.currentCode = some s) :
    ∃ s, c'.program.segment? c'.currentCode = some s := by
  cases he with
  | assign _ ht =>
    obtain ⟨-, hp, -, -, hcode, -⟩ := ht.keeps
    rw [hp, hcode]
    exact h
  | openFunction => exact (Program.hasCode_iff _ _).mp (headerCode_known hb _).2
  | closeFunction =>
    obtain ⟨more, hglobal⟩ := hb globalCode _ rfl
    exact ⟨_, hglobal⟩
  | _ => exact h

theorem Reachable.currentSegment (h : Reachable c) : ∃ s, c.program.segment? c.currentCode = some s := by
  have hextends {p p' : Program} {id : Nat} (hp : p.Extends p') (h : ∃ s, p.segment? id = some s) :
      ∃ s, p'.segment? id = some s := by
    obtain ⟨s, hs⟩ := h
    obtain ⟨more, hs'⟩ := hp id s hs
    exact ⟨_, hs'⟩
  induction h with
  | new => exact ⟨_, rfl⟩
  | compile h hc ih =>
    obtain ⟨code, c₁, hemits, rfl⟩ := compile_ok hc
    exact hextends (c₁.program.extends_append _ _) (hemits.currentSegment h.base ih)
  | declareGlobal _ hd ih =>
    obtain ⟨-, symbol, -, hdeclares⟩ := declareGlobal_ok hd
    obtain ⟨-, hp, -, -, hcode, -⟩ := hdeclares.keeps
    rw [hp, hcode]
    exact ih
  | registerPlugin _ hp ih =>
    obtain ⟨-, -, rfl⟩ := registerPlugin_ok hp
    exact ih
  | @appendEntryCall c line _ ih => exact hextends (c.program.extends_append _ _) ih

theorem Bounds.operationsAt (h : Bounds c code c') (id : Nat) :
    c'.program.operationsAt id = c.program.operationsAt id := by
  cases h with
  | straight _ hp => rw [hp]
  | opens _ hp => rw [hp]
  | closes hp => rw [hp]
  | leaves _ _ hp =>
    rcases hp with hp | ⟨name, hp⟩
    · rw [hp]
    · rw [hp, Program.operationsAt_addSegment]

/-- What a command becomes; nothing where it cannot be compiled. -/
def codeOf (c : Compiler) (cmd : Command) : List Operation :=
  (c.compileCommand cmd).toOption.elim [] Compiled.code

/-- What a line does to the blocks. Only the code and the scopes outside of every block change with
the segment. -/
inductive Lined (c : Compiler) (cmd : Command) (c' : Compiler) : Prop
  | opens {condition : Condition} (hk : cmd.kind = .executeIf condition)
      (hcode : c.codeOf cmd = [.executeIf (.known condition)])
      (hb : c'.blocks.length = c.blocks.length + 1) (hc : c'.currentCode = c.currentCode)
  | closes (hk : cmd.kind = .endBlock) (hcode : c.codeOf cmd = [.endIf])
      (hb : c.blocks.length = c'.blocks.length + 1) (hc : c'.currentCode = c.currentCode)
  | plain (hk : cmd.kind.boundsBlock = false) (hcode : ∀ op ∈ c.codeOf cmd, op.boundsBlock = false)
      (hb : c'.blocks.length = c.blocks.length) (hc : c'.currentCode = c.currentCode)
  | leaves (hk : cmd.kind.boundsBlock = false) (hcode : c.codeOf cmd = []) (hb : c.blocks = [])
      (hb' : c'.blocks = [])

theorem Lined.head (h : Lined c cmd c') (hk : cmd.kind = .executeIf condition) :
    c.codeOf cmd = [.executeIf (.known condition)] ∧ c'.blocks.length = c.blocks.length + 1 ∧
      c'.currentCode = c.currentCode := by
  cases h with
  | opens hk' hcode hb hc =>
    cases hk.symm.trans hk'
    exact ⟨hcode, hb, hc⟩
  | closes hk' => cases hk.symm.trans hk'
  | plain hk' => simp [hk, CommandKind.boundsBlock] at hk'
  | leaves hk' => simp [hk, CommandKind.boundsBlock] at hk'

theorem Lined.last (h : Lined c cmd c') (hk : cmd.kind = .endBlock) :
    c.codeOf cmd = [.endIf] ∧ c.blocks.length = c'.blocks.length + 1 ∧
      c'.currentCode = c.currentCode := by
  cases h with
  | opens hk' => cases hk.symm.trans hk'
  | closes _ hcode hb hc => exact ⟨hcode, hb, hc⟩
  | plain hk' => simp [hk, CommandKind.boundsBlock] at hk'
  | leaves hk' => simp [hk, CommandKind.boundsBlock] at hk'

theorem Lined.inside (h : Lined c cmd c') (hk : cmd.kind.boundsBlock = false)
    (hopen : 0 < c.blocks.length) :
    (∀ op ∈ c.codeOf cmd, op.boundsBlock = false) ∧ c'.blocks.length = c.blocks.length ∧
      c'.currentCode = c.currentCode := by
  cases h with
  | opens hk' => simp [hk', CommandKind.boundsBlock] at hk
  | closes hk' => simp [hk', CommandKind.boundsBlock] at hk
  | plain _ hcode hb hc => exact ⟨hcode, hb, hc⟩
  | leaves _ _ hb => simp [hb] at hopen

theorem codeOf_ok (h : c.compileCommand cmd = .ok compiled) : c.codeOf cmd = compiled.code := by
  rw [codeOf, h]
  rfl

theorem lined_of_ok (h : c.compileCommand cmd = .ok compiled) : Lined c cmd compiled.compiler := by
  have hbecomes := becomes_of_ok h
  have hbounds := (emits_of_ok h).bounds
  have hcode := codeOf_ok h
  unfold Command.Becomes at hbecomes
  generalize compiled.code = code at hbecomes hbounds hcode
  generalize compiled.compiler = c' at hbounds
  cases hbounds with
  | straight hplain hp hb hc =>
    have hne {op : Operation} (hop : op.boundsBlock = true) : code ≠ [op] := by
      rintro rfl
      simp [hop] at hplain
    cases hk : cmd.kind with simp only [hk] at hbecomes
    | executeIf condition => exact absurd hbecomes (hne rfl)
    | endBlock => exact absurd hbecomes (hne rfl)
    | _ => exact .plain (by rw [hk]; rfl) (hcode ▸ hplain) hb hc
  | opens requirement hp hb hc =>
    cases hk : cmd.kind with simp only [hk] at hbecomes
    | executeIf condition => exact .opens hk (hcode.trans hbecomes) hb hc
    | endBlock => cases hbecomes
    | _ => simp [Operation.boundsBlock] at hbecomes
  | closes hp hb hc =>
    cases hk : cmd.kind with simp only [hk] at hbecomes
    | executeIf condition => cases hbecomes
    | endBlock => exact .closes hk hcode hb hc
    | _ => simp [Operation.boundsBlock] at hbecomes
  | leaves hb hb' hp =>
    cases hk : cmd.kind with simp only [hk] at hbecomes
    | executeIf condition => cases hbecomes
    | endBlock => cases hbecomes
    | _ => exact .leaves (by rw [hk]; rfl) hcode hb hb'

theorem becomes_of_compile (h : c.compile line cmd = .ok (hint, c')) :
    cmd.Becomes (c.codeOf cmd) := by
  unfold compile at h
  split at h
  · cases h
  · rename_i hcompiled
    rw [codeOf_ok hcompiled]
    exact becomes_of_ok hcompiled

/-- A line that is compiled adds its code to the segment that is open, and to no other. -/
theorem Reachable.compile_adds (h : Reachable c) (hc : c.compile line cmd = .ok (hint, c')) :
    Lined c cmd c' ∧ ∀ id, c'.program.operationsAt id =
      if id = c.currentCode then c.program.operationsAt id ++ c.codeOf cmd
      else c.program.operationsAt id := by
  rw [Compiler.compile] at hc
  cases hcompiled : c.compileCommand cmd with
  | error fault => simp [hcompiled] at hc
  | ok compiled =>
    simp only [hcompiled, Except.ok.injEq, Prod.mk.injEq] at hc
    obtain ⟨-, rfl⟩ := hc
    have hemits := emits_of_ok hcompiled
    obtain ⟨s, hs⟩ := h.currentSegment
    obtain ⟨more, hs'⟩ := hemits.widens.program _ s hs
    have hlined : Lined c cmd { compiled.compiler with
        program := compiled.compiler.program.append c.currentCode
          (compiled.code.map fun op => { op, line }) } := by
      cases lined_of_ok hcompiled with
      | opens hk hcode hb hc => exact .opens hk hcode hb hc
      | closes hk hcode hb hc => exact .closes hk hcode hb hc
      | plain hk hcode hb hc => exact .plain hk hcode hb hc
      | leaves hk hcode hb hb' => exact .leaves hk hcode hb hb'
    refine ⟨hlined, fun id => ?_⟩
    have hops : (compiled.code.map fun op => ({ op, line } : Instruction)).map Instruction.op =
        compiled.code := by
      rw [List.map_map]
      exact List.map_id _
    have hadded := Program.operationsAt_append hs' (compiled.code.map fun op => { op, line }) id
    rw [hops, hemits.bounds.operationsAt] at hadded
    rw [codeOf_ok hcompiled]
    exact hadded

end

-- ---------------------------------------------------------------------------
-- Lines
-- ---------------------------------------------------------------------------

/-- Registrations of the host, which can come between two lines. -/
inductive Registers (c : Compiler) : Compiler → Prop
  | none : Registers c c
  | declareGlobal {c₁ c₂ : Compiler} {name : Text} {readOnly : Bool} {address : Nat}
      (h : Registers c c₁) (hd : c₁.declareGlobal name readOnly = .ok (address, c₂)) :
      Registers c c₂
  | registerPlugin {c₁ c₂ : Compiler} {name : Text} {params : List ParameterKind} {index : Int}
      (h : Registers c c₁) (hp : c₁.registerPlugin name params index = .ok c₂) : Registers c c₂

/-- Lines compiled one after the other, the code of each, and the compiler after them. -/
inductive CompilesLines : Compiler → List (Int × Command) → List (List Operation) → Compiler → Prop
  | nil (c : Compiler) : CompilesLines c [] [] c
  | cons {c c₁ c₂ c₃ : Compiler} {line : Int} {cmd : Command} {hint : ScopeHint}
      {rest : List (Int × Command)} {codes : List (List Operation)} (hr : c.Registers c₁)
      (hc : c₁.compile line cmd = .ok (hint, c₂)) (h : CompilesLines c₂ rest codes c₃) :
      CompilesLines c ((line, cmd) :: rest) (c₁.codeOf cmd :: codes) c₃

section
variable {c c' : Compiler} {lines lines' : List (Int × Command)} {codes : List (List Operation)}

theorem Registers.reachable (h : Registers c c') (hr : Reachable c) : Reachable c' := by
  induction h with
  | none => exact hr
  | declareGlobal _ hd ih => exact .declareGlobal ih hd
  | registerPlugin _ hp ih => exact .registerPlugin ih hp

theorem Registers.keeps (h : Registers c c') :
    c'.program = c.program ∧ c'.blocks.length = c.blocks.length ∧
      c'.currentCode = c.currentCode := by
  induction h with
  | none => exact ⟨rfl, rfl, rfl⟩
  | declareGlobal _ hd ih =>
    obtain ⟨-, symbol, -, hdeclares⟩ := declareGlobal_ok hd
    obtain ⟨-, hp, -, hb, hc, -⟩ := hdeclares.keeps
    rw [hp, hb, hc]
    exact ih
  | registerPlugin _ hp ih =>
    obtain ⟨-, -, rfl⟩ := registerPlugin_ok hp
    exact ih

theorem CompilesLines.reachable (h : CompilesLines c lines codes c') (hr : Reachable c) :
    Reachable c' := by
  induction h with
  | nil => exact hr
  | cons hreg hc _ ih => exact ih (.compile (hreg.reachable hr) hc)

theorem CompilesLines.length_codes (h : CompilesLines c lines codes c') :
    codes.length = lines.length := by
  induction h with
  | nil => rfl
  | cons _ _ _ ih => simp [ih]

theorem compilesLines_append :
    CompilesLines c (lines ++ lines') codes c' ↔ ∃ c₁ first second, codes = first ++ second ∧
      CompilesLines c lines first c₁ ∧ CompilesLines c₁ lines' second c' := by
  induction lines generalizing c codes with
  | nil =>
    constructor
    · exact fun h => ⟨c, [], codes, rfl, .nil c, h⟩
    · rintro ⟨c₁, first, second, rfl, hfirst, hsecond⟩
      cases hfirst
      exact hsecond
  | cons line rest ih =>
    constructor
    · intro h
      cases h with
      | cons hreg hc h =>
        obtain ⟨c₁, first, second, rfl, hfirst, hsecond⟩ := ih.mp h
        exact ⟨c₁, _, second, rfl, .cons hreg hc hfirst, hsecond⟩
    · rintro ⟨c₁, first, second, rfl, hfirst, hsecond⟩
      cases hfirst with
      | cons hreg hc h => exact .cons hreg hc (ih.mpr ⟨c₁, _, second, rfl, h, hsecond⟩)

/-- What lines within a block add to the segment that is open. -/
structure AddsNested (c : Compiler) (code : List Operation) (c' : Compiler) : Prop where
  nested : Nested code
  blocks : c'.blocks.length = c.blocks.length
  current : c'.currentCode = c.currentCode
  operations : ∀ id, c'.program.operationsAt id =
    if id = c.currentCode then c.program.operationsAt id ++ code else c.program.operationsAt id

theorem AddsNested.trans {c₁ : Compiler} {code code' : List Operation} (h : AddsNested c code c₁)
    (h' : AddsNested c₁ code' c') : AddsNested c (code ++ code') c' := by
  refine ⟨h.nested.append h'.nested, h'.blocks.trans h.blocks, h'.current.trans h.current,
    fun id => ?_⟩
  rw [h'.operations, h.operations, h.current]
  split <;> simp

theorem Registers.adds (h : Registers c c') : AddsNested c [] c' := by
  obtain ⟨hp, hb, hc⟩ := h.keeps
  exact ⟨.nil, hb, hc, fun id => by simp [hp]⟩

theorem AddsNested.line {c₁ : Compiler} {line : Int} {cmd : Command} {hint : ScopeHint}
    (h : Reachable c) (hreg : c.Registers c₁) (hc : c₁.compile line cmd = .ok (hint, c'))
    (hk : cmd.kind.boundsBlock = false) (hopen : 0 < c.blocks.length) :
    AddsNested c (c₁.codeOf cmd) c' := by
  obtain ⟨hlined, hops⟩ := (hreg.reachable h).compile_adds hc
  obtain ⟨hcode, hb, hcur⟩ := hlined.inside hk (hreg.adds.blocks ▸ hopen)
  exact hreg.adds.trans ⟨nested_of_plain hcode, hb, hcur, hops⟩

theorem AddsNested.block {c₁ c₂ c₃ c₄ : Compiler} {line line' : Int} {head last : Command}
    {hint hint' : ScopeHint} {condition : Condition} {code : List Operation} (h : Reachable c)
    (hreg : c.Registers c₁) (hh : head.kind = .executeIf condition)
    (hc : c₁.compile line head = .ok (hint, c₂)) (hbody : AddsNested c₂ code c₃)
    (h₃ : Reachable c₃) (hreg' : c₃.Registers c₄) (hl : last.kind = .endBlock)
    (hc' : c₄.compile line' last = .ok (hint', c')) :
    c₁.codeOf head = [.executeIf (.known condition)] ∧ c₄.codeOf last = [.endIf] ∧
      AddsNested c (.executeIf (.known condition) :: (code ++ [.endIf])) c' := by
  obtain ⟨hopens, hops⟩ := (hreg.reachable h).compile_adds hc
  obtain ⟨hcloses, hops'⟩ := (hreg'.reachable h₃).compile_adds hc'
  obtain ⟨hcode, hb, hcur⟩ := hopens.head hh
  obtain ⟨hcode', hb', hcur'⟩ := hcloses.last hl
  have hinner := hbody.trans hreg'.adds
  have hblocks := hinner.blocks
  have hblock : AddsNested c₁ (.executeIf (.known condition) :: (code ++ [.endIf])) c' := by
    refine ⟨.block hbody.nested .nil, by omega, (hcur'.trans hinner.current).trans hcur,
      fun id => ?_⟩
    rw [hops', hinner.operations, hops, hinner.current, hcur, hcode, hcode']
    split <;> simp
  exact ⟨hcode, hcode', hreg.adds.trans hblock⟩

theorem Reachable.compile_opens {line : Int} {head : Command} {hint : ScopeHint}
    {condition : Condition} (h : Reachable c) (hh : head.kind = .executeIf condition)
    (hc : c.compile line head = .ok (hint, c')) : 0 < c'.blocks.length := by
  obtain ⟨-, hb, -⟩ := (h.compile_adds hc).1.head hh
  omega

theorem CompilesLines.nested (hn : NestedLines lines) (h : CompilesLines c lines codes c')
    (hr : Reachable c) (hopen : 0 < c.blocks.length) : AddsNested c codes.flatten c' := by
  induction hn generalizing c c' codes with
  | nil =>
    cases h
    exact ⟨.nil, rfl, rfl, fun id => by simp⟩
  | plain hk _ ih =>
    cases h with
    | cons hreg hc h =>
      have hline := AddsNested.line hr hreg hc hk hopen
      exact hline.trans (ih h (.compile (hreg.reachable hr) hc) (hline.blocks ▸ hopen))
  | block hh hl _ _ ihb ihr =>
    cases h with
    | cons hreg hc h =>
      obtain ⟨c₂, inner, outer, rfl, hbody, hrest⟩ := compilesLines_append.mp h
      cases hrest with
      | cons hreg' hc' hrest =>
        have hr₀ := hreg.reachable hr
        have hr₁ := Reachable.compile hr₀ hc
        have hr₂ := hbody.reachable hr₁
        have hinner := ihb hbody hr₁ (hr₀.compile_opens hh hc)
        obtain ⟨hcode, hcode', hblock⟩ := AddsNested.block hr hreg hh hc hinner hr₂ hreg' hl hc'
        have hr₃ := Reachable.compile (hreg'.reachable hr₂) hc'
        have hall := hblock.trans (ihr hrest hr₃ (hblock.blocks ▸ hopen))
        simp only [List.flatten_cons, List.flatten_append, hcode, hcode']
        simpa using hall

/-- The lines of a block become the code of one, that of the lines within it in the middle. -/
theorem CompilesLines.block {line line' : Int} {head last : Command} {condition : Condition}
    {body : List (Int × Command)} (hr : Reachable c) (hh : head.kind = .executeIf condition)
    (hn : NestedLines body) (hl : last.kind = .endBlock)
    (h : CompilesLines c ((line, head) :: (body ++ [(line', last)])) codes c') :
    ∃ inner, codes = [.executeIf (.known condition)] :: (inner ++ [[.endIf]]) ∧
      inner.length = body.length ∧ Nested inner.flatten ∧
      AddsNested c (.executeIf (.known condition) :: (inner.flatten ++ [.endIf])) c' := by
  cases h with
  | cons hreg hc h =>
    obtain ⟨c₂, inner, outer, rfl, hbody, hrest⟩ := compilesLines_append.mp h
    cases hrest with
    | cons hreg' hc' hrest =>
      cases hrest
      have hr₀ := hreg.reachable hr
      have hr₁ := Reachable.compile hr₀ hc
      have hinner := hbody.nested hn hr₁ (hr₀.compile_opens hh hc)
      obtain ⟨hcode, hcode', hblock⟩ :=
        AddsNested.block hr hreg hh hc hinner (hbody.reachable hr₁) hreg' hl hc'
      exact ⟨inner, by rw [hcode, hcode'], hbody.length_codes, hinner.nested, hblock⟩

-- ---------------------------------------------------------------------------
-- Conditions
-- ---------------------------------------------------------------------------

theorem Reachable.enclosing (h : Reachable c) :
    ∃ enclosing, Birl.conditions (c.program.operationsAt c.currentCode) = some enclosing ∧
      enclosing.length = c.blocks.length := by
  obtain ⟨s, hs⟩ := h.currentSegment
  have hopen := h.balanced _ s hs
  rw [if_pos rfl] at hopen
  simpa [Program.operationsAt, hs] using hopen.conditions

theorem enclose_plain {cmd : Command} (hk : cmd.kind.boundsBlock = false)
    (enclosing : List Condition) : cmd.enclose enclosing = enclosing := by
  unfold Command.enclose
  cases h : cmd.kind with
  | executeIf condition => simp [h, CommandKind.boundsBlock] at hk
  | endBlock => simp [h, CommandKind.boundsBlock] at hk
  | _ => rfl

theorem Reachable.enclosing_compile {line : Int} {cmd : Command} {hint : ScopeHint}
    (hr : Reachable c) (hcompile : c.compile line cmd = .ok (hint, c'))
    {enclosing : List Condition}
    (hc : Birl.conditions (c.program.operationsAt c.currentCode) =
      some (enclosing.map Requirement.known)) :
    Birl.conditions (c'.program.operationsAt c'.currentCode) =
      some ((cmd.enclose enclosing).map Requirement.known) := by
  obtain ⟨hlined, hops⟩ := hr.compile_adds hcompile
  have hlength : enclosing.length = c.blocks.length := by
    obtain ⟨requirements, hrequirements, hlength⟩ := hr.enclosing
    cases hc.symm.trans hrequirements
    simpa using hlength
  cases hlined with
  | opens hk hcode _ hcur =>
    rw [hcur, hops, if_pos rfl, hcode, conditions_append, hc]
    simp [Operation.enclose, Command.enclose, hk]
  | closes hk hcode hb hcur =>
    rw [hcur, hops, if_pos rfl, hcode, conditions_append, hc]
    cases enclosing with
    | nil => simp [← hlength] at hb
    | cons condition outer => simp [Operation.enclose, Command.enclose, hk]
  | plain hk hcode _ hcur =>
    rw [hcur, hops, if_pos rfl, conditions_append, hc, enclose_plain hk]
    exact (nested_of_plain hcode).enclose _
  | leaves hk _ hb hb' =>
    obtain ⟨requirements, hrequirements, hnone⟩ := (Reachable.compile hr hcompile).enclosing
    rw [hb', List.length_nil, List.length_eq_zero_iff] at hnone
    rw [hb, List.length_nil, List.length_eq_zero_iff] at hlength
    rw [hrequirements, hnone, enclose_plain hk, hlength]
    rfl

theorem CompilesLines.enclose (h : CompilesLines c lines codes c') (hr : Reachable c)
    {enclosing : List Condition}
    (hc : Birl.conditions (c.program.operationsAt c.currentCode) =
      some (enclosing.map Requirement.known)) :
    Birl.conditions (c'.program.operationsAt c'.currentCode) = some
      ((lines.foldl (fun enclosing line => line.2.enclose enclosing) enclosing).map
        Requirement.known) := by
  induction h generalizing enclosing with
  | nil => exact hc
  | cons hreg hcompile _ ih =>
    have hr₁ := hreg.reachable hr
    obtain ⟨hp, -, hcur⟩ := hreg.keeps
    exact ih (.compile hr₁ hcompile) (hr₁.enclosing_compile hcompile (by rw [hp, hcur]; exact hc))

/-- The conditions of the blocks around a line are those of the blocks around its code. -/
theorem CompilesLines.conditions (h : CompilesLines c lines codes c') (hr : Reachable c)
    (hclosed : c.blocks = []) :
    Birl.conditions (c'.program.operationsAt c'.currentCode) =
      some ((openConditions lines).map Requirement.known) := by
  obtain ⟨requirements, hrequirements, hnone⟩ := hr.enclosing
  rw [hclosed, List.length_nil, List.length_eq_zero_iff] at hnone
  rw [hnone] at hrequirements
  exact @CompilesLines.enclose _ _ _ _ h hr [] hrequirements

end
end Compiler
end Birl
