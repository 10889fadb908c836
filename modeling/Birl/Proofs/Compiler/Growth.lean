import Birl.Proofs.Compiler.Block
import Birl.Proofs.Compiler.Safety
import Birl.Proofs.Machine.Resume

/-!
# Code that later lines leave as it is

A line adds its code to the open function or to the global code. So the code of a
function that was declared and ended never changes again (`Grows.compile`), and calls
only build frames for functions that were declared before them (`Tidy.calls`): where
no block is open, all that the code can call is complete.
-/

namespace Birl

def ScopeHint.after : ScopeHint → Nat → Nat
  | none, depth => depth
  | opened, depth => depth + 1
  | closed, depth => depth - 1

namespace Compiler

/-- The segment of a function that was declared; the entry point has one before. -/
structure Declared (c : Compiler) (id : Nat) : Prop where
  code : ∃ s, c.program.segment? id = some s
  notGlobal : id ≠ globalCode
  entry : id = entryCode → c.hasEntryPoint = true

/-- The function was declared and is not open. -/
structure Closed (c : Compiler) (id : Nat) : Prop where
  declared : c.Declared id
  notOpen : id ≠ c.currentCode

/-- What can be called was declared. -/
structure Tidy (c : Compiler) : Prop where
  functions : ∀ name f id, c.function? name = some f → f.callee = .code id → c.Declared id
  calls : ∀ id s, c.program.segment? id = some s → ∀ code : Int, .newFrame code ∈ s.operations →
    code = -1 ∨ ∃ id' : Nat, code = id' ∧ c.Declared id'

section
variable {c c' c'' : Compiler} {code : List Operation} {hint : ScopeHint}

theorem currentCode_of_depth (h : c.depth = 0) : c.currentCode = globalCode := by
  simp [currentCode, (depth_zero h).2]

theorem Declared.closed {id : Nat} (h : c.Declared id) (hd : c.depth = 0) : c.Closed id :=
  ⟨h, currentCode_of_depth hd ▸ h.notGlobal⟩

-- ---------------------------------------------------------------------------
-- The entry point
-- ---------------------------------------------------------------------------

theorem hasEntryPoint_cons {name : Text} {f : FunctionInfo} (hf : c.function? name = none)
    (hc : c'.functions = (name, f) :: c.functions) (h : c.hasEntryPoint = true) :
    c'.hasEntryPoint = true := by
  have hname : (entryName == name) = false := by
    refine beq_eq_false_iff_ne.mpr fun heq => ?_
    subst heq
    simp [hasEntryPoint, hf] at h
  have hlookup : c'.function? entryName = c.function? entryName := by
    simp [function?, hc, List.lookup_cons, hname]
  rw [hasEntryPoint, hlookup]
  exact h

theorem hasEntryPoint_functions (hc : c'.functions = c.functions) :
    c'.hasEntryPoint = c.hasEntryPoint := by
  simp [hasEntryPoint, function?, hc]

theorem Emits.hasEntryPoint (he : Emits c code c' hint) (h : c.hasEntryPoint = true) :
    c'.hasEntryPoint = true := by
  cases he with
  | assign _ ht =>
    obtain ⟨-, -, hf, -⟩ := ht.keeps
    rw [hasEntryPoint_functions hf]
    exact h
  | openFunction _ hf => exact hasEntryPoint_cons hf rfl h
  | _ => exact h

theorem Declared.mono {id : Nat} (h : c.Declared id) (hp : c.program.Extends c'.program)
    (he : c.hasEntryPoint = true → c'.hasEntryPoint = true) : c'.Declared id := by
  obtain ⟨s, hs⟩ := h.code
  obtain ⟨more, hs'⟩ := hp id s hs
  exact ⟨⟨_, hs'⟩, h.notGlobal, fun hid => he (h.entry hid)⟩

-- ---------------------------------------------------------------------------
-- Functions that are closed
-- ---------------------------------------------------------------------------

theorem headerCode_ne {id : Nat} (h : c.Declared id) {name : Text} (hf : c.function? name = none) :
    id ≠ (headerCode c name).1 ∧ (headerCode c name).2.segment? id = c.program.segment? id := by
  unfold headerCode
  split
  · rename_i hname
    refine ⟨fun hid => ?_, rfl⟩
    have hentry := h.entry hid
    simp [hasEntryPoint, ← hname, hf] at hentry
  · obtain ⟨s, hs⟩ := h.code
    have hne : id ≠ c.program.segments.size := Nat.ne_of_lt (Program.segment?_lt hs)
    exact ⟨hne, by rw [Program.segment?_addSegment, if_neg hne]⟩

theorem Emits.closed (he : Emits c code c' hint) (hp : c.program.Extends c'.program) {id : Nat}
    (h : c.Closed id) : c'.Closed id ∧ c'.program.segment? id = c.program.segment? id := by
  have hdeclared : c'.Declared id := h.declared.mono hp he.hasEntryPoint
  cases he with
  | assign _ ht =>
    obtain ⟨-, hprogram, -, -, hcurrent, -⟩ := ht.keeps
    exact ⟨⟨hdeclared, hcurrent ▸ h.notOpen⟩, by rw [hprogram]⟩
  | openFunction _ hf =>
    obtain ⟨hne, hsegment⟩ := headerCode_ne h.declared hf
    exact ⟨⟨hdeclared, hne⟩, hsegment⟩
  | closeFunction => exact ⟨⟨hdeclared, h.declared.notGlobal⟩, rfl⟩
  | _ => exact ⟨⟨hdeclared, h.notOpen⟩, rfl⟩

/-- From one compiler to a later one no code is lost, and closed functions stay as
they are. -/
structure Grows (c c' : Compiler) : Prop where
  program : c.program.Extends c'.program
  closed : ∀ id, c.Closed id → c'.Closed id ∧ c'.program.segment? id = c.program.segment? id

theorem Grows.refl (c : Compiler) : Grows c c := ⟨.refl _, fun _ h => ⟨h, rfl⟩⟩

theorem Grows.trans (h : Grows c c') (h' : Grows c' c'') : Grows c c'' := by
  refine ⟨h.program.trans h'.program, fun id hid => ?_⟩
  obtain ⟨hclosed, hsegment⟩ := h.closed id hid
  obtain ⟨hclosed', hsegment'⟩ := h'.closed id hclosed
  exact ⟨hclosed', hsegment'.trans hsegment⟩

theorem grows_append {target : Nat} (ht : ∀ id, c.Closed id → id ≠ target)
    (code : List Instruction) : Grows c { c with program := c.program.append target code } := by
  refine ⟨c.program.extends_append target code, fun id h => ?_⟩
  have hdeclared : ({ c with program := c.program.append target code } : Compiler).Declared id :=
    h.declared.mono (c.program.extends_append target code) (fun he => he)
  refine ⟨⟨hdeclared, h.notOpen⟩, ?_⟩
  show (c.program.append target code).segment? id = _
  rw [Program.segment?_append]
  simp [ht id h]

theorem Grows.compile {plugins : Array Plugin} (hsafe : Safe plugins c) {line : Int} {cmd : Command}
    (hc : c.compile line cmd = .ok (hint, c')) : Grows c c' := by
  obtain ⟨code, c₁, hemits, rfl⟩ := compile_ok hc
  obtain ⟨-, -, hextends⟩ := hemits.safe hsafe
  have hprogram := c₁.program.extends_append c.currentCode (code.map fun op => { op, line })
  refine ⟨hextends.trans hprogram, fun id h => ?_⟩
  obtain ⟨hclosed, hsegment⟩ := hemits.closed hextends h
  refine ⟨⟨hclosed.declared.mono hprogram (fun he => he), hclosed.notOpen⟩, ?_⟩
  show (c₁.program.append c.currentCode _).segment? id = _
  rw [Program.segment?_append, hsegment]
  simp [h.notOpen]

theorem Grows.appendEntryCall (c : Compiler) (line : Int) : Grows c (c.appendEntryCall line) :=
  grows_append (fun _ h => h.declared.notGlobal) _

-- ---------------------------------------------------------------------------
-- What is called
-- ---------------------------------------------------------------------------

theorem Straight.newFrame {operand : Int} (h : Straight code) : ¬.newFrame operand ∈ code :=
  fun hmem => nomatch h.inFrame _ hmem

theorem Emits.newFrame (he : Emits c code c' hint) {operand : Int} (h : .newFrame operand ∈ code) :
    ∃ name f, c.function? name = some f ∧ operand = f.callee.frameOperand := by
  cases he with
  | @print op _ code tail hop hprint ht =>
    have hop : op.steers = false := by rcases hop with rfl | rfl <;> rfl
    rcases List.mem_append.mp h with h | h
    · rcases List.mem_append.mp h with h | h
      · exact absurd h (straight_printArguments hop hprint).newFrame
      · rcases ht with rfl | rfl <;> simp at h
    · simp at h
  | assign hv ht => exact absurd h (hv.straight_write _).newFrame
  | giveBack hv =>
    rcases List.mem_append.mp h with h | h
    · exact absurd h hv.straight.newFrame
    · simp at h
  | compare hcompare =>
    rcases List.mem_append.mp h with h | h
    · exact absurd h (straight_comparison hcompare).newFrame
    · simp at h
  | openBlock => simp at h
  | closeBlock => simp at h
  | @call name f _ code hf _ hcode =>
    rw [List.cons_append] at h
    rcases List.mem_cons.mp h with h | h
    · cases h
      exact ⟨name, f, hf, rfl⟩
    · rcases List.mem_append.mp h with h | h
      · exact absurd h (straight_arguments hcode).newFrame
      · have heq := List.mem_singleton.mp h
        unfold callOperation at heq
        split at heq <;> cases heq
  | openFunction => cases h
  | closeFunction => cases h
  | quit => simp at h

theorem tidy_new (requested : Int) : Tidy (.new requested) := by
  refine ⟨nofun, fun id s hs code hcode => ?_⟩
  rw [Program.operations_empty hs] at hcode
  cases hcode

theorem Tidy.of_program (h : Tidy c) (hp : c'.program = c.program)
    (he : c.hasEntryPoint = true → c'.hasEntryPoint = true)
    (hf : ∀ name f id, c'.function? name = some f → f.callee = .code id →
      c.function? name = some f) : Tidy c' := by
  have hextends : c.program.Extends c'.program := hp ▸ .refl _
  refine ⟨fun name f id hfun hid => ?_, fun id s hs code hcode => ?_⟩
  · exact (h.functions name f id (hf name f id hfun hid) hid).mono hextends he
  · rcases h.calls id s (hp ▸ hs) code hcode with hplugin | ⟨id', hid', hdeclared⟩
    · exact .inl hplugin
    · exact .inr ⟨id', hid', hdeclared.mono hextends he⟩

theorem Tidy.declareGlobal (h : Tidy c) {name : Text} {readOnly : Bool} {address : Nat}
    (hd : c.declareGlobal name readOnly = .ok (address, c')) : Tidy c' := by
  obtain ⟨-, symbol, -, hdeclares⟩ := declareGlobal_ok hd
  obtain ⟨-, hp, hf, -⟩ := hdeclares.keeps
  refine h.of_program hp (fun he => hasEntryPoint_functions hf ▸ he) fun name f id hfun _ => ?_
  simpa [function?, hf] using hfun

theorem Tidy.registerPlugin (h : Tidy c) {name : Text} {params : List ParameterKind} {index : Int}
    (hr : c.registerPlugin name params index = .ok c') : Tidy c' := by
  obtain ⟨hnone, -, rfl⟩ := registerPlugin_ok hr
  refine h.of_program rfl (hasEntryPoint_cons hnone rfl) fun name' f id hfun hid => ?_
  rcases function?_cons hfun with rfl | hold
  · cases hid
  · exact hold

theorem Tidy.append (h : Tidy c) {target : Nat} {code : List Instruction}
    (hcode : ∀ operand : Int, .newFrame operand ∈ code.map Instruction.op →
      operand = -1 ∨ ∃ id : Nat, operand = id ∧ c.Declared id) :
    Tidy { c with program := c.program.append target code } := by
  have hmono {id : Nat} (hd : c.Declared id) :
      ({ c with program := c.program.append target code } : Compiler).Declared id :=
    hd.mono (c.program.extends_append target code) (fun he => he)
  refine ⟨fun name f id hfun hid => hmono (h.functions name f id hfun hid), ?_⟩
  intro id s hs operand hop
  have hs : (c.program.append target code).segment? id = some s := hs
  rw [Program.segment?_append] at hs
  obtain ⟨s', hs', rfl⟩ := Option.map_eq_some_iff.mp hs
  have hdeclared : operand = -1 ∨ ∃ id : Nat, operand = id ∧ c.Declared id := by
    split at hop
    · rw [Segment.operations_append] at hop
      rcases List.mem_append.mp hop with hop | hop
      · exact h.calls id s' hs' operand hop
      · exact hcode operand hop
    · exact h.calls id s' hs' operand hop
  exact hdeclared.imp_right fun ⟨id', hid', hd⟩ => ⟨id', hid', hmono hd⟩

theorem declared_header {name : Text} (hbase : Program.empty.Extends c.program)
    (hcode : ∃ s, (headerCode c name).2.segment? (headerCode c name).1 = some s)
    (hp : c'.program = (headerCode c name).2) {kinds : List ParameterKind}
    (hf : c'.functions =
      (name, { name, callee := .code (headerCode c name).1, params := kinds }) :: c.functions) :
    c'.Declared (headerCode c name).1 := by
  -- Both segments of the empty program are there before any function is.
  have hsize : 2 ≤ c.program.segments.size := by
    obtain ⟨more, hs⟩ := hbase entryCode _ rfl
    exact Program.segment?_lt hs
  refine ⟨hp ▸ hcode, ?_, fun hid => ?_⟩
  · unfold headerCode
    split
    · exact (by decide : entryCode ≠ globalCode)
    · intro hzero
      have hzero : c.program.segments.size = 0 := hzero
      omega
  · unfold headerCode at hid hf
    split at hid
    · rename_i hname
      subst hname
      simp [hasEntryPoint, function?, hf]
    · have hid : c.program.segments.size = 1 := hid
      omega

theorem Emits.tidy {plugins : Array Plugin} (he : Emits c code c' hint) (h : Tidy c)
    (hsafe : Safe plugins c) : Tidy c' := by
  have hentry : c.hasEntryPoint = true → c'.hasEntryPoint = true := he.hasEntryPoint
  cases he with
  | assign _ ht =>
    obtain ⟨-, hp, hf, -⟩ := ht.keeps
    exact h.of_program hp hentry fun name f id hfun _ => by simpa [function?, hf] using hfun
  | @openFunction name _ _ _ _ hnone =>
    obtain ⟨hextends, hcode, -⟩ := headerCode_ok hsafe name
    refine ⟨fun name' f id hfun hid => ?_, fun id s hs operand hop => ?_⟩
    · rcases function?_cons hfun with rfl | hold
      · cases hid
        exact declared_header hsafe.base (by simpa [Program.hasCode_iff] using hcode) rfl rfl
      · exact (h.functions name' f id hold hid).mono hextends hentry
    · have hs : (headerCode c name).2.segment? id = some s := hs
      have hold : operand = -1 ∨ ∃ id' : Nat, operand = id' ∧ c.Declared id' := by
        unfold headerCode at hs
        split at hs
        · exact h.calls id s hs operand hop
        · rw [Program.segment?_addSegment] at hs
          split at hs
          · cases hs
            simp [Segment.operations] at hop
          · exact h.calls id s hs operand hop
      refine hold.imp_right ?_
      rintro ⟨id', hid', hd⟩
      exact ⟨id', hid', hd.mono hextends hentry⟩
  | _ => exact h.of_program rfl hentry fun _ _ _ hfun _ => hfun

theorem Tidy.compile {plugins : Array Plugin} (h : Tidy c) (hsafe : Safe plugins c) {line : Int}
    {cmd : Command} (hc : c.compile line cmd = .ok (hint, c')) : Tidy c' := by
  obtain ⟨code, c₁, hemits, rfl⟩ := compile_ok hc
  obtain ⟨-, -, hextends⟩ := hemits.safe hsafe
  refine (hemits.tidy h hsafe).append fun operand hop => ?_
  have hop : .newFrame operand ∈ code := by simpa using hop
  obtain ⟨name, f, hf, rfl⟩ := hemits.newFrame hop
  cases hcallee : f.callee with
  | code id =>
    exact .inr ⟨id, rfl, (h.functions name f id hf hcallee).mono hextends hemits.hasEntryPoint⟩
  | plugin index => exact .inl rfl

-- ---------------------------------------------------------------------------
-- Where no block is open
-- ---------------------------------------------------------------------------

theorem Emits.depth (he : Emits c code c' hint) : c'.depth = hint.after c.depth := by
  cases he with
  | assign _ ht =>
    obtain ⟨-, -, -, -, -, hd⟩ := ht.keeps
    exact hd
  | openBlock =>
    simp only [Compiler.depth, ScopeHint.after, List.length_cons]
    omega
  | closeBlock hb =>
    simp only [Compiler.depth, ScopeHint.after, hb, List.length_cons]
    omega
  | openFunction hd =>
    rw [hd]
    unfold Compiler.depth at hd
    show c.blocks.length + 1 = 0 + 1
    omega
  | closeFunction hf hb => simp [Compiler.depth, ScopeHint.after, hf, hb]
  | _ => rfl

theorem depth_compile {line : Int} {cmd : Command} (hc : c.compile line cmd = .ok (hint, c')) :
    c'.depth = hint.after c.depth := by
  obtain ⟨code, c₁, hemits, rfl⟩ := compile_ok hc
  exact hemits.depth

/-- Where no block is open, what is compiled later only continues the program. -/
theorem Grows.continues {plugins : Array Plugin} (h : Grows c c') (hsafe : Safe plugins c)
    (htidy : Tidy c) (hd : c.depth = 0) : c.program.Continues c'.program := by
  refine ⟨h.program, hsafe.verified.flow, fun id s hs operand hop => ?_⟩
  rcases htidy.calls id s hs operand hop with hplugin | ⟨id', hid', hdeclared⟩
  · exact .inl hplugin
  · obtain ⟨s', hs'⟩ := hdeclared.code
    obtain ⟨-, hsegment⟩ := h.closed id' (hdeclared.closed hd)
    exact .inr ⟨id', hid', hdeclared.notGlobal, s', hs', hsegment.trans hs'⟩

end
end Compiler
end Birl
