import Birl.Proofs.Compiler.Block
import Birl.Proofs.Compiler.Safety

/-!
# What instructions refer to

Every instruction of a compiled program refers to slots that frames have, to code
that is there, and to plugins and parameters of functions that were declared
(`Reachable.refers`). Nothing that a line refers to goes away later (`Widens`).
-/

namespace Birl

/-- What the operand of an instruction stands for is known to the compiler. -/
def Operation.Refers (c : Compiler) : Operation → Prop
  | .readLocal operand | .writeLocal operand | .readGlobal operand | .writeGlobal operand =>
    0 ≤ operand ∧ operand < c.frameSize
  -- Slot 0 of a new frame is kept for results.
  | .writeArgument operand => 1 ≤ operand ∧ operand < c.frameSize
  | .newFrame code => code = -1 ∨ (code ≠ globalCode ∧ c.program.hasCode code = true)
  | .callPlugin index =>
    0 ≤ index ∧ ∃ name f, c.function? name = some f ∧ f.callee = .plugin index
  | .assertKind kind => ∃ name f, c.function? name = some f ∧ kind ∈ f.params
  | .executeIf requirement => ∃ condition, requirement = .known condition
  | .unknown _ => False
  | _ => True

/-- A function that can be called: its parameters fit into a frame, and its code is
there. -/
structure FunctionInfo.Known (c : Compiler) (f : FunctionInfo) : Prop where
  fits : f.params.length < c.frameSize
  code : ∀ id, f.callee = .code id → id ≠ globalCode ∧ c.program.hasCode id = true

namespace Compiler

/-- From one compiler to a later one no code and no function is lost. -/
structure Widens (c c' : Compiler) : Prop where
  frameSize : c'.frameSize = c.frameSize
  program : c.program.Extends c'.program
  functions : ∀ name f, c.function? name = some f → c'.function? name = some f

section
variable {c c' c'' : Compiler} {code : List Operation} {hint : ScopeHint} {op : Operation}

theorem Widens.refl (c : Compiler) : Widens c c := ⟨rfl, .refl _, fun _ _ h => h⟩

theorem Widens.trans (h : Widens c c') (h' : Widens c' c'') : Widens c c'' :=
  ⟨h'.frameSize.trans h.frameSize, h.program.trans h'.program,
    fun name f hf => h'.functions name f (h.functions name f hf)⟩

theorem Widens.refers (h : Widens c c') (hop : op.Refers c) : op.Refers c' := by
  cases op with
  | newFrame code =>
    exact hop.imp_right fun ⟨hne, hcode⟩ => ⟨hne, hasCode_extends h.program hcode⟩
  | callPlugin index =>
    obtain ⟨hi, name, f, hf, hcallee⟩ := hop
    exact ⟨hi, name, f, h.functions name f hf, hcallee⟩
  | assertKind kind =>
    obtain ⟨name, f, hf, hkind⟩ := hop
    exact ⟨name, f, h.functions name f hf, hkind⟩
  | readLocal | writeLocal | readGlobal | writeGlobal | writeArgument =>
    exact ⟨hop.1, by rw [h.frameSize]; exact hop.2⟩
  | _ => exact hop

theorem Widens.known (h : Widens c c') {f : FunctionInfo} (hf : f.Known c) : f.Known c' :=
  ⟨by rw [h.frameSize]; exact hf.fits,
    fun id hid => ⟨(hf.code id hid).1, hasCode_extends h.program (hf.code id hid).2⟩⟩

theorem widens_append (c : Compiler) (target : Nat) (code : List Instruction) :
    Widens c { c with program := c.program.append target code } :=
  ⟨rfl, c.program.extends_append target code, fun _ _ h => h⟩

theorem function?_added {name : Text} {f : FunctionInfo} (hf : c.function? name = none) {name' : Text}
    {f' : FunctionInfo} (h : c.function? name' = some f') :
    ((name, f) :: c.functions).lookup name' = some f' := by
  have hne : (name' == name) = false := by
    refine beq_eq_false_iff_ne.mpr fun heq => ?_
    rw [heq, hf] at h
    cases h
  rw [List.lookup_cons, hne]
  exact h

theorem widens_declares {name : Text} {readOnly : Bool} {symbol : Symbol}
    (h : Declares c name readOnly symbol c') : Widens c c' := by
  obtain ⟨hsize, hprogram, hfunctions, -⟩ := h.keeps
  exact ⟨hsize, hprogram ▸ .refl _, fun name f hf => by simpa [function?, hfunctions] using hf⟩

theorem Emits.widens (he : Emits c code c' hint) : Widens c c' := by
  cases he with
  | assign _ ht =>
    obtain ⟨hsize, hprogram, hfunctions, -⟩ := ht.keeps
    exact ⟨hsize, hprogram ▸ .refl _, fun name f hf => by simpa [function?, hfunctions] using hf⟩
  | @openFunction name _ _ _ _ hnone =>
    refine ⟨rfl, ?_, fun name' f hf => function?_added hnone hf⟩
    show c.program.Extends (headerCode c name).2
    unfold headerCode
    split
    · exact .refl _
    · exact c.program.extends_addSegment name
  | _ => exact ⟨rfl, .refl _, fun _ _ h => h⟩

theorem widens_compile {line : Int} {cmd : Command} (hc : c.compile line cmd = .ok (hint, c')) :
    Widens c c' := by
  obtain ⟨code, c₁, hemits, rfl⟩ := compile_ok hc
  exact hemits.widens.trans (widens_append c₁ _ _)

theorem widens_declareGlobal {name : Text} {readOnly : Bool} {address : Nat}
    (hd : c.declareGlobal name readOnly = .ok (address, c')) : Widens c c' := by
  obtain ⟨-, symbol, -, hdeclares⟩ := declareGlobal_ok hd
  exact widens_declares hdeclares

theorem widens_registerPlugin {name : Text} {params : List ParameterKind} {index : Int}
    (hp : c.registerPlugin name params index = .ok c') : Widens c c' := by
  obtain ⟨hnone, -, rfl⟩ := registerPlugin_ok hp
  exact ⟨rfl, .refl _, fun name' f hf => function?_added hnone hf⟩

theorem Reachable.base (h : Reachable c) : Program.empty.Extends c.program := by
  induction h with
  | new => exact .refl _
  | compile _ hc ih => exact ih.trans (widens_compile hc).program
  | declareGlobal _ hd ih => exact ih.trans (widens_declareGlobal hd).program
  | registerPlugin _ hp ih => exact ih.trans (widens_registerPlugin hp).program
  | appendEntryCall line _ ih => exact ih.trans (widens_append _ _ _).program

-- ---------------------------------------------------------------------------
-- Functions
-- ---------------------------------------------------------------------------

/-- The code of a function is never the global code, and it is there once the header
is compiled. -/
theorem headerCode_known (hb : Program.empty.Extends c.program) (name : Text) :
    (headerCode c name).1 ≠ globalCode ∧ (headerCode c name).2.hasCode (headerCode c name).1 = true := by
  obtain ⟨more, hentry⟩ := hb entryCode _ rfl
  unfold headerCode
  split
  · exact ⟨show entryCode ≠ globalCode by decide, (c.program.hasCode_iff entryCode).mpr ⟨_, hentry⟩⟩
  · refine ⟨Nat.ne_of_gt (Nat.zero_lt_of_lt (Program.segment?_lt hentry)), ?_⟩
    refine (Program.hasCode_iff _ _).mpr ⟨{ name }, ?_⟩
    rw [Program.segment?_addSegment]
    exact if_pos rfl

theorem known_functions (hw : Widens c c') (hf : c'.functions = c.functions)
    (h : ∀ name f, c.function? name = some f → f.Known c) :
    ∀ name f, c'.function? name = some f → f.Known c' := by
  intro name f hfun
  exact hw.known (h name f (by simpa [function?, hf] using hfun))

theorem Emits.known (he : Emits c code c' hint) (hb : Program.empty.Extends c.program)
    (h : ∀ name f, c.function? name = some f → f.Known c) :
    ∀ name f, c'.function? name = some f → f.Known c' := by
  have hw := he.widens
  cases he with
  | assign _ ht =>
    obtain ⟨-, -, hfunctions, -⟩ := ht.keeps
    exact known_functions hw hfunctions h
  | @openFunction name params vars kinds _ _ _ hfit hbind =>
    have hreturn : Bindings.Within [(returnName, { address := 0 })] 1 false :=
      Bindings.within_single _ (by decide) rfl
    have hkinds := (bindParameters_within hbind hreturn).2
    intro name' f hfun
    rcases function?_cons hfun with rfl | hold
    · refine ⟨hkinds ▸ hfit, fun id hid => ?_⟩
      cases hid
      exact headerCode_known hb name
    · exact hw.known (h name' f hold)
  | _ => exact known_functions hw rfl h

theorem Reachable.known (h : Reachable c) : ∀ name f, c.function? name = some f → f.Known c := by
  induction h with
  | new => nofun
  | compile h hc ih =>
    obtain ⟨code, c₁, hemits, rfl⟩ := compile_ok hc
    exact known_functions (widens_append c₁ _ _) rfl (hemits.known h.base ih)
  | declareGlobal _ hd ih =>
    obtain ⟨-, symbol, -, hdeclares⟩ := declareGlobal_ok hd
    exact known_functions (widens_declares hdeclares) hdeclares.keeps.2.2.1 ih
  | registerPlugin _ hp ih =>
    have hw := widens_registerPlugin hp
    obtain ⟨-, hfit, rfl⟩ := registerPlugin_ok hp
    intro name' f hfun
    rcases function?_cons hfun with rfl | hold
    · exact ⟨hfit, nofun⟩
    · exact hw.known (ih name' f hold)
  | appendEntryCall line _ ih => exact known_functions (widens_append _ _ _) rfl ih

theorem Reachable.openFunction (h : Reachable c) :
    ∀ function, c.function = some function → function.code ≠ globalCode := by
  have hdeclares {c c' : Compiler} {name : Text} {readOnly : Bool} {symbol : Symbol}
      (hd : Declares c name readOnly symbol c') (ih : ∀ f, c.function = some f → f.code ≠ globalCode) :
      ∀ f, c'.function = some f → f.code ≠ globalCode := by
    intro f hf
    obtain ⟨-, -, -, -, hcode, -⟩ := hd.keeps
    cases hc : c.function with
    | none =>
      have hin : c'.inGlobal = c.inGlobal := by
        cases hd with
        | fresh => exact setInnermost_inGlobal c _
        | again => exact setInnermost_inGlobal c _
      simp [inGlobal, hf, hc] at hin
    | some f' =>
      have hsame : f.code = f'.code := by simpa [currentCode, hf, hc] using hcode
      rw [hsame]
      exact ih f' hc
  induction h with
  | new => rintro _ ⟨⟩
  | compile h hc ih =>
    obtain ⟨code, c₁, hemits, rfl⟩ := compile_ok hc
    show ∀ function, c₁.function = some function → _
    cases hemits with
    | assign _ ht =>
      cases ht with
      | visible => exact ih
      | declared hd => exact hdeclares (declares_of_ok hd) ih
    | openFunction =>
      intro function hf
      cases hf
      exact (headerCode_known h.base _).1
    | closeFunction => rintro _ ⟨⟩
    | _ => exact ih
  | declareGlobal _ hd ih =>
    obtain ⟨-, symbol, -, hd⟩ := declareGlobal_ok hd
    exact hdeclares hd ih
  | registerPlugin _ hp ih =>
    obtain ⟨-, -, rfl⟩ := registerPlugin_ok hp
    exact ih
  | appendEntryCall line _ ih => exact ih

-- ---------------------------------------------------------------------------
-- Emitted code
-- ---------------------------------------------------------------------------

/-- For an operation of an expression, being in range is all there is. -/
theorem refers_of_inRange (hc : op.computes = true) (h : op.InRange c.program #[] c.frameSize) :
    op.Refers c := by
  cases op <;> first | exact h | trivial

theorem refers_expression (hl : Layout c) {next : Nat} {e : Expression}
    (h : c.expression next e = .ok code) : ∀ op ∈ code, op.Refers c := by
  intro op hop
  obtain ⟨σ, hchecks, -⟩ : Flow.Yields c.program #[] c.frameSize code {} := yields_expression h hl {}
  exact refers_of_inRange (computes_expression h op hop) (hchecks.inRange op hop)

theorem refers_symbol {symbol : Symbol} (h : symbol.address < c.frameSize) :
    symbol.read.Refers c ∧ symbol.write.Refers c :=
  ⟨refers_of_inRange symbol.computes_read (inRange_read h),
    refers_of_inRange symbol.computes_write (inRange_write h)⟩

theorem refers_conversion (kind : Kind) : (conversion kind).Refers c := by
  cases kind <;> trivial

theorem Gives.refers (h : Gives c code) (hl : Layout c) : ∀ op ∈ code, op.Refers c := by
  cases h with
  | expression h => exact refers_expression hl h
  | null => simp [Operation.Refers]
  | input kind =>
    refine List.forall_mem_append.mpr ⟨by simp [Operation.Refers], ?_⟩
    split
    · nofun
    · simpa using refers_conversion kind
  | converted kind hr =>
    simp only [List.forall_mem_cons]
    exact ⟨(refers_symbol (hl.resolve hr).1).1, trivial, refers_conversion kind, by simp⟩

theorem throughout_refers (hl : Layout c) : Throughout c (·.Refers c) :=
  fun _ _ _ _ h => refers_expression hl h

/-- The arguments of a call are checked against kinds of its parameters, and go to the
slots from 1 on. -/
theorem refers_arguments (hl : Layout c) {name : Text} {f : FunctionInfo}
    (hf : c.function? name = some f) {args : List Expression}
    (h : c.arguments 1 args f.params = .ok code) (hsize : f.params.length < c.frameSize) :
    ∀ op ∈ code, op.Refers c := by
  refine (throughout_refers hl).arguments (fun kind hkind => ⟨name, f, hf, hkind⟩) ?_ h
  intro i hi
  exact ⟨by omega, by omega⟩

theorem refers_comparison (hl : Layout c) {left right : Expression}
    (h : c.comparison left right = .ok code) : ∀ op ∈ code, op.Refers c := by
  refine (throughout_refers hl).comparison (fun hlt => refers_symbol hlt) ?_ ?_ h
  · rintro op (rfl | rfl | ⟨k, rfl⟩) <;> trivial
  · intro node load hload op hop
    obtain ⟨σ, hchecks, -⟩ := hload.checks hl c.program #[] {}
    exact refers_of_inRange (hload.computes op hop) (hchecks.inRange op hop)

theorem Emits.refers (he : Emits c code c' hint) (hl : Layout c)
    (hk : ∀ name f, c.function? name = some f → f.Known c) : ∀ op ∈ code, op.Refers c := by
  cases he with
  | @print op _ _ _ hop hprint ht =>
    have hrefers : op.Refers c := by rcases hop with rfl | rfl <;> trivial
    simp only [List.forall_mem_append, List.forall_mem_cons]
    refine ⟨⟨(throughout_refers hl).printArguments hrefers hprint, ?_⟩, trivial, by simp⟩
    rcases ht with rfl | rfl <;> simp [Operation.Refers]
  | assign hv ht =>
    simp only [List.forall_mem_append, List.forall_mem_cons]
    exact ⟨hv.refers hl, (refers_symbol (ht.address_lt hl)).2, by simp⟩
  | giveBack hv =>
    simp only [List.forall_mem_append, List.forall_mem_cons]
    exact ⟨hv.refers hl, trivial, by simp⟩
  | compare h =>
    simp only [List.forall_mem_append, List.forall_mem_cons]
    exact ⟨refers_comparison hl h, trivial, by simp⟩
  | openBlock condition => simpa using ⟨condition, rfl⟩
  | closeBlock => simp [Operation.Refers]
  | @call name f args code hf _ hcode =>
    have hknown := hk name f hf
    have hfits := hknown.fits
    have hcallee : (Operation.newFrame f.callee.frameOperand).Refers c ∧ (callOperation f).Refers c := by
      unfold callOperation Callee.isPlugin
      cases hc : f.callee with
      | code id =>
        obtain ⟨hne, hcode⟩ := hknown.code id hc
        exact ⟨.inr ⟨fun he => hne (Int.ofNat.inj he), hcode⟩, trivial⟩
      | plugin index =>
        refine ⟨.inl rfl, ?_⟩
        split
        · rename_i hindex
          exact ⟨of_decide_eq_true hindex, name, f, hf, hc⟩
        · trivial
    simp only [List.cons_append, List.forall_mem_append, List.forall_mem_cons]
    refine ⟨hcallee.1, ?_, hcallee.2, by simp⟩
    exact refers_arguments hl hf hcode (by omega)
  | openFunction => nofun
  | closeFunction => nofun
  | quit => simp [Operation.Refers]

theorem refers_append {p : Program} {target : Nat} {code : List Instruction}
    (h : ∀ id s, p.segment? id = some s → ∀ op ∈ s.operations, op.Refers c)
    (hcode : ∀ op ∈ code.map Instruction.op, op.Refers c) :
    ∀ id s, (p.append target code).segment? id = some s → ∀ op ∈ s.operations, op.Refers c := by
  intro id s hs op hop
  rw [Program.segment?_append] at hs
  obtain ⟨s', hs', rfl⟩ := Option.map_eq_some_iff.mp hs
  split at hop
  · rw [Segment.operations_append] at hop
    rcases List.mem_append.mp hop with hop | hop
    · exact h id s' hs' op hop
    · exact hcode op hop
  · exact h id s' hs' op hop

theorem Emits.segments (he : Emits c code c' hint) {id : Nat} {s : Segment}
    (hs : c'.program.segment? id = some s) : c.program.segment? id = some s ∨ s.operations = [] := by
  cases he with
  | assign _ ht =>
    obtain ⟨-, hprogram, -⟩ := ht.keeps
    exact .inl (hprogram ▸ hs)
  | @openFunction name =>
    have hs : (headerCode c name).2.segment? id = some s := hs
    unfold headerCode at hs
    split at hs
    · exact .inl hs
    · rw [Program.segment?_addSegment] at hs
      split at hs
      · cases hs
        exact .inr rfl
      · exact .inl hs
  | _ => exact .inl hs

/-- What every instruction of a compiled program refers to is known to the compiler. -/
theorem Reachable.refers (h : Reachable c) :
    ∀ id s, c.program.segment? id = some s → ∀ op ∈ s.operations, op.Refers c := by
  induction h with
  | new requested =>
    intro id s hs op hop
    rw [Program.operations_empty hs] at hop
    cases hop
  | @compile c _ line cmd _ h hc ih =>
    have hwidens := widens_compile hc
    obtain ⟨code, c₁, hemits, rfl⟩ := compile_ok hc
    have hcode : (code.map fun op => ({ op, line } : Instruction)).map Instruction.op = code := by
      simp [Function.comp_def]
    have hold : ∀ id s, c₁.program.segment? id = some s → ∀ op ∈ s.operations, op.Refers c := by
      intro id s hs op hop
      rcases hemits.segments hs with hs | hempty
      · exact ih id s hs op hop
      · rw [hempty] at hop
        cases hop
    intro id s hs op hop
    refine hwidens.refers (refers_append hold ?_ id s hs op hop)
    rw [hcode]
    exact hemits.refers h.layout h.known
  | declareGlobal _ hd ih =>
    have hwidens := widens_declareGlobal hd
    obtain ⟨-, symbol, -, hdeclares⟩ := declareGlobal_ok hd
    obtain ⟨-, hprogram, -⟩ := hdeclares.keeps
    intro id s hs op hop
    exact hwidens.refers (ih id s (hprogram ▸ hs) op hop)
  | registerPlugin _ hp ih =>
    have hwidens := widens_registerPlugin hp
    obtain ⟨-, -, rfl⟩ := registerPlugin_ok hp
    exact fun id s hs op hop => hwidens.refers (ih id s hs op hop)
  | @appendEntryCall c line h ih =>
    have hentry : c.program.hasCode entryCode = true := by
      obtain ⟨more, hs⟩ := h.base entryCode _ rfl
      exact (c.program.hasCode_iff entryCode).mpr ⟨_, hs⟩
    intro id s hs op hop
    refine (widens_append c _ _).refers (refers_append ih ?_ id s hs op hop)
    simp only [List.map_cons, List.map_nil, List.forall_mem_cons]
    exact ⟨.inr ⟨by decide, hentry⟩, trivial, nofun⟩

end
end Compiler
end Birl
