import Birl.Proofs.Compiler.Effect

/-!
# Whose the slots of the global frame are

The slots below `globalBase` are those of variables of the global scope; blocks and
hidden values have the slots from there on. A slot that a global variable was given is
`Reserved` for its name for good. From then on an instruction that writes the slot comes
from a command that gives this very variable a value (`WrittenAt.compile`). Code that was
compiled before the variable was there may still use the slot for something else, but
only the global code does (`Reachable.confined`).
-/

namespace Birl.Compiler

section
variable {c c' c'' : Compiler} {name : Text} {symbol : Symbol} {code : List Operation}
  {hint : ScopeHint} {op : Operation}

-- ---------------------------------------------------------------------------
-- The slots of the global scope
-- ---------------------------------------------------------------------------

/-- The first slot of the global frame that is not for variables of the global scope. -/
def globalBase (c : Compiler) : Nat :=
  match c.function with
  | some function => function.globalNext
  | none => c.blocks.getLast?.elim c.next Block.savedNext

theorem Nests.base_eq {global : Bool} {next base : Nat} {blocks : List Block}
    (h : Nests global next blocks base) : base = blocks.getLast?.elim next Block.savedNext := by
  induction blocks generalizing next with
  | nil => exact h
  | cons block rest ih =>
    obtain ⟨-, -, hrest⟩ := h
    rw [ih hrest, List.getLast?_cons]
    cases rest.getLast? <;> rfl

theorem globalBase_function {function : OpenFunction} (hf : c.function = some function) :
    c.globalBase = function.globalNext := by
  simp [globalBase, hf]

theorem globalBase_global (hf : c.function = none) :
    c.globalBase = c.blocks.getLast?.elim c.next Block.savedNext := by
  simp [globalBase, hf]

theorem Layout.globals (h : Layout c) : c.globals.Within c.globalBase true := by
  obtain ⟨base, hnests, hrests⟩ := h.scopes
  unfold Rests at hrests
  cases hf : c.function with
  | none =>
    simp only [hf] at hrests
    rw [globalBase_global hf, ← hnests.base_eq]
    exact hrests
  | some function =>
    simp only [hf] at hrests
    rw [globalBase_function hf]
    exact hrests.2.2

/-- Hidden values of the global code lie above the variables. -/
theorem Layout.globalBase_le (h : Layout c) (hin : c.inGlobal = true) : c.globalBase ≤ c.next := by
  obtain ⟨base, hnests, -⟩ := h.scopes
  have hf : c.function = none := by simpa [inGlobal] using hin
  rw [globalBase_global hf, ← hnests.base_eq]
  exact hnests.base_le

/-- A name that stands for a slot of the global scope is a name of that scope. -/
theorem Reachable.global_of_resolve (h : Reachable c) (hr : c.resolve name = some symbol)
    (hg : symbol.global = true) (ha : symbol.address < c.globalBase) :
    c.global? name = some symbol := by
  obtain ⟨vars, hvars, hs⟩ := scope_of_resolve hr
  obtain ⟨base, hnests, hrests⟩ := h.layout.scopes
  simp only [scopes, List.mem_append, List.mem_map, Option.mem_toList, Option.map_eq_some_iff,
    List.mem_singleton] at hvars
  rcases hvars with (⟨block, hblock, rfl⟩ | ⟨function, hf, rfl⟩) | rfl
  · -- A block of the global code lies above, one of a function in another frame.
    have hin : c.inGlobal = true := (hnests.within block hblock name symbol hs).2.symm.trans hg
    have hf : c.function = none := by simpa [inGlobal] using hin
    have hfrom := (hnests.below h.slotted.blocks).2 block hblock name symbol hs
    rw [globalBase_global hf, ← hnests.base_eq] at ha
    omega
  · simp only [Rests, hf] at hrests
    rw [(hrests.1 name symbol hs).2] at hg
    cases hg
  · exact hs

-- ---------------------------------------------------------------------------
-- How the global scope changes
-- ---------------------------------------------------------------------------

/-- From `c` to `c'` the variables of the global scope keep their slots, or get one that
was free. -/
structure Settles (c c' : Compiler) : Prop where
  base : c.globalBase ≤ c'.globalBase
  globals : ∀ other s, c'.global? other = some s →
    (∃ t, c.global? other = some t ∧ t.address = s.address) ∨
      (c.depth = 0 ∧ c.globalBase ≤ s.address)

theorem Settles.of_eq (hb : c'.globalBase = c.globalBase) (hg : c'.globals = c.globals) :
    Settles c c' :=
  ⟨Nat.le_of_eq hb.symm, fun _ s hs => .inl ⟨s, by simpa [global?, hg] using hs, rfl⟩⟩

theorem Settles.refl (c : Compiler) : Settles c c := .of_eq rfl rfl

theorem Settles.congr (h : Settles c c') (hg : c''.globals = c'.globals)
    (hf : c''.function = c'.function) (hb : c''.blocks = c'.blocks) (hn : c''.next = c'.next) :
    Settles c c'' := by
  have hbase : c''.globalBase = c'.globalBase := by simp only [globalBase, hf, hb, hn]
  exact ⟨hbase ▸ h.base, fun other s hs => h.globals other s (by simpa [global?, hg] using hs)⟩

theorem settles_setInnermost (hd : 0 < c.depth) (vars : Bindings) (next : Nat) :
    Settles c { c.setInnermost vars with next } := by
  cases hb : c.blocks with
  | cons block rest =>
    have hset : c.setInnermost vars = { c with blocks := { block with vars } :: rest } := by
      simp [setInnermost, hb]
    rw [hset]
    refine .of_eq ?_ rfl
    simp only [globalBase, hb, List.getLast?_cons]
    cases rest.getLast? <;> rfl
  | nil =>
    cases hf : c.function with
    | some function =>
      have hset : c.setInnermost vars = { c with function := some { function with vars } } := by
        simp [setInnermost, hb, hf]
      rw [hset]
      exact .of_eq (by simp [globalBase, hf]) rfl
    | none => simp [depth, hb, hf] at hd

theorem Declares.settles {readOnly : Bool} (h : Declares c name readOnly symbol c') :
    Settles c c' := by
  rcases Nat.eq_zero_or_pos c.depth with hdepth | hdepth
  · obtain ⟨hb, hf⟩ := depth_zero hdepth
    have hinner := innermost_of_depth_zero hdepth
    have hset (vars : Bindings) := setInnermost_of_depth_zero vars hdepth
    have hbase : c.globalBase = c.next := by simp [globalBase, hb, hf]
    cases h with
    | fresh =>
      rw [hset, hinner]
      refine ⟨by simp [globalBase, hb, hf], fun other s hs => ?_⟩
      simp only [global?, Bindings.find?_put] at hs
      split at hs
      · cases hs
        exact .inr ⟨hdepth, Nat.le_of_eq hbase⟩
      · exact .inl ⟨s, hs, rfl⟩
    | @again previous hp hw =>
      rw [hinner] at hp
      rw [hset, hinner]
      refine ⟨by simp [globalBase, hb, hf], fun other s hs => ?_⟩
      simp only [global?, Bindings.find?_put] at hs
      split at hs
      · rename_i heq
        cases hs
        exact .inl ⟨previous, heq ▸ hp, rfl⟩
      · exact .inl ⟨s, hs, rfl⟩
  · cases h with
    | fresh => exact settles_setInnermost hdepth _ _
    | again =>
      exact (settles_setInnermost hdepth _ c.next).congr rfl rfl rfl (setInnermost_next c _)

theorem Emits.settles (he : Emits c code c' hint) : Settles c c' := by
  cases he with
  | assign _ ht =>
    cases ht with
    | visible => exact .refl c
    | declared hd => exact (declares_of_ok hd).settles
  | openBlock condition =>
    refine .of_eq ?_ rfl
    simp only [globalBase, List.getLast?_cons]
    cases c.blocks.getLast? <;> rfl
  | @closeBlock block rest hb =>
    refine .of_eq ?_ rfl
    simp only [globalBase, hb, List.getLast?_cons]
    cases rest.getLast? <;> rfl
  | openFunction hd =>
    obtain ⟨hblocks, hfunction⟩ := depth_zero hd
    exact .of_eq (by simp [globalBase, hblocks, hfunction]) rfl
  | closeFunction hf hb => exact .of_eq (by simp [globalBase, hf, hb]) rfl
  | _ => exact .refl c

theorem settles_compile {line : Int} {cmd : Command} (hc : c.compile line cmd = .ok (hint, c')) :
    Settles c c' := by
  obtain ⟨code, c₁, hemits, rfl⟩ := compile_ok hc
  exact hemits.settles.congr rfl rfl rfl rfl

theorem settles_declareGlobal {readOnly : Bool} {a : Nat}
    (hd : c.declareGlobal name readOnly = .ok (a, c')) : Settles c c' := by
  obtain ⟨-, symbol, -, hdeclares⟩ := declareGlobal_ok hd
  exact hdeclares.settles

-- ---------------------------------------------------------------------------
-- What commands write
-- ---------------------------------------------------------------------------

/-- The operation writes at most a hidden slot. -/
def Hides (c : Compiler) : Operation → Prop
  | .writeGlobal operand => c.inGlobal = true ∧ c.next ≤ operand
  | .writeLocal _ => c.inGlobal = false
  | _ => True

theorem Spares.hides (h : c.Spares c.next op) : c.Hides op := by
  rcases h with h | ⟨slot, hslot, -, rfl⟩
  · cases op <;> trivial
  · unfold Symbol.write hidden
    cases hin : c.inGlobal with
    | true => exact ⟨hin, Int.ofNat_le.mpr hslot⟩
    | false => exact hin

theorem hides_all (h : ∀ op ∈ code, c.Spares c.next op) : ∀ op ∈ code, c.Hides op :=
  fun op hop => (h op hop).hides

theorem hides_arguments {address : Nat} {args : List Expression} {kinds : List ParameterKind}
    (h : c.arguments address args kinds = .ok code) : ∀ op ∈ code, c.Hides op := by
  have hexpressions : Throughout c c.Hides :=
    fun _ _ _ hnext h op hop => (throughout_spares _ _ _ hnext h op hop).hides
  exact hexpressions.arguments (fun _ _ => trivial) (fun _ _ => trivial) h

/-- A command that gives no variable a value writes hidden slots alone. -/
theorem hides_of_ok {cmd : Command} {compiled : Compiled} (h : c.compileCommand cmd = .ok compiled)
    (hk : cmd.kind.assigns = false) : ∀ op ∈ compiled.code, c.Hides op := by
  cases hkind : cmd.kind with
  | declare | set | input | convert =>
    rw [hkind] at hk
    cases hk
  | print | printLine | printDebug =>
    simp only [compileCommand, hkind] at h
    exact hides_all (spares_print h).2
  | returnValue =>
    simp only [compileCommand, hkind, compileReturn, bind_ok, pure_ok] at h
    obtain ⟨code, hcode, rfl⟩ := h
    simp only [List.forall_mem_append, List.forall_mem_cons]
    exact ⟨hides_all (gives_optionalValue hcode).spares, trivial, List.forall_mem_nil _⟩
  | compare =>
    obtain ⟨left, right, code, -, hcode, rfl⟩ := compare_of_ok h hkind
    simp only [List.forall_mem_append, List.forall_mem_cons]
    exact ⟨hides_all (spares_comparison hcode), trivial, List.forall_mem_nil _⟩
  | executeIf condition =>
    simp only [compileCommand, hkind] at h
    cases h
    exact List.forall_mem_singleton.mpr trivial
  | endBlock =>
    simp only [compileCommand, hkind, compileEndBlock] at h
    split at h
    · cases h
    · cases h
      exact List.forall_mem_singleton.mpr trivial
  | call =>
    simp only [compileCommand, hkind, compileCall] at h
    split at h
    · cases h
    · rename_i f hf
      simp only [check_ok, bind_ok, pure_ok] at h
      obtain ⟨-, code, hcode, rfl⟩ := h
      simp only [List.cons_append, List.forall_mem_append, List.forall_mem_cons]
      refine ⟨trivial, hides_arguments hcode, ?_, List.forall_mem_nil _⟩
      split <;> trivial
  | functionStart =>
    simp only [compileCommand, hkind, compileFunctionStart, check_ok, bind_ok, pure_ok] at h
    obtain ⟨-, -, -, -, _, -, rfl⟩ := h
    exact List.forall_mem_nil _
  | functionEnd =>
    simp only [compileCommand, hkind, compileFunctionEnd] at h
    split at h
    · cases h
    · split at h
      · cases h
        exact List.forall_mem_nil _
      · cases h
  | quit =>
    simp only [compileCommand, hkind] at h
    cases h
    simp only [List.forall_mem_cons]
    exact ⟨trivial, trivial, List.forall_mem_nil _⟩
  | unknown code =>
    simp only [compileCommand, hkind] at h
    cases h

/-- What a command writes: hidden slots, and at last the variable that it gives a value. -/
theorem writes_of_ok {cmd : Command} {compiled : Compiled} (hl : Layout c)
    (h : c.compileCommand cmd = .ok compiled) :
    (∀ op ∈ compiled.code, c.Hides op) ∨
      cmd.kind.assigns = true ∧ ∃ body symbol, compiled.code = body ++ [symbol.write] ∧
        (∀ op ∈ body, c.Hides op) ∧ Targets c cmd.name symbol compiled.compiler := by
  cases hk : cmd.kind.assigns with
  | false => exact .inl (hides_of_ok h hk)
  | true =>
    obtain ⟨body, symbol, hcode, hsupplies, htargets⟩ := assigns_of_ok hl h hk
    exact .inr ⟨rfl, body, symbol, hcode, hides_all hsupplies.spares, htargets⟩

theorem command_of_compile {line : Int} {cmd : Command} (hc : c.compile line cmd = .ok (hint, c')) :
    ∃ compiled, c.compileCommand cmd = .ok compiled ∧ c' = { compiled.compiler with
      program := compiled.compiler.program.append c.currentCode
        (compiled.code.map fun op => { op, line }) } := by
  unfold compile at hc
  split at hc
  · cases hc
  · rename_i compiled hcompiled
    cases hc
    exact ⟨compiled, hcompiled, rfl⟩

/-- What stands in the program after a command was there before, or is part of its code. -/
theorem operation?_compile {line : Int} {cmd : Command} {compiled : Compiled} {id pos : Nat}
    (h : c.compileCommand cmd = .ok compiled) (hc : c.compile line cmd = .ok (hint, c'))
    (hop : c'.program.operation? id pos = some op) :
    c.program.operation? id pos = some op ∨
      id = c.currentCode ∧ ∃ i, compiled.code[i]? = some op ∧
        pos + compiled.code.length = c'.program.codeLength id + i := by
  obtain ⟨compiled', h', rfl⟩ := command_of_compile hc
  obtain rfl : compiled' = compiled := Except.ok.inj (h'.symm.trans h)
  have hcode : (compiled'.code.map fun op => ({ op, line } : Instruction)).map Instruction.op =
      compiled'.code := by
    simp [Function.comp_def]
  rcases Program.operation?_append hop with hold | ⟨hid, i, hi, hpos, hlength⟩
  · refine .inl ?_
    obtain ⟨s, hs, hop⟩ := Option.bind_eq_some_iff.mp hold
    rcases (emits_of_ok h).segments hs with hs | hempty
    · simp [Program.operation?, hs, hop]
    · rw [hempty] at hop
      cases hop
  · rw [hcode] at hi
    rw [List.length_map] at hlength
    refine .inr ⟨hid, i, hi, ?_⟩
    show pos + compiled'.code.length = (compiled'.compiler.program.append c.currentCode
      (compiled'.code.map fun op => { op, line })).codeLength id + i
    omega

-- ---------------------------------------------------------------------------
-- Code of functions and the global code
-- ---------------------------------------------------------------------------

/-- The operation may stand in the segment: the global code has all its slots in the
global frame, and functions write there only variables of the global scope. -/
def Confined (c : Compiler) (id : Nat) : Operation → Prop
  | .writeGlobal operand => id = globalCode ∨ operand < c.globalBase
  | .writeLocal _ => id ≠ globalCode
  | _ => True

theorem Confined.mono {id : Nat} (h : c.Confined id op) (hb : c.globalBase ≤ c'.globalBase) :
    c'.Confined id op := by
  cases op with
  | writeGlobal operand =>
    have hb : (c.globalBase : Int) ≤ c'.globalBase := Int.ofNat_le.mpr hb
    exact h.imp_right fun hlt => Int.lt_of_lt_of_le hlt hb
  | _ => exact h

theorem Hides.confined (h : c.Reachable) (hop : c.Hides op) : c.Confined c.currentCode op := by
  cases op with
  | writeGlobal operand => exact .inl (h.inGlobal_iff.mp hop.1)
  | writeLocal operand =>
    intro hid
    have hin : c.inGlobal = false := hop
    rw [h.inGlobal_iff.mpr hid] at hin
    cases hin
  | _ => trivial

theorem Targets.confined (h : c.Reachable) (ht : Targets c name symbol c') :
    c.Confined c.currentCode symbol.write := by
  unfold Symbol.write
  obtain ⟨-, hglobal⟩ := ht.place h.layout
  by_cases hid : c.currentCode = globalCode
  · rw [hglobal (h.inGlobal_iff.mpr hid)]
    exact .inl hid
  · have hin : c.inGlobal = false := Bool.eq_false_iff.mpr fun hin => hid (h.inGlobal_iff.mp hin)
    cases hg : symbol.global with
    | false => exact hid
    | true =>
      refine .inr (Int.ofNat_lt.mpr ?_)
      -- In a function only a name of the global scope stands for a global slot.
      cases ht with
      | declared hd =>
        rw [(hd.layout h.layout).2.2, hin] at hg
        cases hg
      | visible hr =>
        obtain ⟨function, hf⟩ : ∃ function, c.function = some function := by
          cases hf : c.function with
          | some function => exact ⟨function, rfl⟩
          | none => simp [inGlobal, hf] at hin
        obtain ⟨vars, hvars, hs⟩ := scope_of_resolve hr
        have hlt := (h.layout.bound hvars hs).2 hg
        simpa [globalNext, globalBase, hf] using hlt

theorem Reachable.confined (h : Reachable c) {id pos : Nat}
    (hop : c.program.operation? id pos = some op) : c.Confined id op := by
  induction h generalizing id pos op with
  | new requested =>
    obtain ⟨s, hs, hop⟩ := Option.bind_eq_some_iff.mp hop
    rw [Program.operations_empty hs] at hop
    cases hop
  | @compile c _ line cmd _ h hc ih =>
    obtain ⟨compiled, hcompiled, -⟩ := command_of_compile hc
    refine Confined.mono (c := c) ?_ (settles_compile hc).base
    rcases operation?_compile hcompiled hc hop with hold | ⟨rfl, i, hi, -⟩
    · exact ih hold
    · have hmem := List.mem_of_getElem? hi
      rcases writes_of_ok h.layout hcompiled with hhides | ⟨-, body, symbol, hcode, hhides, htargets⟩
      · exact (hhides _ hmem).confined h
      · rw [hcode, List.mem_append, List.mem_singleton] at hmem
        rcases hmem with hmem | rfl
        · exact (hhides _ hmem).confined h
        · exact htargets.confined h
  | declareGlobal _ hd ih =>
    have hsettles := settles_declareGlobal hd
    obtain ⟨-, symbol, -, hdeclares⟩ := declareGlobal_ok hd
    rw [hdeclares.keeps.2.1] at hop
    exact (ih hop).mono hsettles.base
  | registerPlugin _ hp ih =>
    obtain ⟨-, -, rfl⟩ := registerPlugin_ok hp
    exact (ih hop).mono (Nat.le_refl _)
  | appendEntryCall line _ ih =>
    refine Confined.mono ?_ (Nat.le_refl _)
    rcases Program.operation?_append hop with hold | ⟨-, i, hi, -⟩
    · exact ih hold
    · have hmem := List.mem_of_getElem? hi
      simp only [List.map_cons, List.map_nil, List.mem_cons, List.not_mem_nil, or_false] at hmem
      rcases hmem with rfl | rfl <;> trivial

-- ---------------------------------------------------------------------------
-- Slots of one variable
-- ---------------------------------------------------------------------------

/-- The slot was given to a global variable of this name. -/
structure Reserved (c : Compiler) (name : Text) (a : Nat) : Prop where
  lt : a < c.globalBase
  only : ∀ other s, c.global? other = some s → s.address = a → other = name

variable {a since : Nat} {places : List (Nat × Nat)}

def hasGlobal (c : Compiler) (name : Text) (a : Nat) : Bool := (c.global? name).any (·.address = a)

theorem hasGlobal_iff : c.hasGlobal name a = true ↔ ∃ s, c.global? name = some s ∧ s.address = a := by
  simp [hasGlobal, Option.any_eq_true]

theorem Reachable.reserved (h : Reachable c) (hg : c.hasGlobal name a = true) :
    c.Reserved name a := by
  obtain ⟨s, hs, rfl⟩ := hasGlobal_iff.mp hg
  refine ⟨(h.layout.globals name s hs).1, fun other t ht ha => ?_⟩
  exact h.slotted.scopes c.globals (by simp [Compiler.scopes]) other name t s ht hs ha

theorem Reserved.settles (h : c.Reserved name a) (hs : Settles c c') : c'.Reserved name a := by
  refine ⟨Nat.lt_of_lt_of_le h.lt hs.base, fun other s hother ha => ?_⟩
  rcases hs.globals other s hother with ⟨t, ht, hta⟩ | ⟨-, hfree⟩
  · exact h.only other t ht (hta.trans ha)
  · have := h.lt
    omega

theorem Reachable.globalBase_pos (h : Reachable c) : 0 < c.globalBase := by
  induction h with
  | new => exact Nat.one_pos
  | compile _ hc ih => exact Nat.lt_of_lt_of_le ih (settles_compile hc).base
  | declareGlobal _ hd ih => exact Nat.lt_of_lt_of_le ih (settles_declareGlobal hd).base
  | registerPlugin _ hp ih =>
    obtain ⟨-, -, rfl⟩ := registerPlugin_ok hp
    exact ih
  | appendEntryCall line _ ih => exact ih

theorem Reachable.returnSlot (h : Reachable c) (hg : c.hasGlobal name 0 = true) :
    name = returnName := by
  have hsettled {c c' : Compiler} (hc : c.Reachable) (hs : Settles c c')
      (ih : c.hasGlobal name 0 = true → name = returnName) (hg : c'.hasGlobal name 0 = true) :
      name = returnName := by
    obtain ⟨s, hname, ha⟩ := hasGlobal_iff.mp hg
    rcases hs.globals name s hname with ⟨t, ht, hta⟩ | ⟨-, hfree⟩
    · exact ih (hasGlobal_iff.mpr ⟨t, ht, hta.trans ha⟩)
    · have := hc.globalBase_pos
      omega
  induction h with
  | new requested =>
    obtain ⟨s, hname, -⟩ := hasGlobal_iff.mp hg
    refine Decidable.byContradiction fun hne => ?_
    have hb : (name == returnName) = false := by simpa using hne
    simp [global?, Compiler.new, Bindings.find?, List.lookup_cons, hb] at hname
  | compile h hc ih => exact hsettled h (settles_compile hc) ih hg
  | declareGlobal h hd ih => exact hsettled h (settles_declareGlobal hd) ih hg
  | registerPlugin _ hp ih =>
    obtain ⟨-, -, rfl⟩ := registerPlugin_ok hp
    exact ih hg
  | appendEntryCall line _ ih => exact ih hg

/-- Whether a command, which the compiler has come from, gives the global variable of a
name and slot a value. -/
def assigned (c : Compiler) (cmd : Command) (name : Text) (a : Nat) : Bool :=
  cmd.kind.assigns && cmd.name = name && c.hasGlobal name a && c.resolve name = c.global? name

/-- The instructions that write a slot of the global frame: those at the given places,
and maybe some of the first of the global code. -/
def WrittenAt (c : Compiler) (a since : Nat) (places : List (Nat × Nat)) : Prop :=
  ∀ id pos, c.program.operation? id pos = some (.writeGlobal a) →
    (id = globalCode ∧ pos < since) ∨ (id, pos) ∈ places

theorem Hides.ne (hl : Layout c) (ha : a < c.globalBase) (hop : c.Hides op) : op ≠ .writeGlobal a := by
  rintro rfl
  have hle := hl.globalBase_le hop.1
  have := hop.2
  omega

/-- Where the instruction stands by which a command gives the variable a value. -/
def storePlaces (c c' : Compiler) (cmd : Command) (name : Text) (a : Nat) : List (Nat × Nat) :=
  if c'.assigned cmd name a then [(c.currentCode, c'.program.codeLength c.currentCode - 1)] else []

/-- A command adds its own place to those that write a variable, and no other. -/
theorem WrittenAt.compile {line : Int} {cmd : Command} (hw : c.WrittenAt a since places)
    (h : c.Reachable) (hr : c.Reserved name a) (hc : c.compile line cmd = .ok (hint, c')) :
    c'.WrittenAt a since (c.storePlaces c' cmd name a ++ places) := by
  obtain ⟨compiled, hcompiled, hc'⟩ := command_of_compile hc
  intro id pos hop
  rcases operation?_compile hcompiled hc hop with hold | ⟨rfl, i, hi, hpos⟩
  · exact (hw id pos hold).imp_right (List.mem_append_right _)
  · have hmem := List.mem_of_getElem? hi
    rcases writes_of_ok h.layout hcompiled with
      hhides | ⟨hassigns, body, symbol, hcode, hhides, htargets⟩
    · exact absurd rfl ((hhides _ hmem).ne h.layout hr.lt)
    · -- Only the last operation can be meant, and then the variable is the one named.
      rw [hcode, List.getElem?_append] at hi
      rw [hcode, List.length_append, List.length_singleton] at hpos
      split at hi
      · exact absurd rfl ((hhides _ (List.mem_of_getElem? hi)).ne h.layout hr.lt)
      · rw [List.getElem?_singleton] at hi
        obtain ⟨hlast, hi⟩ := Option.ite_none_right_eq_some.mp hi
        have hwrite : symbol.write = .writeGlobal a := Option.some.inj hi
        obtain ⟨hg, rfl⟩ : symbol.global = true ∧ symbol.address = a := by
          unfold Symbol.write at hwrite
          split at hwrite
          · rename_i hg
            exact ⟨hg, Int.ofNat.inj (Operation.writeGlobal.inj hwrite)⟩
          · cases hwrite
        have hr' := hr.settles (settles_compile hc)
        have hresolve : c'.resolve cmd.name = some symbol := by
          rw [hc']
          exact htargets.resolve
        have hglobal := (h.compile hc).global_of_resolve hresolve hg hr'.lt
        obtain rfl : cmd.name = name := hr'.only cmd.name symbol hglobal rfl
        have hassigned : c'.assigned cmd cmd.name symbol.address = true := by
          simp [assigned, hassigns, hasGlobal, hglobal, hresolve]
        refine .inr (List.mem_append_left _ ?_)
        rw [storePlaces, if_pos hassigned, List.mem_singleton, Prod.mk.injEq]
        exact ⟨rfl, by omega⟩

theorem writtenAt_bound (h : c.Reachable) (hs : Settles c c') (hno : c.hasGlobal name a = false)
    (hg : c'.hasGlobal name a = true)
    (hcode : c.depth = 0 → ∀ id pos, id ≠ globalCode → ∀ op,
      c'.program.operation? id pos = some op → c.program.operation? id pos = some op) :
    c'.WrittenAt a c'.program.globalLength places := by
  obtain ⟨s, hname, rfl⟩ := hasGlobal_iff.mp hg
  obtain ⟨hdepth, hfree⟩ : c.depth = 0 ∧ c.globalBase ≤ s.address := by
    refine (hs.globals name s hname).resolve_left fun ⟨t, ht, ha⟩ => ?_
    rw [hasGlobal_iff.mpr ⟨t, ht, ha⟩] at hno
    cases hno
  intro id pos hop
  by_cases hid : id = globalCode
  · subst hid
    exact .inl ⟨rfl, Program.operation?_lt hop⟩
  · rcases h.confined (hcode hdepth id pos hid _ hop) with heq | hlt
    · exact absurd heq hid
    · omega

end
end Birl.Compiler
