import Birl.Proofs.Compiler.Layout
import Birl.Proofs.Machine.Safety

/-!
# Compiled code passes

The code of every command refers to slots, segments and plugins that are there, and
uses registers only where they hold something (`Emits.steady`). So the program of a
compiler whose functions are all linked to code or to plugins is verified, and
stays verified whatever is compiled, declared or registered.
-/

namespace Birl

-- ---------------------------------------------------------------------------
-- Code that passes
-- ---------------------------------------------------------------------------

/-- The code refers to what is there and passes from one knowledge to another. -/
structure Flow.Checks (p : Program) (plugins : Array Plugin) (size : Nat) (code : List Operation)
    (σ σ' : Flow) : Prop where
  inRange : ∀ op ∈ code, op.InRange p plugins size
  flow : σ.after? code = some σ'

namespace Flow

section
variable {p : Program} {plugins : Array Plugin} {size : Nat} {op : Operation}
  {code more : List Operation} {σ σ' σ'' : Flow}

theorem Checks.nil : Checks p plugins size [] σ σ := ⟨nofun, rfl⟩

theorem Checks.cons (hop : op.InRange p plugins size) (hσ : σ.next? op = some σ')
    (h : Checks p plugins size code σ' σ'') : Checks p plugins size (op :: code) σ σ'' := by
  refine ⟨List.forall_mem_cons.mpr ⟨hop, h.inRange⟩, ?_⟩
  rw [after?_cons, hσ]
  exact h.flow

theorem Checks.append (h : Checks p plugins size code σ σ')
    (h' : Checks p plugins size more σ' σ'') : Checks p plugins size (code ++ more) σ σ'' := by
  refine ⟨List.forall_mem_append.mpr ⟨h.inRange, h'.inRange⟩, ?_⟩
  rw [after?_append, h.flow]
  exact h'.flow

/-- The code leaves a value in register `b` and builds no frame. -/
def Yields (p : Program) (plugins : Array Plugin) (size : Nat) (code : List Operation) (σ : Flow) :
    Prop :=
  ∃ σ', Checks p plugins size code σ σ' ∧ σ'.b = true ∧ σ'.building = σ.building

theorem Yields.nil (hb : σ.b = true) : Yields p plugins size [] σ := ⟨σ, .nil, hb, rfl⟩

theorem Yields.append (h : Yields p plugins size code σ)
    (h' : ∀ σ' : Flow, σ'.b = true → σ'.building = σ.building → Yields p plugins size more σ') :
    Yields p plugins size (code ++ more) σ := by
  obtain ⟨σ', hp, hb, hbuild⟩ := h
  obtain ⟨σ'', hp', hb', hbuild'⟩ := h' σ' hb hbuild
  exact ⟨σ'', hp.append hp', hb', hbuild'.trans hbuild⟩

theorem Yields.cons (hop : op.InRange p plugins size) (hσ : σ.next? op = some σ')
    (hbuild : σ'.building = σ.building) (h : Yields p plugins size code σ') :
    Yields p plugins size (op :: code) σ := by
  obtain ⟨σ'', hp, hb, hbuild'⟩ := h
  exact ⟨σ'', hp.cons hop hσ, hb, hbuild'.trans hbuild⟩

end
end Flow

/-- The function can be called: its parameters fit into a frame, and its code or the
plugin it stands for is there. -/
def FunctionInfo.Linked (p : Program) (plugins : Array Plugin) (size : Nat) (f : FunctionInfo) : Prop :=
  f.params.length < size ∧
    match f.callee with
    | .code id => p.hasCode id = true
    | .plugin index =>
      0 ≤ index ∧ ∃ plugin, plugins[index.toNat]? = some plugin ∧ plugin.params.length < size

theorem FunctionInfo.Linked.call {p : Program} {plugins : Array Plugin} {size : Nat}
    {f : FunctionInfo} (h : f.Linked p plugins size) :
    ∃ owner, (Operation.newFrame f.callee.frameOperand).InRange p plugins size ∧
      (∀ σ : Flow, σ.building = none → σ.next? (.newFrame f.callee.frameOperand) =
        some { σ with building := some owner }) ∧
      (Compiler.callOperation f).InRange p plugins size ∧
      ∀ σ : Flow, σ.building = some owner → σ.next? (Compiler.callOperation f) = some {} := by
  obtain ⟨-, hcallee⟩ := h
  cases hc : f.callee with
  | code id =>
    simp only [hc] at hcallee
    have hop : Compiler.callOperation f = .startFrame := by
      simp [Compiler.callOperation, hc, Callee.isPlugin, Callee.pluginIndex]
    have hid : ¬((id : Int) = -1) := by omega
    refine ⟨.code id, .inr hcallee, fun σ hσ => ?_, by rw [hop]; trivial, fun σ hσ => ?_⟩
    · simp [Flow.next?, hσ, Callee.frameOperand, hid]
    · simp [hop, Flow.next?, hσ]
  | plugin index =>
    simp only [hc] at hcallee
    have hop : Compiler.callOperation f = .callPlugin index := by
      simp [Compiler.callOperation, hc, Callee.isPlugin, Callee.pluginIndex, hcallee.1]
    refine ⟨.plugin, .inl rfl, fun σ hσ => ?_, by rw [hop]; exact hcallee, fun σ hσ => ?_⟩
    · simp [Flow.next?, hσ, Callee.frameOperand]
    · simp [hop, Flow.next?, hσ]

namespace Compiler

open Birl.Flow (Checks Yields)

section
variable {c : Compiler} {p : Program} {plugins : Array Plugin} {code ops : List Operation} {σ : Flow}

-- ---------------------------------------------------------------------------
-- Expressions
-- ---------------------------------------------------------------------------

theorem yields_operations (op : Operator) (ha : σ.a = true) (hb : σ.b = true) :
    Yields p plugins c.frameSize op.operations σ := by
  have harith (op : Arithmetic) : Yields p plugins c.frameSize [.arith op] σ := by
    have hnext : σ.next? (.arith op) = some { σ with a := false } := by simp [Flow.next?, ha, hb]
    exact .cons trivial hnext rfl (.nil hb)
  cases op with
  | plus => exact harith .add
  | minus => exact harith .sub
  | times => exact harith .mul
  | divide => exact harith .div
  | _ => exact .nil hb

theorem inRange_read {symbol : Symbol} {size : Nat} (h : symbol.address < size) :
    symbol.read.InRange p plugins size := by
  unfold Symbol.read
  split <;> exact ⟨by omega, by omega⟩

theorem inRange_write {symbol : Symbol} {size : Nat} (h : symbol.address < size) :
    symbol.write.InRange p plugins size := by
  unfold Symbol.write
  split <;> exact ⟨by omega, by omega⟩

theorem next?_read (symbol : Symbol) : σ.next? symbol.read = some { σ with held := true } := by
  unfold Symbol.read
  split <;> rfl

theorem next?_write (symbol : Symbol) (hb : σ.b = true) : σ.next? symbol.write = some σ := by
  unfold Symbol.write
  split <;> simp [Flow.next?, hb]

theorem Loads.checks {node : Node} {load : List Operation} (h : Loads c node load) (hl : Layout c)
    (p : Program) (plugins : Array Plugin) (σ : Flow) :
    ∃ σ', Checks p plugins c.frameSize load σ σ' ∧ σ'.a = σ.a ∧ σ'.b = true ∧
      σ'.building = σ.building := by
  cases h with
  | literal k => exact ⟨{ σ with b := true }, .cons trivial rfl .nil, rfl, rfl, rfl⟩
  | named hr =>
    exact ⟨{ σ with b := true, held := false },
      .cons (inRange_read (hl.resolve hr).1) (next?_read _) (.cons trivial rfl .nil), rfl, rfl, rfl⟩

theorem Loads.yields {node : Node} {load : List Operation} (h : Loads c node load) (hl : Layout c)
    (op : Operator) (hb : σ.b = true) :
    Yields p plugins c.frameSize (.swap :: load ++ op.operations) σ := by
  obtain ⟨σ', hload, ha', hb', hbuild⟩ := h.checks hl p plugins { σ with a := σ.b, b := σ.a }
  obtain ⟨σ'', hops, hb'', hbuild'⟩ : Yields p plugins c.frameSize op.operations σ' :=
    yields_operations op (ha'.trans hb) hb'
  exact ⟨σ'', .cons trivial rfl (hload.append hops), hb'', hbuild'.trans hbuild⟩

theorem yields_foldInto {slot : Nat} (hs : slot < c.frameSize) (op : Operator) (hb : σ.b = true) :
    Yields p plugins c.frameSize (c.foldInto slot op) σ := by
  have hread : σ.next? (c.hidden slot).read = some { σ with held := true } := next?_read _
  refine .cons (inRange_read hs) hread rfl ?_
  refine .cons trivial (show _ = some { σ with a := true, held := false } from rfl) rfl ?_
  exact yields_operations op rfl hb

theorem yields_settle {s : Progress} {next : Nat} (hn : s.low.isSome = true → next < c.frameSize)
    (hb : σ.b = true) : Yields p plugins c.frameSize (s.settle c next) σ := by
  unfold Progress.settle
  cases hlow : s.low with
  | none => exact .nil hb
  | some op => exact yields_foldInto (hn (by simp [hlow])) op hb

/-- The code of the rest of a level passes where register `b` holds what stands so
far. -/
theorem Compiles.yields {next : Nat} {s : Progress} {nodes : List Node}
    (h : Compiles c next s nodes code) (hl : Layout c)
    (hacc : s.hasAccumulator = true → next < c.frameSize)
    (hlow : s.low.isSome = true → s.hasAccumulator = true)
    (hb : s.expectValue = false ∨ s.pending.isSome = true → σ.b = true) :
    Yields p plugins c.frameSize code σ := by
  induction h generalizing σ with
  | finish he => exact yields_settle (fun h => hacc (hlow h)) (hb (.inl he))
  | group he hp _ _ _ ihg ihm =>
    refine (ihg nofun nofun (by simp)).append fun σ' hb' _ => ?_
    exact ihm hacc hlow fun _ => hb'
  | factorGroup he hp _ hf _ _ ihg ihm =>
    have hσ := hb (.inr (by simp [hp]))
    rw [List.append_assoc]
    refine .cons (inRange_write hf) (next?_write _ hσ) rfl ?_
    refine (ihg nofun nofun (by simp)).append fun σ' hb' _ => ?_
    refine (yields_foldInto hf _ hb').append fun σ'' hb'' _ => ?_
    exact ihm hacc hlow fun _ => hb''
  | high he _ _ ih => exact ih hacc hlow fun _ => hb (.inl he)
  | atOnce he _ _ _ _ hload _ ih =>
    rw [List.append_assoc, List.append_assoc]
    refine (yields_settle (fun h => hacc (hlow h)) (hb (.inl he))).append fun σ' hb' _ => ?_
    rw [← List.append_assoc]
    refine (hload.yields hl _ hb').append fun σ'' hb'' _ => ?_
    exact ih hacc nofun fun _ => hb''
  | @deferred next s _ _ _ he _ _ _ _ hf _ ih =>
    have hnext : next < c.frameSize := hf.elim hacc id
    refine (yields_settle (fun h => hacc (hlow h)) (hb (.inl he))).append fun σ' hb' _ => ?_
    refine .cons (inRange_write hnext) (next?_write _ hb') rfl ?_
    exact ih (fun _ => hnext) (fun _ => rfl) fun _ => hb'
  | operand he hp hload _ ih =>
    obtain ⟨σ', hchecks, -, hb', hbuild⟩ := hload.checks hl p plugins σ
    refine Yields.append ⟨σ', hchecks, hb', hbuild⟩ fun σ'' hb'' _ => ?_
    exact ih hacc hlow fun _ => hb''
  | factor he hp hload _ ih =>
    refine (hload.yields hl _ (hb (.inr (by simp [hp])))).append fun σ' hb' _ => ?_
    exact ih hacc hlow fun _ => hb'

theorem yields_expression {next : Nat} {e : Expression} (h : c.expression next e = .ok code)
    (hl : Layout c) (σ : Flow) : Yields p plugins c.frameSize code σ :=
  (compiles_of_expression h).yields hl nofun nofun (by simp)

-- ---------------------------------------------------------------------------
-- Commands
-- ---------------------------------------------------------------------------

theorem Gives.yields (h : Gives c code) (hl : Layout c) (σ : Flow) :
    Yields p plugins c.frameSize code σ := by
  have hconversion (kind : Kind) {σ : Flow} (hb : σ.b = true) :
      Yields p plugins c.frameSize [conversion kind] σ := by
    cases kind <;> exact .cons trivial (by simp [conversion, Flow.next?, hb]) rfl (.nil hb)
  cases h with
  | expression h => exact yields_expression h hl σ
  | null => exact .cons trivial rfl rfl (.nil rfl)
  | input kind =>
    refine .cons trivial rfl rfl (.cons trivial rfl rfl ?_)
    show Yields _ _ _ (if kind = .text then [] else [conversion kind]) _
    split
    · exact .nil rfl
    · exact hconversion kind rfl
  | converted kind hr =>
    refine .cons (inRange_read (hl.resolve hr).1) (next?_read _) rfl (.cons trivial rfl rfl ?_)
    exact hconversion kind rfl

/-- Code that passes where no frame is being built, and builds none. -/
def Steady (p : Program) (plugins : Array Plugin) (size : Nat) (code : List Operation) : Prop :=
  ∀ σ : Flow, σ.building = none → ∃ σ', Checks p plugins size code σ σ' ∧ σ'.building = none

theorem steady_printArguments {op : Operation} (hop : op = .print ∨ op = .printDebug)
    {args : List Expression} (h : c.printArguments op args = .ok code) (hl : Layout c) :
    Steady p plugins c.frameSize code := by
  induction args generalizing code with
  | nil =>
    cases h
    exact fun σ hσ => ⟨σ, .nil, hσ⟩
  | cons e rest ih =>
    simp only [printArguments, bind_ok, pure_ok] at h
    obtain ⟨first, hfirst, more, hmore, rfl⟩ := h
    intro σ hσ
    obtain ⟨σ₁, hvalue, hb, hbuild⟩ : Yields p plugins c.frameSize first σ :=
      yields_expression hfirst hl σ
    obtain ⟨σ₂, hrest, hnone⟩ := ih hmore σ₁ (hbuild.trans hσ)
    have hnext : σ₁.next? op = some σ₁ := by rcases hop with rfl | rfl <;> simp [Flow.next?, hb]
    have hrange : op.InRange p plugins c.frameSize := by rcases hop with rfl | rfl <;> trivial
    exact ⟨σ₂, hvalue.append (.cons hrange hnext hrest), hnone⟩

theorem arguments_checks {address : Nat} {args : List Expression} {kinds : List ParameterKind}
    (h : c.arguments address args kinds = .ok code) (hl : Layout c)
    (ha : address + kinds.length ≤ c.frameSize) {σ : Flow} (hσ : σ.building.isSome = true) :
    ∃ σ', Checks p plugins c.frameSize code σ σ' ∧ σ'.building = σ.building := by
  induction args generalizing address kinds code σ with
  | nil =>
    cases h
    exact ⟨σ, .nil, rfl⟩
  | cons e rest ih =>
    cases kinds with
    | nil =>
      cases h
      exact ⟨σ, .nil, rfl⟩
    | cons kind kinds =>
      simp only [arguments, bind_ok, pure_ok] at h
      obtain ⟨first, hfirst, more, hmore, rfl⟩ := h
      simp only [List.length_cons] at ha
      obtain ⟨σ₁, hvalue, hb, hbuild⟩ : Yields p plugins c.frameSize first σ :=
        yields_expression hfirst hl σ
      have hsome : σ₁.building.isSome = true := by rw [hbuild]; exact hσ
      obtain ⟨σ₂, hrest, hbuild'⟩ := ih hmore (by omega) hsome
      have hassert : σ₁.next? (.assertKind kind) = some σ₁ := by simp [Flow.next?, hb]
      have hwrite : σ₁.next? (.writeArgument address) = some σ₁ := by simp [Flow.next?, hb, hsome]
      refine ⟨σ₂, hvalue.append (.cons trivial hassert (.cons ?_ hwrite hrest)), hbuild'.trans hbuild⟩
      exact ⟨by omega, by omega⟩

theorem comparison_checks {left right : Expression} (h : c.comparison left right = .ok code)
    (hl : Layout c) (σ : Flow) :
    ∃ σ', Checks p plugins c.frameSize code σ σ' ∧ σ'.a = true ∧ σ'.b = true ∧
      σ'.building = σ.building := by
  have hexpr {next : Nat} {e : Expression} {code : List Operation}
      (h : c.expression next e = .ok code) (σ : Flow) : Yields p plugins c.frameSize code σ :=
    yields_expression h hl σ
  have hbetween (h : comparison.between c left right = .ok code) :
      ∃ σ', Checks p plugins c.frameSize code σ σ' ∧ σ'.a = true ∧ σ'.b = true ∧
        σ'.building = σ.building := by
    simp only [comparison.between, bind_ok, pure_ok] at h
    obtain ⟨first, hfirst, slot, hslot, second, hsecond, rfl⟩ := h
    obtain ⟨hlt, rfl⟩ := allocate_ok hslot
    obtain ⟨σ₁, hleft, hb, hbuild⟩ := hexpr hfirst σ
    obtain ⟨σ₂, hright, hb', hbuild'⟩ := hexpr hsecond σ₁
    refine ⟨{ σ₂ with a := true, held := false }, ?_, rfl, hb', hbuild'.trans hbuild⟩
    have hload : Checks p plugins c.frameSize [(c.hidden c.next).read, .heldToA] σ₂
        { σ₂ with a := true, held := false } :=
      .cons (inRange_read hlt) (next?_read _) (.cons trivial rfl .nil)
    exact (hleft.append (.cons (inRange_write hlt) (next?_write _ hb) hright)).append hload
  unfold comparison at h
  split at h
  · simp only [bind_ok, pure_ok] at h
    obtain ⟨first, hfirst, rfl⟩ := h
    obtain ⟨σ₁, hright, hb, hbuild⟩ := hexpr hfirst σ
    exact ⟨{ σ₁ with a := true }, hright.append (.cons trivial rfl .nil), rfl, hb, hbuild⟩
  · split at h
    · exact hbetween h
    · simp only [bind_ok, pure_ok] at h
      obtain ⟨first, hfirst, load, hload, rfl⟩ := h
      obtain ⟨σ₁, hleft, hb, hbuild⟩ := hexpr hfirst σ
      obtain ⟨σ₂, hright, ha, hb', hbuild'⟩ :=
        (loads_of_ok hload).checks hl p plugins { σ₁ with a := σ₁.b, b := σ₁.a }
      exact ⟨σ₂, hleft.append (.cons trivial rfl hright), ha.trans hb, hb', hbuild'.trans hbuild⟩
  · exact hbetween h

theorem Takes.address_lt {symbol : Symbol} {c' : Compiler} (h : Takes c symbol c') (hl : Layout c) :
    symbol.address < c.frameSize := by
  cases h with
  | visible hr => exact (hl.resolve hr).1
  | declared hd =>
    have hdeclares := declares_of_ok hd
    obtain ⟨hl', ha, -⟩ := hdeclares.layout hl
    have hsize := hdeclares.keeps.1
    have hnext := hl'.next_le
    omega

theorem Emits.steady {c' : Compiler} {hint : ScopeHint} (h : Emits c code c' hint) (hl : Layout c)
    (hf : ∀ name f, c.function? name = some f → f.Linked p plugins c.frameSize) :
    Steady p plugins c.frameSize code := by
  intro σ hσ
  cases h with
  | @print op args code tail hop hprint ht =>
    obtain ⟨σ₁, hchecks, hnone⟩ : ∃ σ', Checks p plugins c.frameSize code σ σ' ∧ σ'.building = none :=
      steady_printArguments hop hprint hl σ hσ
    refine ⟨σ₁, ?_, hnone⟩
    rw [List.append_assoc]
    refine hchecks.append ?_
    rcases ht with rfl | rfl
    · exact .cons trivial rfl .nil
    · exact .cons trivial rfl (.cons trivial rfl .nil)
  | @assign code symbol _ hv ht =>
    obtain ⟨σ₁, hvalue, hb, hbuild⟩ : Yields p plugins c.frameSize code σ := hv.yields hl σ
    have hrange : symbol.write.InRange p plugins c.frameSize := inRange_write (ht.address_lt hl)
    exact ⟨σ₁, hvalue.append (.cons hrange (next?_write _ hb) .nil), hbuild.trans hσ⟩
  | @giveBack code hv =>
    obtain ⟨σ₁, hvalue, hb, hbuild⟩ : Yields p plugins c.frameSize code σ := hv.yields hl σ
    have hnext : σ₁.next? .returnValue = some {} := by simp [Flow.next?, hb, hbuild, hσ]
    exact ⟨{}, hvalue.append (.cons trivial hnext .nil), rfl⟩
  | @compare _ _ code hcompare =>
    obtain ⟨σ₁, hvalues, ha, hb, hbuild⟩ : ∃ σ', Checks p plugins c.frameSize code σ σ' ∧
        σ'.a = true ∧ σ'.b = true ∧ σ'.building = σ.building := comparison_checks hcompare hl σ
    have hnext : σ₁.next? .compare = some σ₁ := by simp [Flow.next?, ha, hb]
    exact ⟨σ₁, hvalues.append (.cons trivial hnext .nil), hbuild.trans hσ⟩
  | openBlock condition => exact ⟨{}, .cons trivial (by simp [Flow.next?, hσ]) .nil, rfl⟩
  | closeBlock hb => exact ⟨{}, .cons trivial (by simp [Flow.next?, hσ]) .nil, rfl⟩
  | @call name f args code hfun hargs hcode =>
    have hlinked := hf name f hfun
    obtain ⟨owner, hnew, hbuilds, hcall, hstarts⟩ := hlinked.call
    have hsize := hlinked.1
    obtain ⟨σ₁, hchecks, hbuild⟩ : ∃ σ', Checks p plugins c.frameSize code
        { σ with building := some owner } σ' ∧ σ'.building = some owner :=
      arguments_checks hcode hl (by omega) rfl
    exact ⟨{}, (hchecks.cons hnew (hbuilds σ hσ)).append (.cons hcall (hstarts σ₁ hbuild) .nil), rfl⟩
  | openFunction => exact ⟨σ, .nil, hσ⟩
  | closeFunction => exact ⟨σ, .nil, hσ⟩
  | quit => exact ⟨σ, .cons trivial rfl (.cons trivial rfl .nil), hσ⟩

end

-- ---------------------------------------------------------------------------
-- Whole programs
-- ---------------------------------------------------------------------------

/-- The program is verified, and whatever can be called is there. -/
structure Safe (plugins : Array Plugin) (c : Compiler) : Prop where
  layout : Layout c
  base : Program.empty.Extends c.program
  functions : ∀ name f, c.function? name = some f → f.Linked c.program plugins c.frameSize
  verified : c.program.Verified plugins c.frameSize

section
variable {c c' : Compiler} {plugins plugins' : Array Plugin} {p p' : Program} {size : Nat}

theorem hasCode_extends (h : p.Extends p') {code : Int} (hc : p.hasCode code = true) :
    p'.hasCode code = true := by
  have hcode : 0 ≤ code := by
    simp only [Program.hasCode, Bool.and_eq_true, decide_eq_true_eq] at hc
    exact hc.1
  obtain ⟨id, rfl⟩ := Int.eq_ofNat_of_zero_le hcode
  obtain ⟨s, hs⟩ := (p.hasCode_iff id).mp hc
  obtain ⟨more, hs'⟩ := h id s hs
  exact (p'.hasCode_iff id).mpr ⟨_, hs'⟩

/-- The plugins are still there, and maybe more. -/
def Keeps (plugins plugins' : Array Plugin) : Prop :=
  ∀ (i : Nat) plugin, plugins[i]? = some plugin → plugins'[i]? = some plugin

theorem keeps_push (plugins : Array Plugin) (plugin : Plugin) : Keeps plugins (plugins.push plugin) := by
  intro i x hi
  have hlt := (Array.getElem?_eq_some_iff.mp hi).1
  rw [Array.getElem?_push, if_neg (by omega)]
  exact hi

theorem inRange_extends (hp : p.Extends p') (hk : Keeps plugins plugins') {op : Operation}
    (h : op.InRange p plugins size) : op.InRange p' plugins' size := by
  cases op with
  | newFrame code => exact h.imp_right (hasCode_extends hp)
  | callPlugin index =>
    obtain ⟨hi, plugin, hplugin, hl⟩ := h
    exact ⟨hi, plugin, hk _ _ hplugin, hl⟩
  | _ => exact h

theorem linked_extends (hp : p.Extends p') (hk : Keeps plugins plugins') {f : FunctionInfo}
    (h : f.Linked p plugins size) : f.Linked p' plugins' size := by
  obtain ⟨hl, hcallee⟩ := h
  refine ⟨hl, ?_⟩
  cases hc : f.callee with
  | code id =>
    simp only [hc] at hcallee
    exact hasCode_extends hp hcallee
  | plugin index =>
    simp only [hc] at hcallee
    obtain ⟨hi, plugin, hplugin, hlen⟩ := hcallee
    exact ⟨hi, plugin, hk _ _ hplugin, hlen⟩

theorem verified_extends (hk : Keeps plugins plugins') (h : p.Verified plugins size) :
    p.Verified plugins' size :=
  ⟨fun id s hs op hop => inRange_extends (.refl p) hk (h.inRange id s hs op hop), h.flow⟩

theorem verified_append (h : p.Verified plugins size) {code : List Instruction}
    (hs : Steady p plugins size (code.map Instruction.op)) (id : Nat) :
    (p.append id code).Verified plugins size := by
  have hold := p.extends_append id code
  have hkeep : Keeps plugins plugins := fun _ _ hi => hi
  constructor
  · intro i s hseg op hop
    rw [Program.segment?_append] at hseg
    obtain ⟨s', hs', rfl⟩ := Option.map_eq_some_iff.mp hseg
    refine inRange_extends hold hkeep ?_
    split at hop
    · rw [Segment.operations_append] at hop
      rcases List.mem_append.mp hop with hop | hop
      · exact h.inRange i s' hs' op hop
      · obtain ⟨_, hchecks, -⟩ := hs {} rfl
        exact hchecks.inRange op hop
    · exact h.inRange i s' hs' op hop
  · intro i s hseg
    rw [Program.segment?_append] at hseg
    obtain ⟨s', hs', rfl⟩ := Option.map_eq_some_iff.mp hseg
    obtain ⟨σ, hσ, hnone⟩ := h.flow i s' hs'
    split
    · obtain ⟨σ', hchecks, hnone'⟩ := hs σ hnone
      refine ⟨σ', ?_, hnone'⟩
      rw [Segment.operations_append, Flow.after?_append, hσ]
      exact hchecks.flow
    · exact ⟨σ, hσ, hnone⟩

theorem verified_addSegment (h : p.Verified plugins size) (name : Text) :
    (p.addSegment name).2.Verified plugins size := by
  have hkeep : Keeps plugins plugins := fun _ _ hi => hi
  constructor
  · intro i s hs op hop
    rw [Program.segment?_addSegment] at hs
    split at hs
    · cases hs
      simp [Segment.operations] at hop
    · exact inRange_extends (p.extends_addSegment name) hkeep (h.inRange i s hs op hop)
  · intro i s hs
    rw [Program.segment?_addSegment] at hs
    split at hs
    · cases hs
      exact ⟨{}, rfl, rfl⟩
    · exact h.flow i s hs

theorem verified_empty : Program.empty.Verified plugins size := by
  constructor
  · intro id s hs op hop
    rw [Program.operations_empty hs] at hop
    cases hop
  · intro id s hs
    exact ⟨{}, by rw [Program.operations_empty hs]; rfl, rfl⟩

theorem safe_new (requested : Int) (plugins : Array Plugin) : Safe plugins (.new requested) :=
  ⟨(Reachable.new requested).layout, .refl _, nofun, verified_empty⟩

theorem Safe.addPlugin (h : Safe plugins c) (plugin : Plugin) : Safe (plugins.push plugin) c :=
  ⟨h.layout, h.base,
    fun name f hf => linked_extends (.refl _) (keeps_push plugins plugin) (h.functions name f hf),
    verified_extends (keeps_push plugins plugin) h.verified⟩

theorem Safe.declareGlobal (h : Safe plugins c) {name : Text} {readOnly : Bool} {address : Nat}
    (hd : c.declareGlobal name readOnly = .ok (address, c')) : Safe plugins c' := by
  obtain ⟨-, symbol, -, hdeclares⟩ := declareGlobal_ok hd
  obtain ⟨hsize, hprogram, hfunctions, -⟩ := hdeclares.keeps
  refine ⟨(hdeclares.layout h.layout).1, hprogram ▸ h.base, ?_, ?_⟩
  · intro name f hf
    rw [hprogram, hsize]
    exact h.functions name f (by simpa [function?, hfunctions] using hf)
  · rw [hprogram, hsize]
    exact h.verified

theorem function?_cons {name name' : Text} {f f' : FunctionInfo}
    (h : ((name, f) :: c.functions).lookup name' = some f') :
    f' = f ∨ c.function? name' = some f' := by
  rw [List.lookup_cons] at h
  split at h
  · exact .inl (Option.some.inj h).symm
  · exact .inr h

theorem Safe.registerPlugin (h : Safe plugins c) {name : Text} {params : List ParameterKind}
    (call : Callback) (hr : c.registerPlugin name params plugins.size = .ok c') :
    Safe (plugins.push { name, params, call }) c' := by
  have hadded := h.addPlugin { name, params, call }
  obtain ⟨-, hl, rfl⟩ := registerPlugin_ok hr
  refine ⟨h.layout.of_eq rfl rfl rfl rfl rfl, h.base, fun name' f hf => ?_, hadded.verified⟩
  rcases function?_cons hf with rfl | hf
  · exact ⟨hl, by omega, _, Array.getElem?_push_size, hl⟩
  · exact hadded.functions name' f hf

theorem Safe.append (h : Safe plugins c) {code : List Instruction} (id : Nat)
    (hs : Steady c.program plugins c.frameSize (code.map Instruction.op)) :
    Safe plugins { c with program := c.program.append id code } := by
  have hextends := c.program.extends_append id code
  refine ⟨h.layout.of_eq rfl rfl rfl rfl rfl, h.base.trans hextends, fun name f hf => ?_, ?_⟩
  · exact linked_extends hextends (fun _ _ hi => hi) (h.functions name f hf)
  · exact verified_append h.verified hs id

theorem Safe.appendEntryCall (h : Safe plugins c) (line : Int) :
    Safe plugins (c.appendEntryCall line) := by
  refine h.append globalCode fun σ hσ => ?_
  obtain ⟨more, hentry⟩ := h.base entryCode _ rfl
  have hcode : c.program.hasCode entryCode = true := (c.program.hasCode_iff entryCode).mpr ⟨_, hentry⟩
  exact ⟨{}, .cons (.inr hcode) (by simp [Flow.next?, hσ]; rfl) (.cons trivial rfl .nil), rfl⟩

theorem Safe.of_eq (h : Safe plugins c) (hl : Layout c') (hs : c'.frameSize = c.frameSize)
    (hp : c'.program = c.program) (hf : c'.functions = c.functions) : Safe plugins c' := by
  refine ⟨hl, hp ▸ h.base, fun name f hfun => ?_, by rw [hp, hs]; exact h.verified⟩
  rw [hp, hs]
  exact h.functions name f (by simpa [function?, hf] using hfun)

theorem headerCode_ok (h : Safe plugins c) (name : Text) :
    c.program.Extends (headerCode c name).2 ∧
      (headerCode c name).2.hasCode (headerCode c name).1 = true ∧
      (headerCode c name).2.Verified plugins c.frameSize := by
  unfold headerCode
  split
  · obtain ⟨more, hentry⟩ := h.base entryCode _ rfl
    exact ⟨.refl _, (c.program.hasCode_iff entryCode).mpr ⟨_, hentry⟩, h.verified⟩
  · refine ⟨c.program.extends_addSegment name, ?_, verified_addSegment h.verified name⟩
    refine (Program.hasCode_iff _ _).mpr ⟨{ name }, ?_⟩
    rw [Program.segment?_addSegment]
    exact if_pos rfl

theorem Emits.safe {code : List Operation} {hint : ScopeHint} (he : Emits c code c' hint)
    (h : Safe plugins c) :
    Safe plugins c' ∧ c'.frameSize = c.frameSize ∧ c.program.Extends c'.program := by
  have hl := he.layout h.layout
  cases he with
  | assign _ ht =>
    obtain ⟨hs, hp, hf, -⟩ := ht.keeps
    exact ⟨h.of_eq hl hs hp hf, hs, hp ▸ .refl _⟩
  | @openFunction name params vars kinds _ _ _ hfit hbind =>
    obtain ⟨hextends, hcode, hverified⟩ := headerCode_ok h name
    have hreturn : Bindings.Within [(returnName, { address := 0 })] 1 false :=
      Bindings.within_single _ (by decide) rfl
    have hkinds := (bindParameters_within hbind hreturn).2
    refine ⟨⟨hl, h.base.trans hextends, fun name' f hf => ?_, hverified⟩, rfl, hextends⟩
    rcases function?_cons hf with rfl | hf
    · exact ⟨hkinds ▸ hfit, hcode⟩
    · exact linked_extends hextends (fun _ _ hi => hi) (h.functions name' f hf)
  | _ => exact ⟨h.of_eq hl rfl rfl rfl, rfl, .refl _⟩

theorem Safe.compile (h : Safe plugins c) {line : Int} {cmd : Command} {hint : ScopeHint}
    (hc : c.compile line cmd = .ok (hint, c')) : Safe plugins c' := by
  obtain ⟨code, c₁, hemits, rfl⟩ := compile_ok hc
  obtain ⟨hsafe, hsize, hextends⟩ := hemits.safe h
  refine hsafe.append c.currentCode ?_
  have hcode : (code.map fun op => ({ op, line } : Instruction)).map Instruction.op = code := by
    simp [Function.comp_def]
  rw [hcode, hsize]
  exact hemits.steady h.layout fun name f hf =>
    linked_extends hextends (fun _ _ hi => hi) (h.functions name f hf)

end
end Compiler
end Birl
