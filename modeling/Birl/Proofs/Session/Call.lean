import Birl.Proofs.Compiler.Call
import Birl.Proofs.Machine.Resume
import Birl.Proofs.Session.Safety

/-!
# Calls in sessions

Where the machine of a session comes to a line that calls something, what the compiler
knew of the callee is still true: its code is there, its plugin takes the parameters that
were checked, the frame that runs is of the kind that the line was compiled for, and
nothing is under construction. So the call goes as it should (`call_protocol`).
-/

namespace Birl

open Machine

namespace Machine

section
variable {p p' : Program} {m : Machine} {ops : List Operation}

theorem Housed.extend {s : List Control} (h : Housed p p s) (hp : p.Extends p') :
    Housed p' p' s := by
  induction s with
  | nil => exact h
  | cons c rest ih =>
    cases rest with
    | nil => exact h
    | cons next rest =>
      refine ⟨h.1.imp_right ?_, ih h.2⟩
      rintro ⟨id, ho, hne, segment, hs, -⟩
      obtain ⟨more, hs'⟩ := hp id segment hs
      exact ⟨id, ho, hne, _, hs', hs'⟩

theorem Housed.calls (h : Housed p p m.stack) : ∀ frame ∈ m.calls, frame.owner ≠ .code globalCode := by
  have hstack : m.stack = m.calls.map Frame.control ++ [m.global.control] := by
    simp [stack, frames]
  rw [hstack] at h
  generalize m.calls = calls at h
  induction calls with
  | nil => exact List.forall_mem_nil _
  | cons frame calls ih =>
    intro x hx
    rcases List.mem_cons.mp hx with rfl | hx
    · intro howner
      rcases Housed.head h howner with ⟨hnil, -⟩ | ⟨hne, -⟩
      · simp at hnil
      · exact hne rfl
    · exact ih (Housed.tail h (by simp)) x hx

theorem settled_of_building (h : m.building = none) : m.Settled := by
  cases hc : m.calls with
  | nil => exact .inl hc
  | cons frame rest =>
    have hready : frame.ready = true := by simpa [building, hc] using h
    have hcur : m.current = frame := by simp [current, hc, lastReady?, hready]
    exact .inr ⟨rest, by rw [hcur, hc], hcur ▸ hready⟩

theorem Safe.settled (h : m.Safe p) (hp : p.Flows) (hk : m.current.skip = 0) {code : Int}
    (ha : Ahead p m (.newFrame code :: ops)) : m.Settled := by
  obtain ⟨σ, above, c, below, hplaced, -⟩ := h.stands
  obtain ⟨segment, instruction, hs, hi, hop⟩ := ha.head
  obtain ⟨σ', hσ, -⟩ := hplaced.next hp hs hi
  have hbuilding : σ.building = none := by
    rw [hop] at hσ
    exact (Option.ite_none_right_eq_some.mp hσ).1
  have hskip : c.skip = 0 := (congrArg Control.skip hplaced.current).symm.trans hk
  have hbuilds := hplaced.builds hskip
  rw [hbuilding] at hbuilds
  exact settled_of_building (building_of_stack hplaced.stack hplaced.knows.ready hbuilds)

theorem ahead_of_append {q : Program} {id : Nat} {segment : Segment} {code : List Instruction}
    (hp : (q.append id code).Extends p) (hs : q.segment? id = some segment)
    (ho : m.current.owner = .code id) (hpc : m.current.pc = segment.code.size) :
    Ahead p m (code.map Instruction.op) := by
  have hcode : (q.append id code).segment? id = some { segment with code := segment.code ++ code } := by
    simp [Program.segment?_append, hs]
  obtain ⟨more, hmore⟩ := hp id _ hcode
  have hsegment : m.segment? p = p.segment? id := by simp [segment?, ho]
  refine ⟨_, hsegment.trans hmore, more.map Instruction.op, ?_⟩
  rw [Segment.operations_append, Segment.operations_append, List.append_assoc, hpc,
    ← segment.length_operations, List.drop_left]

end
end Machine

namespace Compiler

section
variable {c c' : Compiler} {code : List Operation} {hint : ScopeHint} {m : Machine}

/-- All that a compiled program calls is a plugin or a function. -/
theorem Reachable.continues (h : c.Reachable) (hf : c.program.Flows) :
    c.program.Continues c.program := by
  refine ⟨.refl _, hf, fun id s hs operand hop => ?_⟩
  rcases h.refers id s hs _ hop with rfl | ⟨hne, hcode⟩
  · exact .inl rfl
  · have hpos : 0 ≤ operand := by
      simp only [Program.hasCode, Bool.and_eq_true, decide_eq_true_eq] at hcode
      exact hcode.1
    obtain ⟨id', rfl⟩ := Int.eq_ofNat_of_zero_le hpos
    obtain ⟨s', hs'⟩ := (c.program.hasCode_iff id').mp hcode
    exact .inr ⟨id', rfl, fun hzero => hne (congrArg Int.ofNat hzero), s', hs', hs'⟩

theorem Emits.plugin (he : Emits c code c' hint) {name : Text} {f : FunctionInfo} {index : Int}
    (hf : c'.function? name = some f) (hi : f.callee = .plugin index) : c.function? name = some f := by
  cases he with
  | assign _ ht =>
    obtain ⟨-, -, hfunctions, -⟩ := ht.keeps
    simpa [function?, hfunctions] using hf
  | openFunction =>
    rcases function?_cons hf with rfl | hold
    · cases hi
    · exact hold
  | _ => exact hf

theorem call_of_ok {line : Int} {cmd : Command} (h : c.compile line cmd = .ok (hint, c'))
    (hk : cmd.kind = .call) :
    ∃ f code, c.function? cmd.name = some f ∧ cmd.args.length = f.params.length ∧
      c.arguments 1 cmd.args f.params = .ok code ∧
      c' = { c with
        program := c.program.append c.currentCode
          ((.newFrame f.callee.frameOperand :: code ++ [callOperation f]).map fun op =>
            { op, line }) } := by
  unfold compile at h
  split at h
  · cases h
  · rename_i compiled hcompiled
    cases h
    simp only [compileCommand, hk] at hcompiled
    unfold compileCall at hcompiled
    split at hcompiled
    · cases hcompiled
    · rename_i f hf
      simp only [check_ok, bind_ok, pure_ok] at hcompiled
      obtain ⟨hargs, code, hcode, rfl⟩ := hcompiled
      exact ⟨f, code, hf, by simpa using hargs, hcode, rfl⟩

theorem Reachable.matches (h : c.Reachable) (hsize : m.frameSize = c.frameSize)
    (ho : m.current.owner = .code c.currentCode) (hk : m.current.skip = 0) (hr : m.Rooted)
    (hc : ∀ frame ∈ m.calls, frame.owner ≠ .code globalCode) : c.Matches m := by
  refine ⟨hsize, hk, ?_⟩
  cases hready : lastReady? m.calls with
  | none =>
    have hcur : m.current = m.global := by simp [current, hready]
    have howner : FrameOwner.code c.currentCode = .code globalCode := by
      rw [← ho, hcur]
      exact hr.1
    exact h.inGlobal_iff.mpr (FrameOwner.code.inj howner)
  | some frame =>
    have hcur : m.current = frame := by simp [current, hready]
    have hne : c.currentCode ≠ globalCode := by
      intro hzero
      refine hc frame (List.mem_of_find?_eq_some hready) ?_
      rw [← hcur, ho, hzero]
    exact Bool.eq_false_iff.mpr fun hin => hne (h.inGlobal_iff.mp hin)

end
end Compiler

namespace Session

/-- What the compiler knows of plugins is true of the machine, and all frames but the
first are those of calls. -/
structure Linked (ready : Bool) (s : Session) : Prop where
  compiler : s.compiler.Reachable
  plugins : ∀ name f index, s.compiler.function? name = some f → f.callee = .plugin index →
    ∃ plugin, s.machine.plugin? index = some plugin ∧ plugin.params = f.params
  housed : ready = true → Housed s.program s.program s.machine.stack

section
variable {host : Callback → Prop} {ready : Bool} {s : Session}

theorem Linked.withCompiler (h : Linked ready s) {compiler : Compiler} (hc : compiler.Reachable)
    (hp : s.program.Extends compiler.program)
    (hf : ∀ name f index, compiler.function? name = some f → f.callee = .plugin index →
      s.compiler.function? name = some f) : Linked ready { s with compiler } :=
  ⟨hc, fun name f index hfun hi => h.plugins name f index (hf name f index hfun hi) hi,
    fun hr => (h.housed hr).extend hp⟩

theorem Linked.withMachine (h : Linked ready s) {machine : Machine}
    (hp : machine.plugins = s.machine.plugins) (hs : machine.stack = s.machine.stack) :
    Linked ready { s with machine } := by
  refine ⟨h.compiler, fun name f index hf hi => ?_, fun hr => ?_⟩
  · unfold Machine.plugin?
    rw [hp]
    exact h.plugins name f index hf hi
  · show Housed s.program s.program machine.stack
    rw [hs]
    exact h.housed hr

theorem Linked.machineSetGlobal (h : Linked ready s) {address : Int} {v : Value} {machine : Machine}
    (hs : s.machine.setGlobal address v = .ok machine) : Linked ready { s with machine } := by
  obtain ⟨global, rfl, hcontrol⟩ := Machine.setGlobal_ok hs
  refine h.withMachine rfl ?_
  simp [Machine.stack, Machine.frames, hcontrol]

theorem Linked.registerGlobal (h : Linked ready s) (name : Text) (v : Value) (readOnly : Bool) :
    Linked ready (s.registerGlobal name v readOnly).1 := by
  refine registerGlobal_induct h (fun address compiler hd => ?_)
    fun _ _ _ hdeclared hs => hdeclared.machineSetGlobal hs
  have hreachable := Compiler.Reachable.declareGlobal h.compiler hd
  obtain ⟨-, symbol, -, hdeclares⟩ := Compiler.declareGlobal_ok hd
  obtain ⟨-, hprogram, hfunctions, -⟩ := hdeclares.keeps
  refine h.withCompiler hreachable (hprogram ▸ .refl _) fun name f index hf _ => ?_
  simpa [Compiler.function?, hfunctions] using hf

theorem Linked.setGlobal (h : Linked ready s) (name : Text) (v : Value) :
    Linked ready (s.setGlobal name v).1 :=
  setGlobal_induct h fun _ _ _ hs => h.machineSetGlobal hs

theorem Linked.getGlobal (h : Linked ready s) (name : Text) : Linked ready (s.getGlobal name).1 :=
  getGlobal_induct h fun _ _ => h.withMachine rfl rfl

theorem Linked.registerPlugin (h : Linked ready s) (name : Text) (params : List ParameterKind)
    (call : Callback) : Linked ready (s.registerPlugin name params (some call)).1 := by
  have hadded : Linked ready
      { s with machine := (s.machine.addPlugin { name, params, call }).2 } := by
    refine ⟨h.compiler, fun name' f index hf hi => ?_, h.housed⟩
    obtain ⟨plugin, hplugin, hparams⟩ := h.plugins name' f index hf hi
    refine ⟨plugin, ?_, hparams⟩
    obtain ⟨hpos, hget⟩ := Option.ite_none_right_eq_some.mp hplugin
    exact (if_pos hpos).trans (Compiler.keeps_push _ _ _ _ hget)
  refine registerPlugin_induct h hadded fun compiler hr => ?_
  have hreachable := Compiler.Reachable.registerPlugin h.compiler hr
  obtain ⟨-, -, rfl⟩ := Compiler.registerPlugin_ok hr
  refine ⟨hreachable, fun name' f index hf hi => ?_, h.housed⟩
  rcases Compiler.function?_cons hf with rfl | hold
  · cases hi
    exact ⟨_, (if_pos (Int.natCast_nonneg _)).trans Array.getElem?_push_size, rfl⟩
  · exact hadded.plugins name' f index hold hi

theorem linked_new {options : SessionOptions} (h : Session.new options = .ok s) : Linked true s := by
  have hstart : Linked true (start options) := ⟨.new _, nofun, fun _ => rfl⟩
  exact new_induct hstart (fun _ k hl => hl.withMachine rfl rfl)
    (fun _ name v readOnly hl => hl.registerGlobal name v readOnly)
    (fun _ plugin _ hl => hl.registerPlugin plugin.name plugin.params plugin.call) h

theorem Linked.step (h : Linked true s) (hf : Fit host true s) {machine : Machine}
    {r : Except Error Status} (hs : s.machine.step s.program = (machine, r)) :
    Linked r.isOk { s with machine } := by
  obtain ⟨hplugins, -⟩ := step_setup hs
  refine ⟨h.compiler, fun name f index hfun hi => ?_, fun hok => ?_⟩
  · unfold Machine.plugin?
    rw [hplugins]
    exact h.plugins name f index hfun hi
  · cases r with
    | error e => cases hok
    | ok status =>
      obtain ⟨σ, above, c, below, hplaced, -⟩ := (hf.safe rfl).stands
      exact hplaced.housed (h.compiler.continues hf.verified.flow) (h.housed rfl) hs

theorem Reachable.linked (hlaw : ∀ call, host call → call.Lawful) (h : Reachable host ready s) :
    Linked ready s := by
  induction h with
  | new h => exact linked_new h
  | compiled _ hc ih =>
    have hreachable := Compiler.Reachable.compile ih.compiler hc
    have hwidens := Compiler.widens_compile hc
    obtain ⟨code, c₁, hemits, rfl⟩ := Compiler.compile_ok hc
    exact ih.withCompiler hreachable hwidens.program fun name f index hf hi => hemits.plugin hf hi
  | entryCall line _ ih =>
    exact ih.withCompiler (.appendEntryCall line ih.compiler) (Program.extends_append _ _ _)
      fun _ _ _ hf _ => hf
  | stepped h hs ih => exact ih.step (h.fit hlaw) hs
  | failed h hs ih => exact ih.step (h.fit hlaw) hs
  | recovered h ih => exact ⟨ih.compiler, ih.plugins, fun _ => (h.fit hlaw).rooted.1⟩
  | registerGlobal name v readOnly _ ih => exact ih.registerGlobal name v readOnly
  | registerPlugin name params call _ _ ih => exact ih.registerPlugin name params call
  | setGlobal name v _ ih => exact ih.setGlobal name v
  | getGlobal name _ ih => exact ih.getGlobal name
  | intern k _ ih => exact ih.withMachine rfl rfl
  | streams input output _ ih => exact ih.withMachine rfl rfl
  | noted _ _ _ _ _ _ _ _ ih => exact ⟨ih.compiler, ih.plugins, ih.housed⟩

/-- The machine of the session is about to run the code of a line, which a compiler `c`
of its past has turned to `c'`, and does not skip. -/
structure AtLine (s : Session) (c c' : Compiler) : Prop where
  later : c'.Widens s.compiler
  owner : s.machine.current.owner = .code c.currentCode
  pc : ∃ segment, c.program.segment? c.currentCode = some segment ∧
    s.machine.current.pc = segment.code.size
  skip : s.machine.current.skip = 0

end
end Session

-- ---------------------------------------------------------------------------
-- The whole
-- ---------------------------------------------------------------------------

/-- Where a session comes to the code of a line that calls a function or a plugin, the
arguments are evaluated and checked in order, the callee starts with them, or nothing of
it runs, and where it is left the caller goes on behind the call. -/
theorem call_protocol {host : Callback → Prop} (hlaw : ∀ call, host call → call.Lawful)
    {s : Session} (hs : Session.Reachable host true s) {c c' : Compiler} {line : Int}
    {cmd : Command} {hint : ScopeHint} (hc : c.Reachable)
    (h : c.compile line cmd = .ok (hint, c')) (hk : cmd.kind = .call) (hl : s.AtLine c c') :
    ∃ (f : FunctionInfo) (code : List Operation), c.function? cmd.name = some f ∧
      cmd.args.length = f.params.length ∧
      c'.program = c.program.append c.currentCode (code.map fun op => { op, line }) ∧
      Compiler.Calls s.program c f cmd.args code.length s.machine := by
  have hfit := hs.fit hlaw
  have hlinked := hs.linked hlaw
  have hwidens := (Compiler.widens_compile h).trans hl.later
  obtain ⟨f, code, hf, hlen, hcode, rfl⟩ := Compiler.call_of_ok h hk
  obtain ⟨segment, hsegment, hpc⟩ := hl.pc
  have hahead : Ahead s.program s.machine
      (.newFrame f.callee.frameOperand :: (code ++ [Compiler.callOperation f])) := by
    have hahead := @ahead_of_append s.program s.machine _ _ _ _ hl.later.program hsegment hl.owner hpc
    simpa [Function.comp_def] using hahead
  have hmatches := hc.matches (hfit.size.trans hwidens.frameSize) hl.owner hl.skip hfit.rooted
    (hlinked.housed rfl).calls
  have hsettled := (hfit.safe rfl).settled hfit.verified.flow hl.skip hahead
  have hfun := hwidens.functions cmd.name f hf
  have hcalls : Compiler.Calls s.program c f cmd.args (code.length + 2) s.machine := by
    refine Compiler.calls_of_arguments hc.layout hfit.sound hmatches hsettled
      (hc.known cmd.name f hf).fits (fun id hid => ?_) (fun index hindex => ?_) hlen hcode hahead
    · exact ((hlinked.compiler.known cmd.name f hfun).code id hid).2
    · obtain ⟨plugin, hplugin, hparams⟩ := hlinked.plugins cmd.name f index hfun hindex
      have hlive := hfit.lives plugin (mem_plugins_of_plugin? hplugin)
      exact ⟨(Option.ite_none_right_eq_some.mp hplugin).1, plugin, hplugin, hparams, hlive⟩
  refine ⟨f, .newFrame f.callee.frameOperand :: code ++ [Compiler.callOperation f], hf, hlen, rfl, ?_⟩
  simpa using hcalls

/-- A compiler that knows a function of a Number, and a call that gives it an Integer. -/
def knowingF : Compiler :=
  { Compiler.new 8 with
    program := ⟨#[{ name := "<global>" }, { name := "SHOW" }, { name := "F" }]⟩
    functions := [("F", { name := "F", callee := .code 2, params := [.known .number] })] }

def givingThree : Command := { kind := .call, name := "F", args := [[.value (.int 3)]] }

def beforeCall (compiler : Compiler) : Session :=
  { interactive := false, file := .empty, compiler, machine := .new 8 }

theorem reachable_beforeCall : Session.Reachable (fun _ => False) true (beforeCall knowingF) := by
  have hnew : Session.Reachable (fun _ => False) true (beforeCall (.new 8)) :=
    .new (rfl : Session.new { frameSize := 8, library := false } = .ok _)
  have hopened := hnew.compiled (rfl : (Compiler.new 8).compile 1
    { kind := .functionStart, name := "F", params := [{ name := "X", kind := "TRAPEZIO" }] } =
      .ok (.opened, _))
  exact hopened.compiled
    (rfl : Compiler.compile _ 2 { kind := .functionEnd } = .ok (.closed, knowingF))

theorem compile_givingThree : ∃ c, knowingF.compile 3 givingThree = .ok (.none, c) := by
  have hvalue : knowingF.expression 1 [.value (.int 3)] = .ok [.loadB (.int 3)] := by
    simp [Compiler.expression, Compiler.compileFrom]
    rfl
  have harguments : knowingF.arguments 1 [[.value (.int 3)]] [.known .number] =
      .ok [.loadB (.int 3), .assertKind (.known .number), .writeArgument 1] := by
    rw [Compiler.arguments, show knowingF.next = 1 from rfl, hvalue]
    rfl
  have hfunction : knowingF.function? "F" =
      some { name := "F", callee := .code 2, params := [.known .number] } := rfl
  have hcommand : knowingF.compileCommand givingThree = knowingF.compileCall givingThree := rfl
  rw [Compiler.compile, hcommand, Compiler.compileCall]
  simp only [givingThree, hfunction, harguments]
  exact ⟨_, rfl⟩

theorem call_protocol_promoted : ∃ (s : Session) (n : Nat) (m m' : Machine),
    Session.Reachable (fun _ => False) true s ∧ NormalSteps s.program n s.machine m ∧
      m.current.place = (⟨.code 2, 0, true, 0⟩, .none) ∧
      m.current.constant? 1 = some (.number (.ofInt64 3)) ∧ m.current.constant? 2 = some .null ∧
      Machine.step s.program m = (m', .ok .returned) ∧ m'.depth = 1 ∧ m'.current.pc = n ∧
      m'.current.constant? 0 = some .null := by
  have hknowing : knowingF.Reachable := (reachable_beforeCall.linked nofun).compiler
  obtain ⟨c, hcompile⟩ := compile_givingThree
  have hs : Session.Reachable (fun _ => False) true (beforeCall c) :=
    reachable_beforeCall.compiled hcompile
  have hline : (beforeCall c).AtLine knowingF c := ⟨.refl _, rfl, ⟨_, rfl, rfl⟩, rfl⟩
  obtain ⟨f, code, hf, -, hprogram, hcalls⟩ := call_protocol nofun hs hknowing hcompile rfl hline
  cases hf
  have harguments : arguments? (knowingF.environment (.new 8)) givingThree.args [.known .number] =
      some (.ok [.number (.ofInt64 3)]) := by
    simp [arguments?, givingThree, evaluate?, read]
    rfl
  have hroom : (Machine.new 8).depth < maxCallDepth := by decide
  obtain ⟨m, hsteps, hstarted, hreturns⟩ := hcalls.started hroom _ 2 harguments rfl
  have hsegment : m.segment? c.program = some { name := "F" } := by
    have howner : m.current.owner = .code 2 := congrArg (fun place => place.1.owner) hstarted.place
    simp only [segment?, howner, hprogram, Program.segment?_append]
    rfl
  have hend : ({ name := "F" } : Segment).code[m.current.pc]? = none := by
    rw [show m.current.pc = 0 from congrArg (fun place => place.1.pc) hstarted.place]
    rfl
  -- The function has no code, so it is left at once.
  obtain ⟨m', hstep, hdepth⟩ := step_ended hstarted.top
    (congrArg (fun place => place.1.ready) hstarted.place) hsegment hend
  have hempty : m.under.calls.length = 0 := by
    have hdepth := hstarted.depth
    rw [depth, hstarted.top] at hdepth
    exact Nat.succ.inj (Nat.succ.inj hdepth)
  have hone : m'.depth = 1 := by rw [hdepth, hempty]
  obtain ⟨-, k, ⟨segment, hsegment', hgives⟩, hresumes⟩ :=
    hreturns _ m m' _ .start hstep (Nat.le_of_eq hone)
  rw [hsegment] at hsegment'
  cases hsegment'
  rw [hend] at hgives
  cases hgives
  have hpc : m'.current.pc = 0 + _ := congrArg (fun place => place.1.pc) hresumes.place
  exact ⟨_, _, m, m', hs, hsteps, hstarted.place, hstarted.slots 1, hstarted.slots 2, hstep, hone,
    hpc.trans (Nat.zero_add _), hresumes.result⟩

end Birl
