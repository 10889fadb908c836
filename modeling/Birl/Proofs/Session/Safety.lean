import Birl.Proofs.Compiler.Safety
import Birl.Proofs.Machine.Block
import Birl.Proofs.Run
import Birl.Proofs.Session.Operations
import Birl.Session

/-!
# Sessions do not go wrong

A session compiles lines and runs its machine in any order, and its host declares
globals, registers plugins and sets values in between. However it came about, a
step of its machine does not meet an address out of range, a missing text, missing
code or a broken stack, unless a run that failed was not recovered from
(`session_safe`).
-/

namespace Birl

-- ---------------------------------------------------------------------------
-- The library
-- ---------------------------------------------------------------------------

/-- The host function reads texts, creates new ones, and gives back values that are
in the store. -/
structure Callback.Lawful (call : Callback) : Prop where
  onlyAdds : call.OnlyAdds
  givesLive : call.GivesLive

/-- The host function only fails in ways that a correct program can fail. -/
def Callback.FailsHarmlessly (call : Callback) : Prop :=
  ∀ cause, call.FailsWith cause →
    cause.kind ≠ .frameOverflow ∧ cause.kind ≠ .storageMiss ∧ cause.kind ≠ .internal

namespace Library

theorem textOf_error {texts : TextStore} {args : List Value} (h : ∀ v ∈ args, texts.Live v)
    {fault : Fault} (he : texts.textOf (args.headD .null) = .error fault) : fault.kind = .type := by
  cases args with
  | nil =>
    cases he
    rfl
  | cons v rest =>
    have hv := h v List.mem_cons_self
    cases v with
    | text id =>
      obtain ⟨t, ht⟩ := Machine.get_ok hv
      simp [TextStore.textOf, ht] at he
    | _ =>
      cases he
      rfl

section
variable {call : Callback}

theorem lawful_plain (htexts : ∀ texts args, (call texts args).2 = texts)
    (hvalue : ∀ texts args v, (call texts args).1 = .ok v → ∀ id, v ≠ .text id) : call.Lawful := by
  constructor
  · intro texts args
    rw [htexts]
    exact .refl
  intro texts args _ _ v texts' h
  have hplain := hvalue texts args v (congrArg Prod.fst h)
  cases v with
  | text id => exact absurd rfl (hplain id)
  | _ => exact ⟨_, rfl⟩

theorem lawful_intern (h : ∀ texts args, (∃ t, call texts args = ((.ok (texts.intern (.text t)).1),
    (texts.intern (.text t)).2)) ∨ ∃ fault, call texts args = (.error fault, texts)) :
    call.Lawful := by
  constructor
  · intro texts args
    rcases h texts args with ⟨t, he⟩ | ⟨fault, he⟩
    · rw [he]
      exact (TextStore.intern_ok texts (.text t)).1
    · rw [he]
      exact .refl
  · intro texts args _ _ v texts' hcall
    rcases h texts args with ⟨t, he⟩ | ⟨fault, he⟩
    · rw [he] at hcall
      cases hcall
      exact ⟨_, (TextStore.intern_ok texts (.text t)).2.1⟩
    · rw [he] at hcall
      cases hcall

theorem failsHarmlessly_of_kind (kind : ErrorKind) (hf : kind ≠ .frameOverflow)
    (hs : kind ≠ .storageMiss) (hi : kind ≠ .internal)
    (h : ∀ texts args cause, (∀ v ∈ args, texts.Live v) → (call texts args).1 = .error cause →
      cause.kind = kind) : call.FailsHarmlessly := by
  rintro cause ⟨texts, args, -, hlive, he⟩
  rw [h texts args cause hlive he]
  exact ⟨hf, hs, hi⟩

end

theorem measuring_lawful (f : Text → Nat) :
    (measuring f).Lawful ∧ (measuring f).FailsHarmlessly := by
  refine ⟨lawful_plain (fun texts args => ?_) (fun texts args v h => ?_),
    failsHarmlessly_of_kind .type nofun nofun nofun fun texts args cause hlive h => ?_⟩
  · unfold measuring
    split <;> rfl
  · unfold measuring at h
    split at h
    · cases h
      nofun
    · cases h
  · unfold measuring at h
    split at h
    · cases h
    · rename_i he
      cases h
      exact textOf_error hlive he

theorem changing_lawful (f : Text → Text) :
    (changing f).Lawful ∧ (changing f).FailsHarmlessly := by
  refine ⟨lawful_intern fun texts args => ?_,
    failsHarmlessly_of_kind .type nofun nofun nofun fun texts args cause hlive h => ?_⟩
  · unfold changing
    split
    · exact .inl ⟨_, rfl⟩
    · exact .inr ⟨_, rfl⟩
  · unfold changing at h
    split at h
    · cases h
    · rename_i he
      cases h
      exact textOf_error hlive he

theorem identity_lawful (identities : Nat → Text) :
    (identity identities).Lawful ∧ (identity identities).FailsHarmlessly :=
  ⟨lawful_intern fun _ _ => .inl ⟨_, rfl⟩,
    failsHarmlessly_of_kind .type nofun nofun nofun fun _ _ _ _ h => nomatch h⟩

theorem round_lawful : round.Lawful ∧ round.FailsHarmlessly := by
  refine ⟨lawful_plain (fun texts args => ?_) (fun texts args v h => ?_),
    failsHarmlessly_of_kind .parseValue nofun nofun nofun fun texts args cause _ h => ?_⟩
  · unfold round
    simp only
    split <;> rfl
  · unfold round at h
    simp only at h
    split at h
    · cases h
      nofun
    · cases h
  · unfold round at h
    simp only at h
    split at h
    · cases h
    · cases h
      rfl

/-- The functions of the library are lawful and fail harmlessly. -/
theorem plugins_lawful (identities : Nat → Text) : ∀ plugin ∈ plugins identities,
    plugin.call.Lawful ∧ plugin.call.FailsHarmlessly := by
  simp only [plugins, List.forall_mem_cons]
  exact ⟨measuring_lawful _, changing_lawful _, changing_lawful _, identity_lawful identities,
    round_lawful, nofun⟩

end Library

namespace Session

-- ---------------------------------------------------------------------------
-- Sessions that come about
-- ---------------------------------------------------------------------------

/-- The sessions that come about, and whether their machine may run: after a failed
run it has to recover first. `host` tells the functions that the host registers. -/
inductive Reachable (host : Callback → Prop) : Bool → Session → Prop
  | new {options : SessionOptions} {s : Session} (h : Session.new options = .ok s) :
      Reachable host true s
  | compiled {ready : Bool} {s : Session} {line : Int} {cmd : Command} {hint : ScopeHint}
      {compiler : Compiler} (h : Reachable host ready s)
      (hc : s.compiler.compile line cmd = .ok (hint, compiler)) :
      Reachable host ready { s with compiler }
  | entryCall {ready : Bool} {s : Session} (line : Int) (h : Reachable host ready s) :
      Reachable host ready { s with compiler := s.compiler.appendEntryCall line }
  | stepped {s : Session} {machine : Machine} {status : Status} (h : Reachable host true s)
      (hs : s.machine.step s.program = (machine, .ok status)) :
      Reachable host true { s with machine }
  | failed {s : Session} {machine : Machine} {e : Error} (h : Reachable host true s)
      (hs : s.machine.step s.program = (machine, .error e)) :
      Reachable host false { s with machine }
  | recovered {ready : Bool} {s : Session} (h : Reachable host ready s) :
      Reachable host true s.recover
  | registerGlobal {ready : Bool} {s : Session} (name : Text) (v : Value) (readOnly : Bool)
      (h : Reachable host ready s) : Reachable host ready (s.registerGlobal name v readOnly).1
  | registerPlugin {ready : Bool} {s : Session} (name : Text) (params : List ParameterKind)
      (call : Callback) (h : Reachable host ready s) (hc : host call) :
      Reachable host ready (s.registerPlugin name params (some call)).1
  | setGlobal {ready : Bool} {s : Session} (name : Text) (v : Value) (h : Reachable host ready s) :
      Reachable host ready (s.setGlobal name v).1
  | getGlobal {ready : Bool} {s : Session} (name : Text) (h : Reachable host ready s) :
      Reachable host ready (s.getGlobal name).1
  | intern {ready : Bool} {s : Session} (k : Constant) (h : Reachable host ready s) :
      Reachable host ready { s with machine := (s.machine.intern k).2 }
  | streams {ready : Bool} {s : Session} (input : Input) (output : Output)
      (h : Reachable host ready s) :
      Reachable host ready { s with machine := { s.machine with input, output } }
  | noted {ready : Bool} {s : Session} (interactive : Bool) (file : Text) (line depth : Nat)
      (quit entryRun : Bool) (log : Log) (h : Reachable host ready s) :
      Reachable host ready { s with interactive, file, line, depth, quit, entryRun, log }

structure Fit (host : Callback → Prop) (ready : Bool) (s : Session) : Prop where
  compiler : s.compiler.Safe s.machine.plugins
  size : s.machine.frameSize = s.compiler.frameSize
  sound : s.machine.Sound
  rooted : s.machine.Rooted
  plugins : ∀ plugin ∈ s.machine.plugins, plugin.call.GivesLive ∧
    (host plugin.call ∨ plugin.call.FailsHarmlessly)
  safe : ready = true → s.machine.Safe s.program

section
variable {host : Callback → Prop} {ready : Bool} {s : Session}

theorem Fit.lives (h : Fit host ready s) :
    ∀ plugin ∈ s.machine.plugins, plugin.call.GivesLive :=
  fun plugin hp => (h.plugins plugin hp).1

theorem Fit.verified (h : Fit host ready s) :
    s.program.Verified s.machine.plugins s.machine.frameSize :=
  h.size ▸ h.compiler.verified

theorem Fit.withCompiler (h : Fit host ready s) {compiler : Compiler}
    (hc : compiler.Safe s.machine.plugins) (hs : compiler.frameSize = s.compiler.frameSize)
    (hp : s.program.Extends compiler.program) : Fit host ready { s with compiler } :=
  ⟨hc, h.size.trans hs.symm, h.sound, h.rooted, h.plugins, fun hr => (h.safe hr).extend hp⟩

theorem Fit.withMachine (h : Fit host ready s) {machine : Machine} (hs : machine.Sound)
    (hstack : machine.stack = s.machine.stack) (hr : machine.register = s.machine.register)
    (ht : s.machine.texts.Extends machine.texts) (hp : machine.plugins = s.machine.plugins)
    (hsize : machine.frameSize = s.machine.frameSize) : Fit host ready { s with machine } := by
  have hrooted : machine.Rooted := by
    have hframes : machine.calls.map Frame.control ++ [machine.global.control] =
        s.machine.calls.map Frame.control ++ [s.machine.global.control] := by
      simpa [Machine.stack, Machine.frames] using hstack
    exact h.rooted.of_control (List.cons.inj (List.append_inj' hframes rfl).2).1
  refine ⟨hp ▸ h.compiler, hsize.trans h.size, hs, hrooted, hp ▸ h.plugins, fun hready => ?_⟩
  exact (h.safe hready).host hs (hp ▸ h.lives) hstack hr ht

theorem Fit.machineSetGlobal (h : Fit host ready s) {address : Int} {v : Value} {machine : Machine}
    (hs : s.machine.setGlobal address v = .ok machine) : Fit host ready { s with machine } := by
  have hsound := h.sound.setGlobal hs
  obtain ⟨global, rfl, hcontrol⟩ := Machine.setGlobal_ok hs
  refine h.withMachine hsound ?_ rfl .refl rfl rfl
  simp [Machine.stack, Machine.frames, hcontrol]

theorem Fit.registerGlobal (h : Fit host ready s) (name : Text) (v : Value) (readOnly : Bool) :
    Fit host ready (s.registerGlobal name v readOnly).1 := by
  refine registerGlobal_induct h (fun address compiler hd => ?_)
    fun _ _ _ hdeclared hs => hdeclared.machineSetGlobal hs
  obtain ⟨-, symbol, -, hdeclares⟩ := Compiler.declareGlobal_ok hd
  obtain ⟨hs, hp, -⟩ := hdeclares.keeps
  exact h.withCompiler (h.compiler.declareGlobal hd) hs (hp ▸ .refl _)

theorem Fit.setGlobal (h : Fit host ready s) (name : Text) (v : Value) :
    Fit host ready (s.setGlobal name v).1 :=
  setGlobal_induct h fun _ _ _ hs => h.machineSetGlobal hs

theorem Fit.withTexts (h : Fit host ready s) {texts : TextStore}
    (hext : s.machine.texts.Extends texts) :
    Fit host ready { s with machine := { s.machine with texts } } := by
  refine h.withMachine ?_ rfl rfl hext rfl rfl
  exact h.sound.of_eq rfl (fun _ hf => hf) rfl (hext.wellFormed h.sound.texts)

theorem Fit.getGlobal (h : Fit host ready s) (name : Text) :
    Fit host ready (s.getGlobal name).1 :=
  getGlobal_induct h fun _ hext => h.withTexts hext

theorem Fit.intern (h : Fit host ready s) (k : Constant) :
    Fit host ready { s with machine := (s.machine.intern k).2 } :=
  h.withTexts (TextStore.intern_ok s.machine.texts k).1

theorem Fit.registerPlugin (h : Fit host ready s) (name : Text) (params : List ParameterKind)
    {call : Callback} (hlaw : call.Lawful) (hc : host call ∨ call.FailsHarmlessly) :
    Fit host ready (s.registerPlugin name params (some call)).1 := by
  have hadded : Fit host ready { s with machine := (s.machine.addPlugin { name, params, call }).2 } := by
    have hmem {P : Plugin → Prop} (hold : ∀ plugin ∈ s.machine.plugins, P plugin)
        (hnew : P { name, params, call }) :
        ∀ plugin ∈ s.machine.plugins.push { name, params, call }, P plugin := by
      intro plugin hp
      rcases Array.mem_push.mp hp with hp | rfl
      · exact hold plugin hp
      · exact hnew
    have hsound : (s.machine.addPlugin { name, params, call }).2.Sound :=
      ⟨h.sound.texts, h.sound.size, h.sound.frames, hmem h.sound.plugins hlaw.onlyAdds⟩
    have hplugins := hmem h.plugins ⟨hlaw.givesLive, hc⟩
    refine ⟨h.compiler.addPlugin _, h.size, hsound, h.rooted, hplugins, fun hready => ?_⟩
    exact (h.safe hready).host hsound (fun plugin hp => (hplugins plugin hp).1) rfl rfl .refl
  refine registerPlugin_induct h hadded fun compiler hr => ?_
  have hsafe := h.compiler.registerPlugin call hr
  obtain ⟨-, -, rfl⟩ := Compiler.registerPlugin_ok hr
  exact hadded.withCompiler hsafe rfl (.refl _)

-- ---------------------------------------------------------------------------
-- New sessions
-- ---------------------------------------------------------------------------

theorem naming_fst {α : Type} (context : Text) (r : Result α) : (naming context r).1 = r.1 := by
  unfold naming
  split <;> rfl

/-- A session that has not even the library. -/
def start (options : SessionOptions) : Session :=
  { interactive := options.interactive
    file := options.file
    compiler := .new options.frameSize
    machine :=
      { Machine.new options.frameSize with input := options.input, output := options.output }
    log := { level := options.logLevel } }

theorem new_ok {options : SessionOptions} :
    Session.new options = .ok s ↔
      (options.library = true ∧ ∃ s₁, (start options).registerGlobals Library.globals = (s₁, .ok ()) ∧
        s₁.registerPlugins (Library.plugins options.identities) = (s, .ok ())) ∨
      (options.library = false ∧ s = start options) := by
  simp only [Session.new, ← start.eq_1]
  cases options.library with
  | false => simp [eq_comm]
  | true =>
    rcases (start options).registerGlobals Library.globals with ⟨s₁, e | ⟨⟩⟩
    · simp
    · rcases hp : s₁.registerPlugins (Library.plugins options.identities) with ⟨s₂, e | ⟨⟩⟩
      · simp [hp]
      · simp [hp]

/-- What holds of a session without the library and is kept by all that registers the
library holds of every new session. -/
theorem new_induct {I : Session → Prop} {options : SessionOptions} (hstart : I (start options))
    (hintern : ∀ s k, I s → I { s with machine := (s.machine.intern k).2 })
    (hglobal : ∀ s name v readOnly, I s → I (s.registerGlobal name v readOnly).1)
    (hplugin : ∀ s, ∀ plugin ∈ Library.plugins options.identities, I s →
      I (s.registerPlugin plugin.name plugin.params (some plugin.call)).1)
    (h : Session.new options = .ok s) : I s := by
  have hglobals (globals : List (Text × Text)) (s : Session) (h : I s) :
      I (s.registerGlobals globals).1 := by
    induction globals generalizing s with
    | nil => exact h
    | cons entry rest ih =>
      obtain ⟨name, t⟩ := entry
      have hregistered := hglobal _ name (s.machine.intern (.text t)).1 true (hintern s (.text t) h)
      rw [← naming_fst ("stdlib global " ++ name)] at hregistered
      simp only [Session.registerGlobals]
      split
      · rename_i heq
        rw [heq] at hregistered
        exact ih _ hregistered
      · exact hregistered
  have hplugins (plugins : List Plugin) (hp : ∀ plugin ∈ plugins, plugin ∈ Library.plugins options.identities)
      (s : Session) (h : I s) : I (s.registerPlugins plugins).1 := by
    induction plugins generalizing s with
    | nil => exact h
    | cons plugin rest ih =>
      obtain ⟨hmem, hrest⟩ := List.forall_mem_cons.mp hp
      have hregistered := hplugin s plugin hmem h
      rw [← naming_fst ("stdlib plugin " ++ plugin.name)] at hregistered
      simp only [Session.registerPlugins]
      split
      · rename_i heq
        rw [heq] at hregistered
        exact ih hrest _ hregistered
      · exact hregistered
  rcases new_ok.mp h with ⟨-, s₁, hs₁, hs⟩ | ⟨-, rfl⟩
  · have h₁ := hglobals Library.globals _ hstart
    rw [hs₁] at h₁
    have h₂ := hplugins (Library.plugins options.identities) (fun _ hp => hp) s₁ h₁
    rwa [hs] at h₂
  · exact hstart

theorem fit_start (options : SessionOptions) : Fit host true (start options) := by
  have hsound : (start options).machine.Sound :=
    (Machine.sound_new options.frameSize).of_eq rfl (fun _ hf => hf) rfl TextStore.wellFormed_empty
  have hnone : ∀ plugin ∈ (start options).machine.plugins, False := by simp [start, Machine.new]
  refine ⟨Compiler.safe_new _ _, rfl, hsound, ⟨rfl, rfl⟩, fun _ hp => (hnone _ hp).elim, fun _ => ?_⟩
  exact (Machine.safe_new options.frameSize).host hsound (fun _ hp => (hnone _ hp).elim) rfl rfl .refl

theorem fit_new {options : SessionOptions} (h : Session.new options = .ok s) : Fit host true s := by
  refine new_induct (fit_start options) (fun _ k hf => hf.intern k)
    (fun _ name v readOnly hf => hf.registerGlobal name v readOnly) (fun _ plugin hp hf => ?_) h
  obtain ⟨hlawful, hharmless⟩ := Library.plugins_lawful options.identities plugin hp
  exact hf.registerPlugin plugin.name plugin.params hlawful (.inr hharmless)

-- ---------------------------------------------------------------------------
-- All sessions
-- ---------------------------------------------------------------------------

/-- A step that fails in a way that the program is not to blame for. -/
theorem Fit.excused (h : Fit host true s) {machine : Machine} {e : Error}
    (hs : s.machine.step s.program = (machine, .error e)) :
    ∃ line function fault, e = .runtime line function fault ∧ (fault.Harmless ∨
      ∃ plugin ∈ s.machine.plugins, host plugin.call ∧
        ∃ cause, plugin.call.FailsWith cause ∧ fault = .within plugin.name cause) := by
  obtain ⟨line, function, fault, he, hexcused⟩ := (h.safe rfl).step_error h.verified hs
  refine ⟨line, function, fault, he, ?_⟩
  rcases hexcused with hharmless | ⟨plugin, hmem, cause, hcause, rfl⟩
  · exact .inl hharmless
  · rcases (h.plugins plugin hmem).2 with hhost | hfails
    · exact .inr ⟨plugin, hmem, hhost, cause, hcause, rfl⟩
    · exact .inl (.inr (hfails cause hcause))

theorem Fit.step (h : Fit host true s) {machine : Machine} {r : Except Error Status}
    (hs : s.machine.step s.program = (machine, r)) :
    Fit host false { s with machine } ∧ (∀ status, r = .ok status → Fit host true { s with machine }) := by
  obtain ⟨hplugins, hsize⟩ := Machine.step_setup hs
  have hsound : machine.Sound := by
    have := Machine.step_sound s.program h.sound
    rwa [hs] at this
  have hrooted : machine.Rooted := by
    have := h.rooted.step s.program
    rwa [hs] at this
  have hfit {ready : Bool} (hsafe : ready = true → machine.Safe s.program) :
      Fit host ready { s with machine } :=
    ⟨hplugins ▸ h.compiler, hsize.trans h.size, hsound, hrooted, hplugins ▸ h.plugins, hsafe⟩
  refine ⟨hfit nofun, fun status hr => hfit fun _ => ?_⟩
  subst hr
  exact (h.safe rfl).step_ok h.verified hs

theorem Fit.recover (h : Fit host ready s) : Fit host true s.recover := by
  obtain ⟨more, hglobal⟩ := h.compiler.base globalCode _ rfl
  have hsafe := Machine.Safe.recover h.sound h.lives h.rooted h.verified hglobal
  exact ⟨h.compiler, h.size, h.sound.recover _, h.rooted, h.plugins, fun _ => hsafe⟩

theorem Reachable.fit (hlaw : ∀ call, host call → call.Lawful) (h : Reachable host ready s) :
    Fit host ready s := by
  induction h with
  | new h => exact fit_new h
  | compiled _ hc ih =>
    obtain ⟨code, c₁, hemits, rfl⟩ := Compiler.compile_ok hc
    obtain ⟨-, hsize, hextends⟩ := hemits.safe ih.compiler
    exact ih.withCompiler (ih.compiler.compile hc) hsize
      (hextends.trans (Program.extends_append _ _ _))
  | entryCall line _ ih =>
    exact ih.withCompiler (ih.compiler.appendEntryCall line) rfl (Program.extends_append _ _ _)
  | stepped _ hs ih => exact (ih.step hs).2 _ rfl
  | failed _ hs ih => exact (ih.step hs).1
  | recovered _ ih => exact ih.recover
  | registerGlobal name v readOnly _ ih => exact ih.registerGlobal name v readOnly
  | registerPlugin name params call _ hc ih =>
    exact ih.registerPlugin name params (hlaw call hc) (.inl hc)
  | setGlobal name v _ ih => exact ih.setGlobal name v
  | getGlobal name _ ih => exact ih.getGlobal name
  | intern k _ ih => exact ih.intern k
  | streams input output _ ih =>
    exact ih.withMachine (ih.sound.of_eq rfl (fun _ hf => hf) rfl ih.sound.texts) rfl rfl .refl rfl rfl
  | noted _ _ _ _ _ _ _ _ ih => exact ⟨ih.compiler, ih.size, ih.sound, ih.rooted, ih.plugins, ih.safe⟩

-- ---------------------------------------------------------------------------
-- What sessions offer
-- ---------------------------------------------------------------------------

/-- A run is a sequence of steps; one that fails leaves the machine to be recovered. -/
theorem Reachable.runFor (h : Reachable host true s) (steps : Nat) {machine : Machine}
    {r : Except Error Status} (hr : s.machine.runFor s.program steps = (machine, r)) :
    Reachable host r.isOk { s with machine } := by
  induction steps generalizing s with
  | zero =>
    cases hr
    exact h
  | succ steps ih =>
    unfold Machine.runFor at hr
    split at hr
    · rename_i hs
      split at hr
      · cases hr
        exact h.stepped hs
      · have hrest := ih (h.stepped hs) hr
        exact hrest
    · rename_i hs
      cases hr
      exact h.failed hs

theorem Reachable.run (h : Reachable host true s) {machine : Machine} {r : Except Error Status}
    (hr : s.machine.run s.program = (machine, r)) : Reachable host r.isOk { s with machine } := by
  obtain ⟨m, hfor, rfl⟩ := Machine.runFor_of_run hr
  exact (h.runFor _ hfor).streams m.input m.output.flush.1

theorem Reachable.runMachine (h : Reachable host true s) {s' : Session} {r : Except Error Status}
    (hr : s.runMachine = (s', r)) : Reachable host r.isOk s' := by
  rcases hrun : s.machine.run s.program with ⟨machine, r'⟩
  have hran := h.run hrun
  obtain ⟨log, heq⟩ := Session.runMachine_eq hrun
  rw [heq] at hr
  cases r' with
  | ok status =>
    cases hr
    exact hran.noted _ _ _ _ _ _ _
  | error e =>
    cases hr
    exact hran.noted _ _ _ _ _ _ _

theorem Reachable.runAndRecover (h : Reachable host true s) : Reachable host true s.runAndRecover.1 := by
  rcases hrun : s.machine.run s.program with ⟨machine, r⟩
  have hran := h.run hrun
  obtain ⟨log, heq⟩ := Session.runAndRecover_eq hrun
  rw [heq]
  cases r with
  | ok status => exact hran.noted _ _ _ _ _ _ _
  | error e => exact hran.recovered.noted _ _ _ _ _ _ _

theorem Reachable.feed (h : Reachable host ready s) (hr : s.interactive = true → ready = true)
    (source : Text) : Reachable host ready (s.feed source).1 := by
  have hline : Reachable host ready { s with line := s.line + 1 } := h.noted _ _ _ _ _ _ _
  unfold Session.feed
  simp only
  split
  · exact hline
  · exact hline
  · rename_i cmd _
    split
    · exact hline
    · rename_i hint compiler hc
      have haccept : Reachable host ready
          (Session.accept { s with line := s.line + 1 } cmd hint compiler) := by
        have hlogged : Reachable host ready
            (Session.logFunction { s with line := s.line + 1, compiler } cmd) := by
          unfold Session.logFunction
          split
          · exact (hline.compiled hc).noted _ _ _ _ _ _ _
          · exact hline.compiled hc
        exact hlogged.noted _ _ _ _ _ _ _
      split
      · exact haccept
      · rename_i hrun
        have hinteractive : (Session.accept { s with line := s.line + 1 } cmd hint compiler).interactive
            = s.interactive := by
          unfold Session.accept Session.logged Session.logFunction
          simp only
          split <;> rfl
        rw [hinteractive] at hrun
        have hready : ready = true := by
          refine hr ?_
          simp only [Bool.or_eq_true, Bool.not_eq_true', not_or, Bool.not_eq_false] at hrun
          exact hrun.1
        subst hready
        exact haccept.runAndRecover

/-- A batch program that has blocks open is not run. -/
theorem Reachable.runProgram (h : Reachable host true s) {s' : Session} {r : Except Error Status}
    (hr : s.runProgram = (s', r)) : Reachable host r.isOk s' ∨ s' = s := by
  unfold Session.runProgram at hr
  split at hr
  · cases hr
    exact .inr rfl
  · have hentry : Reachable host true
        (if s.compiler.hasEntryPoint && !s.entryRun then
          { s with compiler := s.compiler.appendEntryCall s.line, entryRun := true }
        else s) := by
      split
      · exact (h.entryCall s.line).noted _ _ _ _ _ _ _
      · exact h
    exact .inl (Reachable.runMachine (hentry.noted _ _ _ _ _ _ _) hr)

theorem Reachable.runEntryPoint (h : Reachable host true s) : Reachable host true s.runEntryPoint.1 := by
  rw [Session.runEntryPoint_eq]
  split
  · exact h
  · have hcalled : Reachable host true (Session.logged
        { s with entryRun := true, compiler := s.compiler.appendEntryCall s.line }
        .debug "calling entry point" [("line", .int s.line)]) :=
      (h.entryCall s.line).noted _ _ _ _ _ _ _
    exact hcalled.runAndRecover

end
end Session

-- ---------------------------------------------------------------------------
-- The whole
-- ---------------------------------------------------------------------------

/-- Whatever a session and its host did, as long as its machine recovers after every
run that fails, no step fails but in a way that a correct program can fail, or
because a function of the host itself failed. -/
theorem session_safe {host : Callback → Prop} (hlaw : ∀ call, host call → call.Lawful) :
    (∀ s, Session.Reachable host true s → ∀ machine e,
      s.machine.step s.program = (machine, .error e) →
      ∃ line function fault, e = .runtime line function fault ∧
        ((fault.kind ≠ .frameOverflow ∧ fault.kind ≠ .storageMiss ∧
            (fault.kind = .internal → fault = .callStackOverflow)) ∨
          ∃ plugin ∈ s.machine.plugins, host plugin.call ∧
            ∃ cause, plugin.call.FailsWith cause ∧ fault = .within plugin.name cause)) ∧
    -- All that sessions offer is made of such steps.
    (∀ options s, Session.new options = .ok s → Session.Reachable host true s) ∧
    (∀ s ready, Session.Reachable host ready s → (s.interactive = true → ready = true) →
      ∀ source, Session.Reachable host ready (s.feed source).1) ∧
    ∀ s, Session.Reachable host true s →
      (∀ s' r, s.runMachine = (s', r) → Session.Reachable host r.isOk s') ∧
      (∀ s' r, s.runProgram = (s', r) → Session.Reachable host r.isOk s' ∨ s' = s) ∧
      Session.Reachable host true s.runEntryPoint.1 := by
  refine ⟨fun s h machine e hs => ?_, fun options s => .new, fun s ready h hr source => ?_,
    fun s h => ⟨fun s' r => h.runMachine, fun s' r => h.runProgram, h.runEntryPoint⟩⟩
  · obtain ⟨line, function, fault, he, hfault⟩ := (h.fit hlaw).excused hs
    refine ⟨line, function, fault, he, hfault.imp_left ?_⟩
    rintro (rfl | ⟨hf, hs, hi⟩)
    · exact ⟨nofun, nofun, fun _ => rfl⟩
    · exact ⟨hf, hs, fun hkind => absurd hkind hi⟩
  · exact h.feed hr source

def nullConversion : Command := { kind := .convert .integer, name := returnName }

def convertingNull : Compiler :=
  let code : Array Instruction :=
    #[⟨.readGlobal 0, 1⟩, ⟨.heldToB, 1⟩, ⟨.toInteger, 1⟩, ⟨.writeGlobal 0, 1⟩]
  { Compiler.new 2 with program := ⟨#[{ name := "<global>", code }, { name := "SHOW" }]⟩ }

def convertingSession : Session where
  interactive := false
  file := .empty
  compiler := convertingNull
  machine := (Machine.new 2).moved 2 0

/-- A conversion of Null fails, and no invariant is broken by it. -/
theorem session_safe_conversion :
    Session.Reachable (fun _ => False) true convertingSession ∧
    convertingSession.machine.step convertingSession.program = ((Machine.new 2).moved 3 0,
      .error (.runtime 1 "<global>" (.nullConversion .integer))) ∧
    (Fault.nullConversion .integer).kind ≠ .frameOverflow ∧
    (Fault.nullConversion .integer).kind ≠ .storageMiss := by
  have hnew : Session.Reachable (fun _ => False) true
      { convertingSession with compiler := .new 2, machine := .new 2 } :=
    .new (rfl : Session.new { frameSize := 2, library := false } = .ok _)
  have hcompiled := hnew.compiled
    (rfl : (Compiler.new 2).compile 1 nullConversion = .ok (.none, convertingNull))
  have hread := hcompiled.stepped (rfl : Machine.step convertingNull.program (.new 2) =
    ((Machine.new 2).moved 1 0, .ok .normal))
  have hheld : Session.Reachable (fun _ => False) true convertingSession :=
    hread.stepped (rfl : Machine.step convertingNull.program ((Machine.new 2).moved 1 0) =
      ((Machine.new 2).moved 2 0, .ok .normal))
  have hfails : convertingSession.machine.step convertingSession.program =
      ((Machine.new 2).moved 3 0, .error (.runtime 1 "<global>" (.nullConversion .integer))) := rfl
  obtain ⟨_, _, _, he, hfault⟩ := (@session_safe (fun _ => False) nofun).1 _ hheld _ _ hfails
  cases he
  rcases hfault with ⟨hoverflow, hmiss, -⟩ | ⟨_, _, hhost, -⟩
  · exact ⟨hheld, hfails, hoverflow, hmiss⟩
  · exact absurd hhost id

end Birl
