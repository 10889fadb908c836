import Birl.Proofs.Compiler.Arguments
import Birl.Proofs.Compiler.Effect

/-!
# The code of calls

The code of a call puts a frame on the stack, passes the arguments and starts the
function or hands them to the plugin. All of it but the last operation runs in the
caller's frame (`call_marches`). When the function has returned, or the plugin has, the
caller goes on behind the call with the result in slot 0 (`Resumes`).
-/

namespace Birl

open Machine

/-- What the frame of a callee is for. -/
def Callee.owner : Callee → FrameOwner
  | code id => .code id
  | plugin _ => .plugin

namespace Machine

section
variable {p : Program} {m m' x : Machine} {n j : Nat} {g g' : Control → Control}

-- ---------------------------------------------------------------------------
-- Straight code
-- ---------------------------------------------------------------------------

theorem modifyRunning_modifyRunning (hg : ∀ c, (g c).ready = c.ready) (s : List Control) :
    modifyRunning g' (modifyRunning g s) = modifyRunning (fun c => g' (g c)) s := by
  induction s with
  | nil => rfl
  | cons c rest ih =>
    cases rest with
    | nil => rfl
    | cons next rest =>
      cases hc : c.ready with
      | true => simp [modifyRunning, hc, hg]
      | false =>
        cases hrest : modifyRunning g (next :: rest) with
        | nil =>
          have := congrArg List.length hrest
          cases rest <;> simp [modifyRunning] at this
          split at this <;> simp at this
        | cons next' rest' =>
          rw [hrest] at ih
          simp [modifyRunning, hc, hrest, ih]

theorem modifyRunning_self (hg : ∀ c, g c = c) (s : List Control) : modifyRunning g s = s := by
  obtain rfl : g = id := funext hg
  induction s with
  | nil => rfl
  | cons c rest ih =>
    cases rest with
    | nil => rfl
    | cons next rest => simp [modifyRunning, ih]

theorem modifyRunning_cons {c : Control} (hc : c.ready = false) {s : List Control} (hs : s ≠ []) :
    modifyRunning g (c :: s) = c :: modifyRunning g s := by
  cases s with
  | nil => contradiction
  | cons next rest => simp [modifyRunning, hc]

theorem control_of_stack (hg : ∀ c, (g c).ready = c.ready) (h : m'.stack = modifyRunning g m.stack) :
    m'.current.control = g m.current.control := by
  obtain ⟨above, below, hstack, habove, hcur⟩ := m.stack_current
  obtain ⟨above', below', hstack', habove', hcur'⟩ := m'.stack_current
  rw [hstack, modifyRunning_split habove hcur, hstack'] at h
  have hready : (g m.current.control).ready = true ∨ below = [] := by
    rw [hg]
    exact hcur
  exact (split_unique h habove' hcur' habove hready).2.1

theorem Effect.of_straight {last : Comparison} {op : Operation} {s s' : List Control}
    (h : Effect p last op s s') (hop : op.steers = false) : s' = s := by
  cases h with
  | keep => rfl
  | _ => cases hop

theorem stack_straight {code ops : List Operation} (hs : Compiler.Straight code)
    (ha : Ahead p m (code ++ ops)) (hk : m.current.skip = 0) (hx : NormalSteps p j m x)
    (hj : j ≤ code.length) : x.stack = modifyRunning (fun c => { c with pc := c.pc + j }) m.stack := by
  induction hx generalizing code with
  | refl => exact (modifyRunning_self (fun _ => rfl) _).symm
  | @step n m m₁ x hstep _ ih =>
    cases code with
    | nil => cases hj
    | cons op code =>
      have hop : op.steers = false := hs op List.mem_cons_self
      have hrest : Compiler.Straight code := fun x hx => hs x (List.mem_cons_of_mem _ hx)
      have hexec : execute p m.advance op = (m₁, .ok .normal) := Ahead.executed ha hk hstep
      have hstack : m₁.stack = modifyRunning (fun c => { c with pc := c.pc + 1 }) m.stack := by
        rw [← stack_advance]
        exact (execute_effect hexec).of_straight hop
      have hcontrol := control_of_stack (fun _ => by rfl) hstack
      have hahead : Ahead p m₁ (code ++ ops) :=
        @Ahead.drop p m [op] _ m₁ ha (congrArg Control.owner hcontrol)
          (congrArg Control.pc hcontrol)
      have hskip : m₁.current.skip = 0 := (congrArg Control.skip hcontrol).trans hk
      rw [ih hrest hahead hskip (Nat.le_of_succ_le_succ hj), hstack,
        modifyRunning_modifyRunning fun _ => by rfl]
      simp only [Nat.add_assoc, Nat.add_comm 1 n]

-- ---------------------------------------------------------------------------
-- The new frame
-- ---------------------------------------------------------------------------

theorem pushFrame_ok {code : Int} {status : Status} (h : pushFrame p m code = (m', .ok status)) :
    ∃ owner, m' = m.push (Frame.new owner m.frameSize) := by
  unfold pushFrame at h
  split at h
  · cases h
  · split at h
    · cases h
      exact ⟨_, rfl⟩
    · split at h
      · cases h
        exact ⟨_, rfl⟩
      · cases h

theorem step_newFrame {callee : Callee} {ops : List Operation} (hk : m.current.skip = 0)
    (ha : Ahead p m (.newFrame callee.frameOperand :: ops)) (hd : m.depth < maxCallDepth)
    (hc : ∀ id, callee = .code id → p.hasCode id = true) :
    step p m = (m.advance.push (Frame.new callee.owner m.frameSize), .ok .normal) := by
  have hdepth : ¬ maxCallDepth ≤ m.advance.depth := by
    rw [advance, depth_modifyCurrent]
    omega
  refine ha.step_ok hk ?_
  cases callee with
  | code id =>
    have hid : ¬ ((id : Int) = -1) := by omega
    simp [execute, Callee.frameOperand, Callee.owner, pushFrame, hdepth, hid, hc id rfl, done, push]
  | plugin index => simp [execute, Callee.frameOperand, Callee.owner, pushFrame, hdepth, done, push]

theorem step_overflow {code : Int} {ops : List Operation} (hk : m.current.skip = 0)
    (ha : Ahead p m (.newFrame code :: ops)) (hd : maxCallDepth ≤ m.depth) :
    ∃ m' line function, step p m = (m', .error (.runtime line function .callStackOverflow)) := by
  have hdepth : maxCallDepth ≤ m.advance.depth := by rwa [advance, depth_modifyCurrent]
  have hexec : execute p m.advance (.newFrame code) = (m.advance, .error .callStackOverflow) := by
    simp [execute, pushFrame, hdepth, fail]
  exact ⟨_, ha.step_error hk hexec⟩

/-- The frames of `m`, the current one moved on by so many instructions, under frames
that cannot run and have not. -/
def Marched (m : Machine) (j : Nat) (x : Machine) : Prop :=
  ∃ above, x.stack = above ++ modifyRunning (fun c => { c with pc := c.pc + j }) m.stack ∧
    ∀ c ∈ above, c.ready = false ∧ c.pc = 0

/-- Up to its last operation the code of a call runs in the frame of the caller. -/
theorem call_marches {code : Int} {args ops : List Operation} (hs : Compiler.Straight args)
    (ha : Ahead p m (.newFrame code :: (args ++ ops))) (hk : m.current.skip = 0)
    (hx : NormalSteps p j m x) (hj : j ≤ args.length + 1) : Marched m j x := by
  cases hx with
  | refl => exact ⟨[], (modifyRunning_self (fun _ => rfl) _).symm, nofun⟩
  | @step j _ m₁ _ hstep hrest =>
    obtain ⟨owner, rfl⟩ : ∃ owner, m₁ = m.advance.push (Frame.new owner m.frameSize) := by
      obtain ⟨owner, hpush⟩ := pushFrame_ok (ha.executed hk hstep)
      exact ⟨owner, by rw [hpush, advance_frameSize]⟩
    have hcur : (m.advance.push (Frame.new owner m.frameSize)).current =
        { m.current with pc := m.current.pc + 1 } := (current_push rfl).trans m.current_advance
    have hahead : Ahead p (m.advance.push (Frame.new owner m.frameSize)) (args ++ ops) := by
      refine @Ahead.drop p m [.newFrame code] _ _ ha ?_ ?_
      · rw [hcur]
      · rw [hcur]
        rfl
    have hstack := stack_straight hs hahead (by rw [hcur]; exact hk) hrest (by omega)
    have hpushed : (m.advance.push (Frame.new owner m.frameSize)).stack =
        ⟨owner, 0, false, 0⟩ :: modifyRunning (fun c => { c with pc := c.pc + 1 }) m.stack := by
      rw [← stack_advance]
      rfl
    have hne : modifyRunning (fun c => { c with pc := c.pc + 1 }) m.stack ≠ [] := by
      rw [← stack_advance]
      simp [stack, frames]
    refine ⟨[⟨owner, 0, false, 0⟩], ?_, by simp⟩
    rw [hstack, hpushed, modifyRunning_cons rfl hne, modifyRunning_modifyRunning fun _ => by rfl]
    simp only [Nat.add_assoc, Nat.add_comm 1 j]
    rfl

-- ---------------------------------------------------------------------------
-- Coming back
-- ---------------------------------------------------------------------------

/-- Nothing is under construction. -/
def Settled (m : Machine) : Prop :=
  m.calls = [] ∨ ∃ rest, m.calls = m.current :: rest ∧ m.current.ready = true

theorem Settled.of_calls (h : m.Settled) (hc : m'.calls = m.calls) :
    m'.Settled ∧ (m.calls ≠ [] → m'.current = m.current) := by
  rcases h with hnil | ⟨rest, hcons, hready⟩
  · exact ⟨.inl (hc.trans hnil), fun hne => absurd hnil hne⟩
  · have hcur : m'.current = m.current := by
      have hlast : lastReady? m'.calls = some m.current := by
        rw [hc, hcons]
        simp [lastReady?, hready]
      rw [current, hlast]
      rfl
    exact ⟨.inr ⟨rest, by rw [hcur, hc, hcons], hcur ▸ hready⟩, fun _ => hcur⟩

theorem Settled.modifyCurrent (h : m.Settled) {frame : Frame} (hr : frame.ready = m.current.ready) :
    (m.modifyCurrent fun _ => frame).Settled ∧
      (m.modifyCurrent fun _ => frame).calls.tail = m.calls.tail ∧
      (m.calls ≠ [] → (m.modifyCurrent fun _ => frame).global = m.global) ∧
      (m.calls = [] → (m.modifyCurrent fun _ => frame).global = frame) := by
  rcases h with hnil | ⟨rest, hcons, hready⟩
  · have hmod : (m.modifyCurrent fun _ => frame) = { m with global := frame } := by
      simp [Machine.modifyCurrent, hnil, modifyLastReady]
    rw [hmod]
    exact ⟨.inl hnil, rfl, fun hne => absurd hnil hne, fun _ => rfl⟩
  · have hmod : (m.modifyCurrent fun _ => frame) = { m with calls := frame :: rest } := by
      simp [Machine.modifyCurrent, hcons, modifyLastReady, hready]
    have hframe : frame.ready = true := hr.trans hready
    have hcur : ({ m with calls := frame :: rest } : Machine).current = frame := by
      simp [current, lastReady?, hframe]
    rw [hmod]
    refine ⟨.inr ⟨rest, by rw [hcur], by rw [hcur, hframe]⟩, by simp [hcons], fun _ => rfl,
      fun hnil => ?_⟩
    rw [hcons] at hnil
    cases hnil

theorem Settled.kept {base : Nat} (h : m.Settled) (hk : Kept base m m') :
    m'.Settled ∧ m'.calls.tail = m.calls.tail ∧ m'.depth = m.depth ∧
      (m.calls ≠ [] → m'.global = m.global) := by
  obtain ⟨hsettled, htail, hglobal, -⟩ := h.modifyCurrent hk.ready
  have hcalls : m'.calls = (m.modifyCurrent fun _ => m'.current).calls := by
    have hworking := congrArg Machine.calls hk.machine
    exact hworking
  have hglobal' : m'.global = (m.modifyCurrent fun _ => m'.current).global := by
    have hworking := congrArg Machine.global hk.machine
    exact hworking
  refine ⟨(hsettled.of_calls hcalls).1, hcalls ▸ htail, ?_, fun hne => hglobal'.trans (hglobal hne)⟩
  have hdepth := depth_modifyCurrent m (fun _ => m'.current)
  unfold depth at hdepth ⊢
  rw [hcalls]
  exact hdepth

def under (m : Machine) : Machine := { m with calls := m.calls.tail }

theorem step_startFrame {k : Machine} {f : Frame} {id : Nat} {vs : List Constant}
    (hk : k.current.skip = 0) (hf : f.Carries (.code id) vs) (ha : Ahead p (k.push f) [.startFrame]) :
    step p (k.push f) = (k.advance.push { f with ready := true }, .ok .normal) := by
  have hskip : (k.push f).current.skip = 0 := by rw [current_push hf.ready, hk]
  refine ha.step_ok hskip ?_
  rw [advance_push hf.ready]
  simp [execute, startFrame, push, hf.ready, hf.owner_eq, done]

/-- The next step lets a function run or calls a plugin. -/
def Enters (p : Program) (m : Machine) : Prop :=
  ∃ segment instruction, m.segment? p = some segment ∧
    segment.code[m.current.pc]? = some instruction ∧
    (instruction.op = .startFrame ∨ ∃ index, instruction.op = .callPlugin index)

theorem Marched.control (h : Marched m j x) :
    x.current.control = { m.current.control with pc := m.current.pc + j } := by
  obtain ⟨above, hstack, habove⟩ := h
  obtain ⟨above', below, hm, habove', hcur⟩ := m.stack_current
  obtain ⟨above'', below'', hx, habove'', hcur''⟩ := x.stack_current
  rw [hm, modifyRunning_split habove' hcur, ← List.append_assoc, hx] at hstack
  have hunready : ∀ c ∈ above ++ above', c.ready = false := by
    intro c hc
    rcases List.mem_append.mp hc with hc | hc
    · exact (habove c hc).1
    · exact habove' c hc
  exact (split_unique hstack habove'' hcur'' hunready hcur).2.1

theorem Marched.not_enters {code : Int} {args ops : List Operation} (h : Marched m j x)
    (hs : Compiler.Straight args) (ha : Ahead p m (.newFrame code :: (args ++ ops)))
    (hj : j ≤ args.length) : ¬ Enters p x := by
  rintro ⟨segment, instruction, hseg, hi, hop⟩
  have hsplit := List.take_append_drop j (.newFrame code :: args)
  have hlength : j < (Operation.newFrame code :: args).length := Nat.lt_succ_of_le hj
  rw [List.drop_eq_getElem_cons hlength] at hsplit
  rw [← List.cons_append, ← hsplit, List.append_assoc] at ha
  have hpc : x.current.pc = m.current.pc +
      ((Operation.newFrame code :: args).take j).length := by
    rw [List.length_take_of_le (Nat.le_of_lt hlength)]
    exact congrArg Control.pc h.control
  obtain ⟨segment', instruction', hseg', hi', hop'⟩ :=
    (ha.drop (congrArg Control.owner h.control) hpc).head
  rw [hseg] at hseg'
  cases hseg'
  rw [hi] at hi'
  cases hi'
  have hmem := List.getElem_mem hlength
  rw [← hop'] at hmem
  rcases List.mem_cons.mp hmem with hnew | hargs
  · rw [hnew] at hop
    rcases hop with hop | ⟨index, hop⟩ <;> cases hop
  · have hsteers := hs _ hargs
    rcases hop with hop | ⟨index, hop⟩ <;> rw [hop] at hsteers <;> cases hsteers

/-- What the next step returns: register `b`, or Null at the end of the code. -/
def GivesBack (p : Program) (m : Machine) (k : Constant) : Prop :=
  ∃ segment, m.segment? p = some segment ∧
    match segment.code[m.current.pc]? with
    | some instruction => instruction.op = .returnValue ∧ m.texts.constant? m.b = some k
    | none => k = .null

theorem place_current {K R : Machine} (hc : R.calls = K.calls) (hg : R.global.place = K.global.place) :
    R.current.place = K.current.place := by
  unfold current
  rw [hc]
  cases lastReady? K.calls with
  | none => exact hg
  | some frame => rfl

theorem Settled.global_kept {base a : Nat} (h : m.Settled) (hk : Kept base m m')
    (ha : m.calls = [] → a < base) : m'.global.constant? a = m.global.constant? a := by
  by_cases hnil : m.calls = []
  · have hcur : m.current = m.global := by simp [current, hnil, lastReady?]
    obtain ⟨-, -, hdepth, -⟩ := h.kept hk
    have hnil' : m'.calls = [] := by
      refine List.eq_nil_of_length_eq_zero ?_
      simpa [depth, hnil] using hdepth
    have hcur' : m'.current = m'.global := by simp [current, hnil', lastReady?]
    rw [← hcur, ← hcur']
    exact hk.slots a (ha hnil)
  · rw [(h.kept hk).2.2.2 hnil]

end
end Machine

namespace Compiler

/-- The function runs, on the frames of the caller: it is at the start of its code with
nothing compared, the arguments are in its slots from 1 on, and all other slots are
Null. -/
structure Started (c : Compiler) (id n : Nat) (vs : List Constant) (m m' : Machine) : Prop where
  depth : m'.depth = m.depth + 1
  top : m'.calls = m'.current :: m'.under.calls
  place : m'.current.place = (⟨.code id, 0, true, 0⟩, .none)
  slots : ∀ a, m'.current.constant? a = some ((.null :: vs)[a]?.getD .null)
  caller : Kept c.next m m'.under
  pc : m'.under.current.pc = m.current.pc + n

/-- So many instructions after `m` the caller goes on with the result in slot 0. The
frames under it are what they were, and so are its other slots, up to the first one that
no name stands for. The slots of the global frame are those of `x`. -/
structure Resumes (c : Compiler) (n : Nat) (m x m' : Machine) (k : Constant) : Prop where
  depth : m'.depth = m.depth
  below : m'.calls.tail = m.calls.tail
  place : m'.current.place =
    ({ m.current.control with pc := m.current.pc + n }, m.current.comparison)
  root : m.calls ≠ [] → m'.global.place = m.global.place
  result : m'.current.constant? 0 = some k
  locals : m.calls ≠ [] → ∀ a < c.next, a ≠ 0 → m'.current.constant? a = m.current.constant? a
  globals : ∀ a, (m.calls = [] → a ≠ 0 ∧ a < c.next) → m'.global.constant? a = x.global.constant? a

section
variable {p : Program} {c : Compiler} {m m' : Machine} {n : Nat} {f : FunctionInfo}
  {args : List Expression} {code ops : List Operation}

theorem resumes_of_store {K R : Machine} {caller : Frame} {v : Value} {texts : TextStore}
    (hm : m.Settled) (hk : Kept c.next m K) (hpc : K.current.pc = m.current.pc + n) {size : Nat}
    (hr : R.current.Sound size) (hz : 0 < size) (hc : R.calls = K.calls)
    (hg : R.global.place = K.global.place) (hs : R.current.store 0 v texts = .ok caller) :
    ∃ k, texts.constant? v = some k ∧ Resumes c n m R (R.modifyCurrent fun _ => caller) k := by
  obtain ⟨hsettled, htail, hdepth, hglobal⟩ := hm.kept hk
  obtain ⟨hsettled', hcurrent⟩ := hsettled.of_calls hc
  have hne (h : m.calls ≠ []) : K.calls ≠ [] := by
    intro hnil
    refine h (List.eq_nil_of_length_eq_zero ?_)
    simpa [Machine.depth, hnil] using hdepth.symm
  cases hv : texts.constant? v with
  | none =>
    obtain ⟨fault, hdead⟩ := Frame.store_dead (f := R.current) (a := 0) hv
    rw [hdead] at hs
    cases hs
  | some k =>
    obtain ⟨caller', hs', -, hconst, -⟩ := hr.store_ok hz hv
    rw [hs] at hs'
    cases hs'
    have hplace := Frame.place_store hs
    have hready : caller.ready = R.current.ready := congrArg (fun place => place.1.ready) hplace
    have hcur : (R.modifyCurrent fun _ => caller).current = caller :=
      current_modifyCurrent (g := fun _ => caller) hready
    obtain ⟨-, htail', hglobal', hglobal''⟩ := hsettled'.modifyCurrent hready
    refine ⟨k, rfl, ?_, ?_, ?_, fun hm => ?_, ?_, fun hm a ha hz => ?_, fun a ha => ?_⟩
    · rw [depth_modifyCurrent, ← hdepth, Machine.depth, Machine.depth, hc]
    · rw [htail', hc, htail]
    · rw [hcur, hplace, place_current hc hg]
      simp only [Frame.place, Frame.control, hk.owner, hk.ready, hk.skip, hk.comparison, hpc]
    · rw [hglobal' (hc ▸ hne hm), hg, hglobal hm]
    · rw [hcur, hconst, if_pos rfl]
    · rw [hcur, hconst, if_neg hz, hcurrent (hne hm), hk.slots a ha]
    · by_cases hnil : m.calls = []
      · have hnil' : R.calls = [] := by
          rw [hc]
          refine List.eq_nil_of_length_eq_zero ?_
          simpa [Machine.depth, hnil] using hdepth
        have hroot : R.current = R.global := by simp [current, hnil', lastReady?]
        rw [hglobal'' hnil', hconst, if_neg (ha hnil).1, hroot]
      · rw [hglobal' (hc ▸ hne hnil)]

theorem leaves_passed {r : Except ErrorKind (List Constant)} (hl : Layout c) (h : m.Sound)
    (hm : Matches c m) (hd : m.depth < maxCallDepth) (hf : f.params.length < c.frameSize)
    (hc : ∀ id, f.callee = .code id → p.hasCode id = true) (hlen : args.length = f.params.length)
    (hcode : c.arguments 1 args f.params = .ok code)
    (ha : Ahead p m (.newFrame f.callee.frameOperand :: (code ++ ops)))
    (hr : arguments? (c.environment m) args f.params = some r) :
    Leaves p (1 + code.length) m (c.Passed f.callee.owner (1 + code.length) m) r := by
  have hstep := step_newFrame hm.skip ha hd hc
  have hsound : (m.advance.push (Frame.new f.callee.owner m.frameSize)).Sound := by
    have hsound := step_sound p h
    rwa [hstep] at hsound
  have hkept : Kept c.next m m.advance := kept_registers h h.advance.texts
  have hcarries := Frame.carries_new f.callee.owner m.frameSize
  have hahead : Ahead p (m.advance.push (Frame.new f.callee.owner m.frameSize)) (code ++ ops) := by
    refine @Ahead.drop p m [.newFrame f.callee.frameOperand] _ _ ha ?_ ?_
    · rw [current_push rfl, current_advance]
    · rw [current_push rfl, current_advance]
      rfl
  rw [← hl.environment hm hkept (Nat.le_refl _)] at hr
  have hleaves := arguments_leave hl hcode hlen rfl (by simpa using hf) hsound (hm.kept hkept)
    hcarries hahead hr
  have hone : NormalSteps p 1 m (m.advance.push (Frame.new f.callee.owner m.frameSize)) :=
    .step hstep .refl
  refine (hleaves.imp fun vs m' hpassed => ?_).after hone
  obtain ⟨k, frame, rfl, hsound', hkept', hpc, hcarries'⟩ := hpassed
  refine ⟨k, frame, rfl, hsound', hkept.trans hkept' (Nat.le_refl _), ?_, hcarries'⟩
  rw [hpc, current_advance, Nat.add_assoc]

theorem Passed.starts {id : Nat} {vs : List Constant} (hs : m.Settled) (hm : Matches c m)
    (h : c.Passed (.code id) n m vs m') (ha : Ahead p m' [.startFrame]) :
    ∃ m₁, Machine.step p m' = (m₁, .ok .normal) ∧ m₁.Sound ∧ c.Started id (n + 1) vs m m₁ := by
  obtain ⟨k, frame, rfl, hsound, hkept, hpc, hcarries⟩ := h
  have hstep := step_startFrame (hm.kept hkept).skip hcarries ha
  have hsound' : (k.advance.push { frame with ready := true }).Sound := by
    have hsound' := step_sound p hsound
    rwa [hstep] at hsound'
  have hkept' : Kept c.next m k.advance :=
    hkept.trans (kept_registers hkept.sound hkept.sound.advance.texts) (Nat.le_refl _)
  have hcur : (k.advance.push { frame with ready := true }).current = { frame with ready := true } := by
    simp [Machine.push, current, lastReady?]
  refine ⟨_, hstep, hsound', ?_, ?_, ?_, ?_, hkept', ?_⟩
  · exact congrArg (· + 1) (hs.kept hkept').2.2.1
  · rw [hcur]
    rfl
  · rw [hcur]
    have hplace := hcarries.place
    simp only [Frame.place, Frame.control, Prod.mk.injEq, Control.mk.injEq] at hplace ⊢
    obtain ⟨⟨howner, hpc, -, hskip⟩, hcomparison⟩ := hplace
    exact ⟨⟨howner, hpc, trivial, hskip⟩, hcomparison⟩
  · rw [hcur]
    exact hcarries.slots
  · show k.advance.current.pc = _
    rw [current_advance, ← Nat.add_assoc, ← hpc]

/-- Whatever the function does, where it ends the caller goes on. -/
theorem Started.returns {id : Nat} {vs : List Constant} {m₁ m₂ : Machine} {p' : Program}
    {status : Status} (h : c.Started id n vs m m₁) (hs : m.Settled) (h₁ : m₁.Sound)
    (hi : Inside m.depth m₁ m₂) (hstep : Machine.step p' m₂ = (m', .ok status))
    (hd : m'.depth ≤ m.depth) :
    status = .returned ∧ ∃ k, GivesBack p' m₂ k ∧ c.Resumes n m m₂ m' k := by
  have hbase : m.depth = m₁.under.calls.length + 1 := by
    rw [← (hs.kept h.caller).2.2.1]
    rfl
  have hready : m₁.current.ready = true := congrArg (fun place => place.1.ready) h.place
  have hcovers : Covers m₁.under.calls m₁ := ⟨[], m₁.current, h.top, hready⟩
  rw [hbase] at hi hd
  obtain ⟨hstays, hsound⟩ := hi.stays hcovers h₁
  obtain ⟨hstatus, hreturns⟩ := hi.returns hcovers h₁ hstep hd
  refine ⟨hstatus, ?_⟩
  -- Both ways to end it are a store in the frame under the function's.
  have hpops {b : Value} (hpops : Pops m₁.under.calls { m₂ with b } m') :
      ∃ k, m₂.texts.constant? b = some k ∧ c.Resumes n m m₂ m' k := by
    obtain ⟨caller, hstore, rfl⟩ := hpops
    have hframes : ({ m₂ with b, calls := m₁.under.calls } : Machine).Sound := by
      refine hsound.of_eq rfl (fun frame hf => ?_) rfl hsound.texts
      obtain ⟨above, callee, hcalls, -⟩ := hstays.covers
      simp only [frames, hcalls, List.mem_append, List.mem_cons] at hf ⊢
      rcases hf with hf | hf
      · exact .inl (.inr (.inr hf))
      · exact .inr hf
    obtain ⟨k, hk, hresumes⟩ := resumes_of_store hs h.caller h.pc hframes.current
      (Nat.lt_of_lt_of_le Nat.zero_lt_two hframes.size) rfl hstays.global hstore
    exact ⟨k, hk, hresumes.depth, hresumes.below, hresumes.place, hresumes.root, hresumes.result,
      hresumes.locals, hresumes.globals⟩
  cases hreturns with
  | value hseg hi ho h =>
    obtain ⟨k, hk, hresumes⟩ := hpops h
    refine ⟨k, ⟨_, hseg, ?_⟩, hresumes⟩
    rw [hi]
    exact ⟨ho, hk⟩
  | ended hseg hi h =>
    obtain ⟨k, hk, hresumes⟩ := hpops h
    cases hk
    exact ⟨.null, ⟨_, hseg, by rw [hi]⟩, hresumes⟩

theorem Passed.callsPlugin {index : Int} {plugin : Plugin} {vs : List Constant} (hs : m.Settled)
    (hm : Matches c m) (h : c.Passed .plugin n m vs m') (hp : m.plugin? index = some plugin)
    (hlen : plugin.params.length = vs.length) (hlive : plugin.call.GivesLive)
    (ha : Ahead p m' [.callPlugin index]) :
    ∃ args texts, args.map texts.constant? = vs.map some ∧
      match plugin.call texts args with
      | (.error fault, _) => ∃ m'' line name,
          Machine.step p m' = (m'', .error (.runtime line name (.within plugin.name fault)))
      | (.ok v, texts') => ∃ k m'', texts'.constant? v = some k ∧
          Machine.step p m' = (m'', .ok .normal) ∧ c.Resumes (n + 1) m m m'' k := by
  obtain ⟨k, frame, rfl, hsound, hkept, hpc, hcarries⟩ := h
  have hplugin : k.plugin? index = some plugin := by
    have hplugins : k.plugins = m.plugins := by
      rw [hkept.machine]
      exact modifyCurrent_plugins m _
    unfold plugin? at hp ⊢
    rwa [hplugins]
  have hkept' : Kept c.next m k.advance :=
    hkept.trans (kept_registers hkept.sound hkept.sound.advance.texts) (Nat.le_refl _)
  have hpc' : k.advance.current.pc = m.current.pc + (n + 1) := by
    rw [current_advance, ← Nat.add_assoc, ← hpc]
  obtain ⟨args, texts, hargs, hcall⟩ :=
    step_callPlugin hsound (hm.kept hkept).skip hcarries hplugin hlen hlive ha
  refine ⟨args, texts, hargs, ?_⟩
  rcases hresult : plugin.call texts args with ⟨fault | v, texts'⟩
  · rw [hresult] at hcall
    exact hcall
  · rw [hresult] at hcall
    obtain ⟨-, caller, -, hstore, hstep⟩ := hcall
    have hsize := Nat.lt_of_lt_of_le Nat.zero_lt_two hkept'.sound.size
    obtain ⟨w, hw, hresumes⟩ := @resumes_of_store c m (n + 1) k.advance
      { k.advance with texts := texts' } caller v texts' hs hkept' hpc' _ hkept'.sound.current hsize
      rfl rfl hstore
    refine ⟨w, _, hw, hstep, hresumes.depth, hresumes.below, hresumes.place, hresumes.root,
      hresumes.result, hresumes.locals, fun a ha => ?_⟩
    have hglobal : k.advance.global.constant? a = m.global.constant? a :=
      hs.global_kept hkept' fun hnil => (ha hnil).2
    exact (hresumes.globals a ha).trans hglobal

-- ---------------------------------------------------------------------------
-- The whole call
-- ---------------------------------------------------------------------------

theorem arguments?_of_arguments {address : Nat} {kinds : List ParameterKind}
    (env : Text → Option Constant) (h : c.arguments address args kinds = .ok code)
    (hu : ∀ e ∈ args, Node.operator .unknown ∉ e) : ∃ r, arguments? env args kinds = some r := by
  induction args generalizing address kinds code with
  | nil => exact ⟨_, rfl⟩
  | cons e args ih =>
    cases kinds with
    | nil => exact ⟨_, rfl⟩
    | cons kind kinds =>
      simp only [arguments, bind_ok, pure_ok] at h
      obtain ⟨first, hfirst, more, hmore, rfl⟩ := h
      obtain ⟨hhead, htail⟩ := List.forall_mem_cons.mp hu
      obtain ⟨value, hvalue⟩ := evaluate?_of_expression env hfirst hhead
      obtain ⟨r, hr⟩ := ih hmore htail
      simp only [arguments?, hvalue, Option.bind_some, hr, Option.map_some]
      split <;> exact ⟨_, rfl⟩

/-- The code of a call, so many instructions long, does what it should. -/
structure Calls (p : Program) (c : Compiler) (f : FunctionInfo) (args : List Expression) (n : Nat)
    (m : Machine) : Prop where
  overflow : maxCallDepth ≤ m.depth → ∃ m' line name,
    Machine.step p m = (m', .error (.runtime line name .callStackOverflow))
  /-- All arguments that are written with known operators have a value or an error. -/
  defined : (∀ e ∈ args, Node.operator .unknown ∉ e) →
    ∃ r, arguments? (c.environment m) args f.params = some r
  /-- The first argument that fails ends the run, before the callee is entered. -/
  refused : m.depth < maxCallDepth → ∀ kind,
    arguments? (c.environment m) args f.params = some (.error kind) →
    ∃ i m₁ m' e, i + 1 < n ∧ NormalSteps p i m m₁ ∧ Machine.step p m₁ = (m', .error e) ∧
      e.kind = kind ∧ ∀ j ≤ i, ∀ x, NormalSteps p j m x → Marched m j x ∧ ¬ Enters p x
  /-- A function starts with the arguments, and when it is left the caller goes on. -/
  started : m.depth < maxCallDepth → ∀ vs id,
    arguments? (c.environment m) args f.params = some (.ok vs) → f.callee = .code id →
    ∃ m₁, NormalSteps p n m m₁ ∧ c.Started id n vs m m₁ ∧
      ∀ p' m₂ m' status, Inside m.depth m₁ m₂ → Machine.step p' m₂ = (m', .ok status) →
        m'.depth ≤ m.depth →
        status = .returned ∧ ∃ k, GivesBack p' m₂ k ∧ c.Resumes n m m₂ m' k
  /-- A plugin is given the arguments, and the caller goes on with its result. -/
  plugin : m.depth < maxCallDepth → ∀ vs index,
    arguments? (c.environment m) args f.params = some (.ok vs) → f.callee = .plugin index →
    ∃ i m₁ plugin args texts, i + 1 = n ∧ NormalSteps p i m m₁ ∧
      m.plugin? index = some plugin ∧ plugin.params = f.params ∧
      args.map texts.constant? = vs.map some ∧
      match plugin.call texts args with
      | (.error fault, _) => ∃ m' line name,
          Machine.step p m₁ = (m', .error (.runtime line name (.within plugin.name fault)))
      | (.ok v, texts') => ∃ k m', texts'.constant? v = some k ∧
          Machine.step p m₁ = (m', .ok .normal) ∧ c.Resumes n m m m' k

theorem calls_of_arguments (hl : Layout c) (h : m.Sound) (hm : Matches c m) (hs : m.Settled)
    (hf : f.params.length < c.frameSize) (hc : ∀ id, f.callee = .code id → p.hasCode id = true)
    (hp : ∀ index, f.callee = .plugin index → 0 ≤ index ∧ ∃ plugin,
      m.plugin? index = some plugin ∧ plugin.params = f.params ∧ plugin.call.GivesLive)
    (hlen : args.length = f.params.length) (hcode : c.arguments 1 args f.params = .ok code)
    (ha : Ahead p m (.newFrame f.callee.frameOperand :: (code ++ [callOperation f]))) :
    Calls p c f args (code.length + 2) m := by
  have hleaves {r : Except ErrorKind (List Constant)} (hd : m.depth < maxCallDepth)
      (hr : arguments? (c.environment m) args f.params = some r) :=
    leaves_passed hl h hm hd hf hc hlen hcode ha hr
  have hahead {owner : FrameOwner} {vs : List Constant} {m' : Machine}
      (hpassed : c.Passed owner (1 + code.length) m vs m') : Ahead p m' [callOperation f] := by
    obtain ⟨k, frame, rfl, -, hkept, hpc, hcarries⟩ := hpassed
    refine @Ahead.drop p m (.newFrame f.callee.frameOperand :: code) _ _ ha ?_ ?_
    · rw [current_push hcarries.ready, hkept.owner]
    · rw [current_push hcarries.ready, hpc, List.length_cons, Nat.add_comm 1]
  have hstraight := straight_arguments hcode
  refine ⟨step_overflow hm.skip ha, arguments?_of_arguments _ hcode, fun hd kind hr => ?_,
    fun hd vs id hr hid => ?_, fun hd vs index hr hindex => ?_⟩
  · obtain ⟨m', e, hran, hkind⟩ := hleaves hd hr
    obtain ⟨i, m₁, hi, hsteps, hfails⟩ := hran.failing
    refine ⟨i, m₁, m', e, by omega, hsteps, hfails, hkind, fun j hj x hx => ?_⟩
    have hmarched := call_marches hstraight ha hm.skip hx (by omega)
    exact ⟨hmarched, hmarched.not_enters hstraight ha (by omega)⟩
  · obtain ⟨m', hsteps, hpassed⟩ := hleaves hd hr
    have hstart := hahead hpassed
    rw [show callOperation f = .startFrame by simp [callOperation, hid, Callee.isPlugin,
      Callee.pluginIndex]] at hstart
    rw [hid] at hpassed
    obtain ⟨m₁, hstep, hsound, hstarted⟩ := hpassed.starts hs hm hstart
    rw [show 1 + code.length + 1 = code.length + 2 by omega] at hstarted
    refine ⟨m₁, ?_, hstarted, fun p' m₂ m' status hi hret hdepth => ?_⟩
    · rw [show code.length + 2 = (1 + code.length) + 1 by omega]
      exact hsteps.trans (.step hstep .refl)
    · exact hstarted.returns hs hsound hi hret hdepth
  · obtain ⟨m', hsteps, hpassed⟩ := hleaves hd hr
    obtain ⟨hpos, plugin, hplugin, hparams, hlive⟩ := hp index hindex
    have hcall := hahead hpassed
    rw [show callOperation f = .callPlugin index by simp [callOperation, hindex, Callee.isPlugin,
      Callee.pluginIndex, hpos]] at hcall
    rw [hindex] at hpassed
    have hvs : plugin.params.length = vs.length := by
      rw [hparams, length_arguments? hr hlen]
    obtain ⟨values, texts, hvalues, hcalled⟩ := hpassed.callsPlugin hs hm hplugin hvs hlive hcall
    rw [show 1 + code.length + 1 = code.length + 2 by omega] at hcalled
    exact ⟨1 + code.length, m', plugin, values, texts, by omega, hsteps, hplugin, hparams, hvalues,
      hcalled⟩

end
end Compiler
end Birl
