import Birl.Proofs.Machine.Stack

/-!
# What moves control

Of a frame only its owner, its position, its skip counter and whether it can run
decide what the machine does next. `Effect` lists what an operation can do to the
stack of these: nothing, unless it opens a block that is skipped, builds or
starts a frame, returns or calls a plugin (`execute_effect`). One that fails takes at
most the first frame away (`stack_failed`).
-/

namespace Birl

/-- Where a frame is. -/
structure Control where
  owner : FrameOwner
  pc : Nat
  ready : Bool
  skip : Nat

def Frame.control (f : Frame) : Control := ⟨f.owner, f.pc, f.ready, f.skip⟩

/-- The operations that build, start or leave frames. -/
def Operation.moves : Operation → Bool
  | .newFrame _ | .startFrame | .callPlugin _ | .returnValue => true
  | _ => false

theorem Frame.control_store {f f' : Frame} {a : Nat} {v : Value} {outer : TextStore}
    (h : f.store a v outer = .ok f') : f'.control = f.control := by
  unfold Frame.store at h
  split at h
  · split at h
    · cases h
      unfold Frame.storeText
      simp only
      split
      · split <;> rfl
      · rfl
    · cases h
  · cases h
    rfl

namespace Machine

/-- Changes the first entry that can run or, where there is none, the last one. -/
def modifyRunning (g : Control → Control) : List Control → List Control
  | [] => []
  | [c] => [g c]
  | c :: next :: rest =>
    if c.ready then g c :: next :: rest else c :: modifyRunning g (next :: rest)

theorem modifyRunning_split {g : Control → Control} {above below : List Control} {c : Control}
    (habove : ∀ x ∈ above, x.ready = false) (hc : c.ready = true ∨ below = []) :
    modifyRunning g (above ++ c :: below) = above ++ g c :: below := by
  induction above with
  | nil =>
    cases below with
    | nil => rfl
    | cons next rest => simp_all [modifyRunning]
  | cons x above ih =>
    obtain ⟨hx, habove⟩ := List.forall_mem_cons.mp habove
    have ih := ih habove
    cases hrest : above ++ c :: below with
    | nil => simp at hrest
    | cons next rest =>
      rw [hrest] at ih
      simp [hrest, modifyRunning, hx, ih]

theorem map_modifyRunning {α : Type} {f : Control → α} {g : Control → Control}
    (hg : ∀ c, f (g c) = f c) (s : List Control) : (modifyRunning g s).map f = s.map f := by
  induction s with
  | nil => rfl
  | cons c rest ih =>
    cases rest with
    | nil => simp [modifyRunning, hg]
    | cons next rest =>
      unfold modifyRunning
      split
      · simp [hg]
      · rw [List.map_cons, ih]
        rfl

/-- Number of entries under the one that `modifyRunning` changes. -/
def running : List Control → Nat
  | [] => 0
  | [_] => 0
  | c :: next :: rest => if c.ready then rest.length + 1 else running (next :: rest)

theorem running_split {above below : List Control} {c : Control}
    (habove : ∀ x ∈ above, x.ready = false) (hc : c.ready = true ∨ below = []) :
    running (above ++ c :: below) = below.length := by
  induction above with
  | nil =>
    cases below with
    | nil => rfl
    | cons next rest => simp_all [running]
  | cons x above ih =>
    obtain ⟨hx, habove⟩ := List.forall_mem_cons.mp habove
    have ih := ih habove
    cases hrest : above ++ c :: below with
    | nil => simp at hrest
    | cons next rest =>
      rw [hrest] at ih
      simp [hrest, running, hx, ih]

/-- Where the frames are, the last one first and the global one at the end. -/
def stack (m : Machine) : List Control := m.frames.map Frame.control

theorem length_stack (m : Machine) : m.stack.length = m.depth := by
  simp [stack, frames, depth]

/-- The frames above the current one are being built. -/
theorem stack_current (m : Machine) :
    ∃ above below, m.stack = above ++ m.current.control :: below ∧
      (∀ x ∈ above, x.ready = false) ∧ (m.current.control.ready = true ∨ below = []) := by
  obtain ⟨above, below, hframes, habove, hcur, -⟩ := m.frames_current
  refine ⟨above.map Frame.control, below.map Frame.control, ?_, ?_, ?_⟩
  · simp [stack, hframes]
  · simpa [Frame.control] using habove
  · simpa [Frame.control] using hcur

theorem stack_modifyCurrent {m : Machine} {g : Frame → Frame} (g' : Control → Control)
    (h : (g m.current).control = g' m.current.control) :
    (m.modifyCurrent g).stack = modifyRunning g' m.stack := by
  obtain ⟨above, below, hframes, habove, hcur, hmod⟩ := m.frames_current
  rw [stack, stack, hmod, hframes]
  simp only [List.map_append, List.map_cons]
  rw [modifyRunning_split, h]
  · simpa [Frame.control] using habove
  · simpa [Frame.control] using hcur

theorem stack_replaceCurrent {m : Machine} {g : Frame → Frame}
    (h : (g m.current).control = m.current.control) : (m.modifyCurrent g).stack = m.stack := by
  obtain ⟨above, below, hframes, -, -, hmod⟩ := m.frames_current
  simp [stack, hmod, hframes, h]

theorem stack_advance (m : Machine) :
    m.advance.stack = modifyRunning (fun c => { c with pc := c.pc + 1 }) m.stack :=
  stack_modifyCurrent _ rfl

-- ---------------------------------------------------------------------------
-- Operations
-- ---------------------------------------------------------------------------

theorem control_writeSlot {m : Machine} {frame frame' : Frame} {operand : Int}
    (h : m.writeSlot frame operand = .ok frame') : frame'.control = frame.control := by
  unfold writeSlot at h
  cases ha : frame.address operand with
  | error fault => simp [ha, bind, Except.bind] at h
  | ok address =>
    simp only [ha, bind, Except.bind] at h
    exact Frame.control_store h

theorem setGlobal_ok {m m' : Machine} {address : Int} {v : Value}
    (h : m.setGlobal address v = .ok m') :
    ∃ global, m' = { m with global } ∧ global.control = m.global.control := by
  unfold setGlobal at h
  cases ha : m.globalAddress address with
  | error fault => simp [ha, bind, Except.bind] at h
  | ok a =>
    cases hstore : m.global.store a v m.texts with
    | error fault => simp [ha, hstore, bind, Except.bind] at h
    | ok global =>
      simp only [ha, hstore, bind, Except.bind, pure, Except.pure, Except.ok.injEq] at h
      exact ⟨global, h.symm, Frame.control_store hstore⟩

theorem stack_leave {m m' : Machine} (hc : m.calls ≠ []) (h : m.leave = (m', .ok ())) :
    ∃ c rest, m.stack = c :: rest ∧ rest ≠ [] ∧ c.ready = true ∧ m'.stack = rest := by
  unfold leave at h
  split at h
  · contradiction
  · rename_i frame rest hcalls
    split at h
    · rename_i hready
      simp only at h
      split at h
      · rename_i caller hstore
        cases h
        refine ⟨frame.control, ({ m with calls := rest } : Machine).stack, ?_, ?_, hready, ?_⟩
        · simp [stack, frames, hcalls]
        · simp [stack, frames]
        · exact stack_replaceCurrent (Frame.control_store hstore)
      · cases h
    · cases h

inductive Effect (p : Program) (last : Comparison) :
    Operation → List Control → List Control → Prop
  | keep {op : Operation} {s : List Control} (hm : op.moves = false)
      (hr : ∀ requirement, op = .executeIf requirement → requirement.holds last = true) :
      Effect p last op s s
  | skip {requirement : Requirement} {s : List Control} (hr : requirement.holds last = false) :
      Effect p last (.executeIf requirement) s (modifyRunning (fun c => { c with skip := 1 }) s)
  | push {code : Int} {owner : FrameOwner} {s : List Control} (hd : s.length < maxCallDepth)
      (ho : (code = -1 ∧ owner = .plugin) ∨ (p.hasCode code = true ∧ owner = .code code.toNat)) :
      Effect p last (.newFrame code) s (⟨owner, 0, false, 0⟩ :: s)
  | start {c : Control} {rest : List Control} (hr : c.ready = false) (ho : c.owner ≠ .plugin)
      (hne : rest ≠ []) : Effect p last .startFrame (c :: rest) ({ c with ready := true } :: rest)
  | leave {c : Control} {rest : List Control} (hr : c.ready = true) (hne : rest ≠ []) :
      Effect p last .returnValue (c :: rest) rest
  | halt (c : Control) : Effect p last .returnValue [c] [c]
  | call {index : Int} {c : Control} {rest : List Control} (hr : c.ready = false)
      (ho : c.owner = .plugin) (hne : rest ≠ []) : Effect p last (.callPlugin index) (c :: rest) rest

section
variable {p : Program} {m m' : Machine} {status : Status} {last : Comparison}

theorem Effect.of_stack_eq {op : Operation} (h : m'.stack = m.stack) (hm : op.moves = false)
    (ho : ∀ requirement, op ≠ .executeIf requirement) : Effect p last op m.stack m'.stack := by
  rw [h]
  exact .keep hm fun requirement e => absurd e (ho requirement)

theorem stack_setB {r : StoreResult} (h : m.setB r = (m', .ok status)) : m'.stack = m.stack := by
  obtain ⟨r, texts⟩ := r
  cases r with
  | ok v => cases h; rfl
  | error fault => cases h

theorem stack_readSlot {frame : Frame} {operand : Int}
    (h : m.readSlot frame operand = (m', .ok status)) : m'.stack = m.stack := by
  unfold readSlot at h
  split at h
  · cases h
  · split at h
    · cases h
    · cases h
      rfl

theorem stack_emit {t : Except Fault Text} (h : m.emit t = (m', .ok status)) :
    m'.stack = m.stack := by
  cases t with
  | ok t => cases h; rfl
  | error fault => cases h

theorem stack_readInput (h : m.readInput = (m', .ok status)) : m'.stack = m.stack := by
  unfold readInput at h
  simp only at h
  split at h <;> cases h <;> rfl

theorem effect_pushFrame {code : Int} (h : pushFrame p m code = (m', .ok status)) :
    Effect p last (.newFrame code) m.stack m'.stack := by
  unfold pushFrame at h
  split at h
  · cases h
  · rename_i hd
    have hd : m.stack.length < maxCallDepth := by rw [length_stack]; omega
    split at h
    · rename_i hcode
      cases h
      exact .push hd (.inl ⟨hcode, rfl⟩)
    · split at h
      · rename_i hcode
        cases h
        exact .push hd (.inr ⟨hcode, rfl⟩)
      · cases h

theorem effect_startFrame (h : m.startFrame = (m', .ok status)) :
    Effect p last .startFrame m.stack m'.stack := by
  unfold startFrame at h
  split at h
  · cases h
  · rename_i frame rest hcalls
    split at h
    · cases h
    · rename_i hframe
      cases h
      have hstack : m.stack = frame.control :: (rest ++ [m.global]).map Frame.control := by
        simp [stack, frames, hcalls]
      rw [hstack]
      simp only [Bool.or_eq_true, decide_eq_true_eq, not_or, Bool.not_eq_true] at hframe
      exact .start hframe.1 hframe.2 (by simp)

theorem effect_callPlugin {index : Int} (h : m.callPlugin index = (m', .ok status)) :
    Effect p last (.callPlugin index) m.stack m'.stack := by
  unfold callPlugin at h
  split at h
  · cases h
  · split at h
    · cases h
    · rename_i frame rest hcalls
      split at h
      · cases h
      · rename_i hframe
        simp only [Bool.or_eq_true, decide_eq_true_eq, not_or, Bool.not_eq_true, ne_eq,
          Decidable.not_not] at hframe
        simp only at h
        split at h
        · cases h
        · split at h
          · cases h
          · split at h
            · rename_i texts _ _ caller hstore
              cases h
              rw [stack_replaceCurrent (Frame.control_store hstore)]
              have hstack : m.stack = frame.control :: (rest ++ [m.global]).map Frame.control := by
                simp [stack, frames, hcalls]
              rw [hstack]
              exact .call hframe.2 hframe.1 (by simp)
            · cases h

theorem execute_effect {op : Operation} (h : execute p m op = (m', .ok status)) :
    Effect p m.current.comparison op m.stack m'.stack := by
  cases op with
  | arith op => exact .of_stack_eq (stack_setB h) rfl (by rintro _ ⟨⟩)
  | toInteger => exact .of_stack_eq (stack_setB h) rfl (by rintro _ ⟨⟩)
  | toNumber => exact .of_stack_eq (stack_setB h) rfl (by rintro _ ⟨⟩)
  | toText => exact .of_stack_eq (stack_setB h) rfl (by rintro _ ⟨⟩)
  | compare =>
    simp only [execute] at h
    split at h
    · cases h
      exact .of_stack_eq (stack_replaceCurrent rfl) rfl (by rintro _ ⟨⟩)
    · cases h
  | executeIf requirement =>
    simp only [execute] at h
    split at h
    · rename_i hr
      cases h
      refine .keep rfl fun requirement' e => ?_
      cases e
      exact hr
    · rename_i hr
      cases h
      have hstack := stack_modifyCurrent (m := m) (g := fun frame => { frame with skip := 1 })
        (fun c => { c with skip := 1 }) rfl
      rw [hstack]
      exact .skip (by simpa using hr)
  | readLocal operand => exact .of_stack_eq (stack_readSlot h) rfl (by rintro _ ⟨⟩)
  | readGlobal operand => exact .of_stack_eq (stack_readSlot h) rfl (by rintro _ ⟨⟩)
  | writeLocal operand =>
    simp only [execute] at h
    split at h
    · rename_i frame hwrite
      cases h
      exact .of_stack_eq (stack_replaceCurrent (control_writeSlot hwrite)) rfl (by rintro _ ⟨⟩)
    · cases h
  | writeGlobal operand =>
    simp only [execute] at h
    split at h
    · rename_i global hwrite
      cases h
      refine .of_stack_eq ?_ rfl (by rintro _ ⟨⟩)
      simp [stack, frames, control_writeSlot hwrite]
    · cases h
  | writeArgument operand =>
    simp only [execute, writeArgument] at h
    split at h
    · cases h
    · rename_i frame rest hcalls
      split at h
      · cases h
      · split at h
        · rename_i frame' hwrite
          cases h
          refine .of_stack_eq ?_ rfl (by rintro _ ⟨⟩)
          simp [stack, frames, hcalls, control_writeSlot hwrite]
        · cases h
  | newFrame code => exact effect_pushFrame h
  | assertKind kind =>
    simp only [execute] at h
    split at h <;> cases h
    exact .keep rfl (by rintro _ ⟨⟩)
  | startFrame => exact effect_startFrame h
  | callPlugin index => exact effect_callPlugin h
  | returnValue =>
    simp only [execute] at h
    split at h
    · rename_i hcalls
      cases h
      have hstack : m.stack = [m.global.control] := by
        simp [stack, frames, List.isEmpty_iff.mp hcalls]
      rw [hstack]
      exact .halt _
    · rename_i hcalls
      split at h
      · rename_i m'' hl
        cases h
        obtain ⟨c, rest, hstack, hne, hready, hrest⟩ := stack_leave (by simpa using hcalls) hl
        rw [hstack, hrest]
        exact .leave hready hne
      · cases h
  | readInput => exact .of_stack_eq (stack_readInput h) rfl (by rintro _ ⟨⟩)
  | print => exact .of_stack_eq (stack_emit h) rfl (by rintro _ ⟨⟩)
  | printDebug => exact .of_stack_eq (stack_emit h) rfl (by rintro _ ⟨⟩)
  | flush =>
    simp only [execute] at h
    split at h <;> cases h
    exact .keep rfl (by rintro _ ⟨⟩)
  | unknown code => cases h
  | _ =>
    cases h
    exact .keep rfl (by rintro _ ⟨⟩)

-- ---------------------------------------------------------------------------
-- Failures
-- ---------------------------------------------------------------------------

/-- The stack is as it was, or its first frame is gone, which was not the only one. -/
def MayPop (s s' : List Control) : Prop := s' = s ∨ ∃ c, s = c :: s' ∧ s' ≠ []

theorem MayPop.subset {s s' : List Control} (h : MayPop s s') : s' ⊆ s := by
  rcases h with rfl | ⟨c, rfl, -⟩
  · exact List.Subset.refl _
  · exact List.subset_cons_self c s'

theorem mayPop_of_calls {frame : Frame} {rest : List Frame} (h : m.calls = frame :: rest)
    (hg : m'.global = m.global) (hc : m'.calls = rest) : MayPop m.stack m'.stack :=
  .inr ⟨frame.control, by simp [stack, frames, h, hg, hc], by simp [stack, frames]⟩

/-- Leaving a frame takes it away before anything can fail. -/
theorem mayPop_leave (m : Machine) : MayPop m.stack m.leave.1.stack := by
  unfold leave
  split
  · exact .inl rfl
  · rename_i frame rest hcalls
    split
    · simp only
      split
      · rename_i hstore
        rw [stack_replaceCurrent (Frame.control_store hstore)]
        exact mayPop_of_calls hcalls rfl rfl
      · exact mayPop_of_calls hcalls rfl rfl
    · exact .inl rfl

theorem mayPop_callPlugin (m : Machine) (index : Int) :
    MayPop m.stack (m.callPlugin index).1.stack := by
  unfold callPlugin
  split
  · exact .inl rfl
  · split
    · exact .inl rfl
    · rename_i frame rest hcalls
      split
      · exact .inl rfl
      · simp only
        split
        · exact mayPop_of_calls hcalls rfl rfl
        · split
          · exact mayPop_of_calls hcalls rfl rfl
          · split
            · rename_i hstore
              rw [done, stack_replaceCurrent (Frame.control_store hstore)]
              exact mayPop_of_calls hcalls rfl rfl
            · exact mayPop_of_calls hcalls rfl rfl

/-- An operation that fails may have taken a frame away, and no more. -/
theorem stack_failed {op : Operation} {fault : Fault} (h : execute p m op = (m', .error fault)) :
    MayPop m.stack m'.stack := by
  cases op with
  | callPlugin index =>
    have hpop := m.mayPop_callPlugin index
    rwa [show m.callPlugin index = (m', .error fault) from h] at hpop
  | returnValue =>
    have hpop := m.mayPop_leave
    simp only [execute] at h
    split at h
    · cases h
    · split at h
      · cases h
      · rename_i hl
        cases h
        rwa [hl] at hpop
  | _ =>
    simp only [execute, setB, readSlot, writeArgument, pushFrame, startFrame, readInput, emit,
      intern] at h
    repeat' split at h
    all_goals
      cases h
      try exact .inl rfl

end

end Machine
end Birl
