import Birl.Machine.Step
import Birl.Proofs.Frame

/-!
# The stack of frames

The current frame lies under the frames that are being built (`frames_current`),
and replacing it leaves everything else as it is. `Stepped` lists the ways a step
can go, and `stepped_of_step` and `Stepped.step_eq` say that these are all of them.
-/

namespace Birl.Machine

/-- All frames, the last one first and the global one at the end. -/
def frames (m : Machine) : List Frame := m.calls ++ [m.global]

-- ---------------------------------------------------------------------------
-- The current frame
-- ---------------------------------------------------------------------------

theorem lastReady_cases (calls : List Frame) :
    (∃ above f below, calls = above ++ f :: below ∧ (∀ x ∈ above, x.ready = false) ∧
      f.ready = true ∧ lastReady? calls = some f ∧
      ∀ g, modifyLastReady g calls = some (above ++ g f :: below)) ∨
    ((∀ x ∈ calls, x.ready = false) ∧ lastReady? calls = none ∧
      ∀ g, modifyLastReady g calls = none) := by
  induction calls with
  | nil => exact .inr ⟨by simp, rfl, fun _ => rfl⟩
  | cons frame rest ih =>
    cases hready : frame.ready with
    | true =>
      refine .inl ⟨[], frame, rest, rfl, by simp, hready, ?_, fun g => ?_⟩
      · simp [lastReady?, hready]
      · simp [modifyLastReady, hready]
    | false =>
      rcases ih with ⟨above, f, below, rfl, habove, hf, hlast, hmod⟩ | ⟨hrest, hlast, hmod⟩
      · refine .inl ⟨frame :: above, f, below, rfl, ?_, hf, ?_, fun g => ?_⟩
        · exact List.forall_mem_cons.mpr ⟨hready, habove⟩
        · simpa [lastReady?, hready] using hlast
        · simp [modifyLastReady, hready, hmod]
      · refine .inr ⟨List.forall_mem_cons.mpr ⟨hready, hrest⟩, ?_, fun g => ?_⟩
        · simpa [lastReady?, hready] using hlast
        · simp [modifyLastReady, hready, hmod]

/-- The frame that runs is one of the calls or, where none of them can run, the
global one. -/
theorem current_cases (m : Machine) :
    (∃ above f below, m.calls = above ++ f :: below ∧ (∀ x ∈ above, x.ready = false) ∧
      f.ready = true ∧ m.current = f ∧
      ∀ g, m.modifyCurrent g = { m with calls := above ++ g f :: below }) ∨
    ((∀ x ∈ m.calls, x.ready = false) ∧ m.current = m.global ∧
      ∀ g, m.modifyCurrent g = { m with global := g m.global }) := by
  rcases lastReady_cases m.calls with ⟨above, f, below, hcalls, habove, hf, hlast, hmod⟩ |
    ⟨hcalls, hlast, hmod⟩
  · refine .inl ⟨above, f, below, hcalls, habove, hf, ?_, fun g => ?_⟩
    · simp [current, hlast]
    · simp [modifyCurrent, hmod]
  · refine .inr ⟨hcalls, ?_, fun g => ?_⟩
    · simp [current, hlast]
    · simp [modifyCurrent, hmod]

/-- The frames above the current one are being built; it alone is replaced. -/
theorem frames_current (m : Machine) :
    ∃ above below, m.frames = above ++ m.current :: below ∧ (∀ x ∈ above, x.ready = false) ∧
      (m.current.ready = true ∨ below = []) ∧
      ∀ g, (m.modifyCurrent g).frames = above ++ g m.current :: below := by
  rcases m.current_cases with ⟨above, f, below, hcalls, habove, hf, hcur, hmod⟩ |
    ⟨hcalls, hcur, hmod⟩
  · refine ⟨above, below ++ [m.global], ?_, habove, .inl (hcur ▸ hf), fun g => ?_⟩
    · simp [frames, hcalls, hcur]
    · simp [frames, hmod, hcur]
  · refine ⟨m.calls, [], ?_, hcalls, .inr rfl, fun g => ?_⟩
    · simp [frames, hcur]
    · simp [frames, hmod, hcur]

theorem lastReady_modifyCurrent {m : Machine} {g : Frame → Frame}
    (hg : (g m.current).ready = m.current.ready) :
    (lastReady? (m.modifyCurrent g).calls).isNone = (lastReady? m.calls).isNone := by
  rcases m.current_cases with ⟨above, f, below, hcalls, habove, hf, hcur, hmod⟩ |
    ⟨hcalls, hcur, hmod⟩
  · have hsplit {f : Frame} (hf : f.ready = true) :
        (lastReady? (above ++ f :: below)).isNone = false := by
      rw [lastReady?, Option.isNone_eq_false_iff, List.find?_isSome]
      exact ⟨f, by simp, hf⟩
    rw [hmod, hcalls, hsplit hf, hsplit]
    rwa [← hcur, hg, hcur]
  · rw [hmod]

theorem split_unique {α : Type} {ready : α → Bool} {above below above' below' : List α} {f f' : α}
    (h : above ++ f :: below = above' ++ f' :: below') (habove : ∀ x ∈ above, ready x = false)
    (hf : ready f = true ∨ below = []) (habove' : ∀ x ∈ above', ready x = false)
    (hf' : ready f' = true ∨ below' = []) : above = above' ∧ f = f' ∧ below = below' := by
  rcases List.append_eq_append_iff.mp h with ⟨mid, rfl, hmid⟩ | ⟨mid, rfl, hmid⟩
  · cases mid with
    | nil => simpa using hmid
    | cons x mid =>
      -- The running frame of one side would be under construction on the other.
      obtain ⟨rfl, rfl⟩ := List.cons.inj hmid
      have := habove' f (by simp)
      simp_all
  · cases mid with
    | nil => simpa [eq_comm] using hmid
    | cons x mid =>
      obtain ⟨rfl, rfl⟩ := List.cons.inj hmid
      have := habove f' (by simp)
      simp_all

theorem current_eq_of_frames {m : Machine} {above below : List Frame} {f : Frame}
    (h : m.frames = above ++ f :: below) (habove : ∀ x ∈ above, x.ready = false)
    (hf : f.ready = true ∨ below = []) : m.current = f := by
  obtain ⟨above', below', h', habove', hf', -⟩ := m.frames_current
  exact (split_unique (h' ▸ h) habove' hf' habove hf).2.1

theorem frames_eq {m m' : Machine} (hg : m'.global = m.global) (hc : m'.calls = m.calls) :
    m'.frames = m.frames := by
  simp [frames, hg, hc]

theorem calls_of_frames {m m' : Machine} (h : m'.frames = m.frames) :
    m'.calls = m.calls ∧ m'.global = m.global := by
  have := List.append_inj' h rfl
  simpa using this

section
variable (m : Machine) (g : Frame → Frame)

@[simp] theorem modifyCurrent_frameSize : (m.modifyCurrent g).frameSize = m.frameSize := by
  unfold modifyCurrent; split <;> rfl

@[simp] theorem modifyCurrent_a : (m.modifyCurrent g).a = m.a := by
  unfold modifyCurrent; split <;> rfl

@[simp] theorem modifyCurrent_b : (m.modifyCurrent g).b = m.b := by
  unfold modifyCurrent; split <;> rfl

@[simp] theorem modifyCurrent_held : (m.modifyCurrent g).held = m.held := by
  unfold modifyCurrent; split <;> rfl

@[simp] theorem modifyCurrent_texts : (m.modifyCurrent g).texts = m.texts := by
  unfold modifyCurrent; split <;> rfl

@[simp] theorem modifyCurrent_plugins : (m.modifyCurrent g).plugins = m.plugins := by
  unfold modifyCurrent; split <;> rfl

@[simp] theorem modifyCurrent_input : (m.modifyCurrent g).input = m.input := by
  unfold modifyCurrent; split <;> rfl

@[simp] theorem modifyCurrent_output : (m.modifyCurrent g).output = m.output := by
  unfold modifyCurrent; split <;> rfl

theorem depth_modifyCurrent : (m.modifyCurrent g).depth = m.depth := by
  obtain ⟨above, below, hframes, -, -, hmod⟩ := m.frames_current
  have hlength : (m.modifyCurrent g).frames.length = m.frames.length := by simp [hmod, hframes]
  simpa [frames, depth] using hlength

variable {m g}

theorem current_modifyCurrent (h : (g m.current).ready = m.current.ready) :
    (m.modifyCurrent g).current = g m.current := by
  obtain ⟨above, below, -, habove, hf, hmod⟩ := m.frames_current
  exact current_eq_of_frames (hmod g) habove (h ▸ hf)

theorem eq_of_frames {m' : Machine} (h : m'.frames = m.frames) (hs : m'.frameSize = m.frameSize)
    (ha : m'.a = m.a) (hb : m'.b = m.b) (hh : m'.held = m.held) (ht : m'.texts = m.texts)
    (hp : m'.plugins = m.plugins) (hi : m'.input = m.input) (ho : m'.output = m.output) :
    m' = m := by
  obtain ⟨hc, hg⟩ := calls_of_frames h
  cases m
  cases m'
  simp_all

theorem modifyCurrent_modifyCurrent {g' : Frame → Frame}
    (h : (g m.current).ready = m.current.ready) :
    (m.modifyCurrent g).modifyCurrent g' = m.modifyCurrent fun f => g' (g f) := by
  obtain ⟨above, below, -, habove, hf, hmod⟩ := m.frames_current
  obtain ⟨above', below', h', habove', hf', hmod'⟩ := (m.modifyCurrent g).frames_current
  rw [current_modifyCurrent h] at h' hf' hmod'
  obtain ⟨rfl, -, rfl⟩ := split_unique (h'.symm.trans (hmod g)) habove' hf' habove (h ▸ hf)
  apply eq_of_frames <;> simp [hmod, hmod']

theorem modifyCurrent_congr {g' : Frame → Frame} (h : g m.current = g' m.current) :
    m.modifyCurrent g = m.modifyCurrent g' := by
  obtain ⟨above, below, -, -, -, hmod⟩ := m.frames_current
  apply eq_of_frames <;> simp [hmod, h]

theorem modifyCurrent_self (h : g m.current = m.current) : m.modifyCurrent g = m := by
  obtain ⟨above, below, hframes, -, -, hmod⟩ := m.frames_current
  apply eq_of_frames <;> simp [hmod, h, hframes]

end

-- ---------------------------------------------------------------------------
-- One step
-- ---------------------------------------------------------------------------

def advance (m : Machine) : Machine := m.modifyCurrent fun frame => { frame with pc := frame.pc + 1 }

theorem current_advance (m : Machine) : m.advance.current = { m.current with pc := m.current.pc + 1 } :=
  current_modifyCurrent rfl

/-- The ways a step can go, with what the step finds and what it leaves. -/
inductive Stepped (p : Program) (m : Machine) : Machine → Except Error Status → Prop
  | noCode (hs : m.segment? p = none) : Stepped p m m (.error (.plain (.noCode (codeId m.current))))
  | ended {segment : Segment} (hs : m.segment? p = some segment)
      (hi : segment.code[m.current.pc]? = none) (hc : m.calls = []) : Stepped p m m (.ok .halt)
  | returned {segment : Segment} {m' : Machine} (hs : m.segment? p = some segment)
      (hi : segment.code[m.current.pc]? = none) (hc : m.calls ≠ [])
      (hl : { m with b := .null }.leave = (m', .ok ())) : Stepped p m m' (.ok .returned)
  | stuck {segment : Segment} {m' : Machine} {fault : Fault} (hs : m.segment? p = some segment)
      (hi : segment.code[m.current.pc]? = none) (hc : m.calls ≠ [])
      (hl : { m with b := .null }.leave = (m', .error fault)) :
      Stepped p m m' (.error (.runtime 0 segment.name fault))
  | skipped {segment : Segment} {instruction : Instruction} (hs : m.segment? p = some segment)
      (hi : segment.code[m.current.pc]? = some instruction) (hk : 0 < m.current.skip) :
      Stepped p m (m.modifyCurrent fun frame =>
        { frame with pc := frame.pc + 1, skip := skipAfter frame.skip instruction.op }) (.ok .normal)
  | executed {segment : Segment} {instruction : Instruction} {m' : Machine} {status : Status}
      (hs : m.segment? p = some segment) (hi : segment.code[m.current.pc]? = some instruction)
      (hk : m.current.skip = 0) (he : execute p m.advance instruction.op = (m', .ok status)) :
      Stepped p m m' (.ok status)
  | failed {segment : Segment} {instruction : Instruction} {m' : Machine} {fault : Fault}
      (hs : m.segment? p = some segment) (hi : segment.code[m.current.pc]? = some instruction)
      (hk : m.current.skip = 0) (he : execute p m.advance instruction.op = (m', .error fault)) :
      Stepped p m m' (.error (.runtime instruction.line segment.name fault))

theorem Stepped.step_eq {p : Program} {m m' : Machine} {r : Except Error Status}
    (h : Stepped p m m' r) : step p m = (m', r) := by
  cases h with
  | noCode hs => simp [step, hs]
  | ended hs hi hc => simp [step, hs, hi, hc]
  | returned hs hi hc hl => simp [step, hs, hi, hc, hl]
  | stuck hs hi hc hl => simp [step, hs, hi, hc, hl]
  | skipped hs hi hk =>
    simp only [step, hs, hi, gt_iff_lt, hk, if_true]
    rw [modifyCurrent_modifyCurrent rfl]
    exact congrArg (·, _) (modifyCurrent_congr rfl)
  | executed hs hi hk he =>
    rw [advance] at he
    simp [step, hs, hi, hk, he]
  | failed hs hi hk he =>
    rw [advance] at he
    simp [step, hs, hi, hk, he]

theorem stepped_of_step {p : Program} {m m' : Machine} {r : Except Error Status}
    (h : step p m = (m', r)) : Stepped p m m' r := by
  have hall : ∃ m'' r', Stepped p m m'' r' := by
    cases hs : m.segment? p with
    | none => exact ⟨_, _, .noCode hs⟩
    | some segment =>
      cases hi : segment.code[m.current.pc]? with
      | none =>
        by_cases hc : m.calls = []
        · exact ⟨_, _, .ended hs hi hc⟩
        · cases hl : ({ m with b := .null } : Machine).leave with
          | mk m'' r' =>
            cases r' with
            | ok => exact ⟨_, _, .returned hs hi hc hl⟩
            | error fault => exact ⟨_, _, .stuck hs hi hc hl⟩
      | some instruction =>
        by_cases hk : m.current.skip = 0
        · cases he : execute p m.advance instruction.op with
          | mk m'' r' =>
            cases r' with
            | ok status => exact ⟨_, _, .executed hs hi hk he⟩
            | error fault => exact ⟨_, _, .failed hs hi hk he⟩
        · exact ⟨_, _, .skipped hs hi (Nat.pos_of_ne_zero hk)⟩
  obtain ⟨m'', r', hstepped⟩ := hall
  rw [hstepped.step_eq] at h
  cases h
  exact hstepped

/-- Whether it fails or not, a step leaves the machine as it is, leaves the current frame, goes on
in it or executes an operation. -/
theorem step_induct {p : Program} {m : Machine} {P : Machine → Prop} (hstay : P m)
    (hleave : P ({ m with b := .null } : Machine).leave.1)
    (hskip : ∀ {segment : Segment} {instruction : Instruction}, m.segment? p = some segment →
      segment.code[m.current.pc]? = some instruction → P (m.modifyCurrent fun frame =>
        { frame with pc := frame.pc + 1, skip := skipAfter frame.skip instruction.op }))
    (hexecute : ∀ {segment : Segment} {instruction : Instruction}, m.segment? p = some segment →
      segment.code[m.current.pc]? = some instruction → P (execute p m.advance instruction.op).1) :
    P (step p m).1 := by
  rcases hstep : step p m with ⟨m', r⟩
  cases stepped_of_step hstep with
  | noCode => exact hstay
  | ended => exact hstay
  | returned _ _ _ hl => rwa [hl] at hleave
  | stuck _ _ _ hl => rwa [hl] at hleave
  | skipped hs hi => exact hskip hs hi
  | executed hs hi _ he =>
    have hexecuted := hexecute hs hi
    rwa [he] at hexecuted
  | failed hs hi _ he =>
    have hexecuted := hexecute hs hi
    rwa [he] at hexecuted

end Birl.Machine
