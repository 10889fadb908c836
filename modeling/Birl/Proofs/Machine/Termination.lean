import Birl.Machine.Run
import Birl.Proofs.Machine.Control
import Birl.Proofs.Program
import Birl.Proofs.Run
import Mathlib.Algebra.Group.Nat.Defs

/-!
# Runs end

The positions of the frames on the stack, read as the digits of a number with the
global frame first, only ever go up: `weight` is what is left of that number, and
every step lowers it. So no run comes to the bound on its steps (`run_iff_ends`).
-/

namespace Birl

def Program.longest (p : Program) : Nat := p.segments.foldl (fun n s => max n s.code.size) 0

theorem Program.size_le_longest {p : Program} {id : Nat} {s : Segment}
    (h : p.segment? id = some s) : s.code.size ≤ p.longest := by
  have hfold (segments : List Segment) (n : Nat) :
      n ≤ segments.foldl (fun n s => max n s.code.size) n ∧
        ∀ s ∈ segments, s.code.size ≤ segments.foldl (fun n s => max n s.code.size) n := by
    induction segments generalizing n with
    | nil => exact ⟨Nat.le_refl n, nofun⟩
    | cons first rest ih =>
      obtain ⟨hn, hrest⟩ := ih (max n first.code.size)
      refine ⟨Nat.le_trans (Nat.le_max_left _ _) hn, List.forall_mem_cons.mpr ⟨?_, hrest⟩⟩
      exact Nat.le_trans (Nat.le_max_right _ _) hn
  have hmem : s ∈ p.segments.toList := by
    rw [Program.segment?, ← Array.getElem?_toList] at h
    exact List.mem_of_getElem? h
  rw [longest, ← Array.foldl_toList]
  exact (hfold _ 0).2 s hmem

namespace Machine

-- ---------------------------------------------------------------------------
-- What is left to do
-- ---------------------------------------------------------------------------

/-- A bound on the number of steps that are left where the frames of a stack of at
most `limit` stand at these positions of code that is at most `longest` long. -/
def weight (longest limit : Nat) : List Nat → Nat
  | [] => 0
  | pc :: rest =>
    (1 + (longest - pc)) * (longest + 2) ^ (limit - 1 - rest.length) + weight longest limit rest

section
variable {longest limit : Nat}

theorem weight_le {positions : List Nat} (h : positions.length ≤ limit) :
    weight longest limit positions + (longest + 2) ^ (limit - positions.length) ≤
      (longest + 2) ^ limit := by
  induction positions with
  | nil => simp [weight]
  | cons pc rest ih =>
    have hlt : rest.length < limit := h
    have ih := ih (Nat.le_of_lt hlt)
    obtain ⟨k, hk⟩ : ∃ k, limit - rest.length = k + 1 := ⟨limit - rest.length - 1, by omega⟩
    have hdigit : (1 + (longest - pc)) + 1 ≤ longest + 2 := by omega
    calc weight longest limit (pc :: rest) + (longest + 2) ^ (limit - (rest.length + 1))
        = ((1 + (longest - pc)) + 1) * (longest + 2) ^ k + weight longest limit rest := by
          rw [weight, show limit - 1 - rest.length = k by omega,
            show limit - (rest.length + 1) = k by omega, Nat.add_mul _ 1]
          omega
      _ ≤ (longest + 2) * (longest + 2) ^ k + weight longest limit rest :=
          Nat.add_le_add_right (Nat.mul_le_mul_right _ hdigit) _
      _ = weight longest limit rest + (longest + 2) ^ (limit - rest.length) := by
          rw [hk, Nat.pow_succ, Nat.mul_comm, Nat.add_comm]
      _ ≤ (longest + 2) ^ limit := ih

/-- The current frame goes on: this leaves room for a frame on top. -/
theorem weight_advance {pc : Nat} (h : pc < longest) (above below : List Nat) :
    weight longest limit (above ++ (pc + 1) :: below) +
        (longest + 2) ^ (limit - (above ++ pc :: below).length) ≤
      weight longest limit (above ++ pc :: below) := by
  induction above with
  | nil =>
    have hdigit : 1 + (longest - pc) = (1 + (longest - (pc + 1))) + 1 := by omega
    have hexponent : limit - (below.length + 1) = limit - 1 - below.length := by omega
    simp only [List.nil_append, weight, List.length_cons]
    rw [hdigit, hexponent, Nat.add_mul _ 1, Nat.one_mul]
    omega
  | cons x above ih =>
    have hpow : (longest + 2) ^ (limit - (x :: above ++ pc :: below).length) ≤
        (longest + 2) ^ (limit - (above ++ pc :: below).length) := by
      refine Nat.pow_le_pow_right (by omega) ?_
      simp only [List.length_append, List.length_cons]
      omega
    have hlength : (above ++ (pc + 1) :: below).length = (above ++ pc :: below).length := by simp
    simp only [List.cons_append, weight, hlength] at hpow ⊢
    omega

theorem weight_push {positions : List Nat} (h : positions.length < limit) :
    weight longest limit (0 :: positions) <
      weight longest limit positions + (longest + 2) ^ (limit - positions.length) := by
  obtain ⟨k, hk⟩ : ∃ k, limit - positions.length = k + 1 := ⟨limit - positions.length - 1, by omega⟩
  have hpos : 0 < (longest + 2) ^ k := Nat.pow_pos (by omega)
  have hdigit : (1 + longest) * (longest + 2) ^ k < (longest + 2) ^ (k + 1) := by
    rw [Nat.pow_succ, Nat.mul_comm _ (longest + 2)]
    exact Nat.mul_lt_mul_of_pos_right (by omega) hpos
  rw [weight, show limit - 1 - positions.length = k by omega, hk, Nat.sub_zero]
  omega

theorem weight_tail (pc : Nat) (rest : List Nat) :
    weight longest limit rest < weight longest limit (pc :: rest) := by
  have hpos : 0 < (1 + (longest - pc)) * (longest + 2) ^ (limit - 1 - rest.length) :=
    Nat.mul_pos (by omega) (Nat.pow_pos (by omega))
  rw [weight]
  omega

end

-- ---------------------------------------------------------------------------
-- One step
-- ---------------------------------------------------------------------------

/-- The positions of the frames, the last one first. -/
def positions (m : Machine) : List Nat := m.stack.map Control.pc

def left (p : Program) (m : Machine) : Nat := weight p.longest maxCallDepth m.positions

section
variable {p : Program} {m m' : Machine}

theorem length_positions (m : Machine) : m.positions.length = m.depth := by
  rw [positions, List.length_map, length_stack]

theorem Effect.positions {last : Comparison} {op : Operation} {s s' : List Control}
    (h : Effect p last op s s') :
    s'.map Control.pc = s.map Control.pc ∨
      (s.length < maxCallDepth ∧ s'.map Control.pc = 0 :: s.map Control.pc) ∨
      ∃ pc, s.map Control.pc = pc :: s'.map Control.pc := by
  cases h with
  | keep => exact .inl rfl
  | skip => exact .inl (map_modifyRunning (fun _ => by rfl) s)
  | push hd ho => exact .inr (.inl ⟨hd, rfl⟩)
  | start => exact .inl rfl
  | leave => exact .inr (.inr ⟨_, rfl⟩)
  | halt => exact .inl rfl
  | call => exact .inr (.inr ⟨_, rfl⟩)

theorem positions_modifyCurrent {s : Segment} {instruction : Instruction}
    (hs : m.segment? p = some s) (hi : s.code[m.current.pc]? = some instruction)
    {g : Frame → Frame} (hg : (g m.current).pc = m.current.pc + 1) :
    weight p.longest maxCallDepth (m.modifyCurrent g).positions +
        (p.longest + 2) ^ (maxCallDepth - m.depth) ≤ left p m ∧
      (m.modifyCurrent g).depth = m.depth := by
  obtain ⟨above, below, hframes, -, -, hmod⟩ := m.frames_current
  have hpc : m.current.pc < p.longest := by
    have hlt := (Array.getElem?_eq_some_iff.mp hi).1
    have hle : s.code.size ≤ p.longest := by
      unfold segment? at hs
      split at hs
      · exact Program.size_le_longest hs
      · cases hs
    omega
  have hold : m.positions = above.map Frame.pc ++ m.current.pc :: below.map Frame.pc := by
    simp [positions, stack, hframes, Function.comp_def, Frame.control]
  have hnew : (m.modifyCurrent g).positions =
      above.map Frame.pc ++ (m.current.pc + 1) :: below.map Frame.pc := by
    simp [positions, stack, hmod, Function.comp_def, Frame.control, hg]
  constructor
  · have hadvance := @weight_advance p.longest maxCallDepth _ hpc (above.map Frame.pc)
      (below.map Frame.pc)
    rw [← hold, ← hnew, length_positions] at hadvance
    exact hadvance
  · rw [← length_positions, ← length_positions, hold, hnew]
    simp

/-- Every step that does not end the run leaves less to do. -/
theorem left_step (hd : m.depth ≤ maxCallDepth) {status : Status}
    (hs : step p m = (m', .ok status)) (hf : status.isFinal = false) :
    left p m' < left p m ∧ m'.depth ≤ maxCallDepth := by
  have hpos : 0 < (p.longest + 2) ^ (maxCallDepth - m.depth) := Nat.pow_pos (by omega)
  cases stepped_of_step hs with
  | ended => cases hf
  | returned hseg hi hc hl =>
    obtain ⟨c, rest, hstack, -, -, hrest⟩ := stack_leave (m := { m with b := .null }) hc hl
    have hpositions : m.positions = c.pc :: m'.positions := by
      rw [positions, positions, hrest]
      exact congrArg (List.map Control.pc) hstack
    have hlength := congrArg List.length hpositions
    rw [length_positions, List.length_cons, length_positions] at hlength
    exact ⟨by rw [left, left, hpositions]; exact weight_tail _ _, by omega⟩
  | @skipped _ instruction hseg hi hk =>
    obtain ⟨hadvance, hdepth⟩ := positions_modifyCurrent hseg hi (g := fun frame =>
      { frame with pc := frame.pc + 1, skip := skipAfter frame.skip instruction.op }) rfl
    exact ⟨by rw [left]; omega, by omega⟩
  | executed hseg hi hk he =>
    obtain ⟨hadvance, hdepth⟩ := positions_modifyCurrent hseg hi (g := fun frame =>
      { frame with pc := frame.pc + 1 }) rfl
    have hadvance : weight p.longest maxCallDepth m.advance.positions +
        (p.longest + 2) ^ (maxCallDepth - m.depth) ≤ left p m := hadvance
    have hdepth : m.advance.positions.length = m.depth := by
      rw [length_positions]
      exact hdepth
    have hlength := m'.length_positions
    rcases (execute_effect he).positions with hsame | ⟨hroom, hpush⟩ | ⟨pc, hpop⟩
    · have hsame : m'.positions = m.advance.positions := hsame
      rw [hsame] at hlength
      exact ⟨by rw [left, hsame]; omega, by omega⟩
    · have hpush : m'.positions = 0 :: m.advance.positions := hpush
      rw [length_stack, ← length_positions, hdepth] at hroom
      have hless := @weight_push p.longest maxCallDepth m.advance.positions (by omega)
      rw [hdepth] at hless
      rw [hpush, List.length_cons] at hlength
      exact ⟨by rw [left, hpush]; omega, by omega⟩
    · have hpop : m.advance.positions = pc :: m'.positions := hpop
      have hless := @weight_tail p.longest maxCallDepth pc m'.positions
      rw [← hpop] at hless
      rw [hpop, List.length_cons] at hdepth
      exact ⟨by rw [left]; omega, by omega⟩

end

-- ---------------------------------------------------------------------------
-- Runs
-- ---------------------------------------------------------------------------

/-- The machines that a run comes to before it ends. -/
inductive Reaches (p : Program) : Machine → Machine → Prop
  | refl (m : Machine) : Reaches p m m
  | step {m m' m'' : Machine} {status : Status} (hs : step p m = (m', .ok status))
      (hf : status.isFinal = false) (h : Reaches p m' m'') : Reaches p m m''

/-- Whether a run ends within `fuel` steps and a check passes at every machine on its way. -/
def checkRun (p : Program) (check : Machine → Bool) : (fuel : Nat) → Machine → Bool
  | 0, _ => false
  | fuel + 1, m => check m && match step p m with
    | (m', .ok status) => status.isFinal || checkRun p check fuel m'
    | (_, .error _) => true

theorem Reaches.check {p : Program} {m m' : Machine} (hr : Reaches p m m') {check : Machine → Bool}
    {fuel : Nat} (h : checkRun p check fuel m = true) : check m' = true := by
  induction hr generalizing fuel with
  | refl m =>
    cases fuel with
    | zero => cases h
    | succ fuel => exact (Bool.and_eq_true_iff.mp h).1
  | step hs hf _ ih =>
    cases fuel with
    | zero => cases h
    | succ fuel =>
      have hrest := (Bool.and_eq_true_iff.mp h).2
      simp only [hs, hf, Bool.false_or] at hrest
      exact ih hrest

def Stops (r : Except Error Status) : Prop := ∀ status, r = .ok status → status.isFinal = true

/-- The run ends with this machine and this result. -/
def Ends (p : Program) (m m' : Machine) (r : Except Error Status) : Prop :=
  ∃ last, Reaches p m last ∧ step p last = (m', r) ∧ Stops r

section
variable {p : Program} {m m' : Machine} {r : Except Error Status}

theorem ends_of_runFor (hd : m.depth ≤ maxCallDepth) {steps : Nat} (hl : left p m < steps)
    (h : runFor p steps m = (m', r)) : Ends p m m' r := by
  induction steps generalizing m with
  | zero => omega
  | succ steps ih =>
    rw [runFor] at h
    split at h
    · rename_i m₁ status hs
      split at h
      · rename_i hf
        cases h
        exact ⟨m, .refl m, hs, fun _ he => Except.ok.inj he ▸ hf⟩
      · rename_i hf
        have hf : status.isFinal = false := by simpa using hf
        obtain ⟨hless, hd₁⟩ := left_step hd hs hf
        obtain ⟨last, hreaches, hrest⟩ := ih hd₁ (by omega) h
        exact ⟨last, .step hs hf hreaches, hrest⟩
    · rename_i m₁ e hs
      cases h
      exact ⟨m, .refl m, hs, nofun⟩

theorem Reaches.runFor {last : Machine} (h : Reaches p m last) (hd : m.depth ≤ maxCallDepth)
    (hs : Machine.step p last = (m', r)) (hr : Stops r) {steps : Nat} (hl : left p m < steps) :
    runFor p steps m = (m', r) := by
  induction h generalizing steps with
  | refl m =>
    cases steps with
    | zero => omega
    | succ steps =>
      rw [Machine.runFor, hs]
      cases r with
      | ok status => simp [hr status rfl]
      | error e => rfl
  | step hs₁ hf _ ih =>
    cases steps with
    | zero => omega
    | succ steps =>
      obtain ⟨hless, hd₁⟩ := left_step hd hs₁ hf
      rw [Machine.runFor, hs₁]
      simp only [hf, Bool.false_eq_true, if_false]
      exact ih hd₁ hs (by omega)

theorem left_lt_stepBound (p : Program) (hd : m.depth ≤ maxCallDepth) : left p m < stepBound p := by
  have hle := @weight_le p.longest maxCallDepth m.positions (by rwa [length_positions])
  have hpos : 0 < (p.longest + 2) ^ (maxCallDepth - m.positions.length) := Nat.pow_pos (by omega)
  show left p m < (p.longest + 2) ^ maxCallDepth
  unfold left
  omega

/-- The bound on the steps of a run is never reached. -/
theorem run_iff_ends (hd : m.depth ≤ maxCallDepth) :
    runFor p (stepBound p) m = (m', r) ↔ Ends p m m' r := by
  have hl := left_lt_stepBound p hd
  constructor
  · exact ends_of_runFor hd hl
  · rintro ⟨last, hreaches, hs, hr⟩
    exact hreaches.runFor hd hs hr hl

end
end Machine
end Birl
