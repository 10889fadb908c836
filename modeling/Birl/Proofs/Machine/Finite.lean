import Birl.Proofs.Machine.Roster
import Birl.Proofs.Machine.Termination

/-!
# Every run is finite

A machine that came about in any way has at most `maxCallDepth` frames on its stack
(`Arises.depth_le`), and such a machine runs to an end whatever the program is and
whatever the host does between two steps (`run_finite`).
-/

namespace Birl.Machine

-- ---------------------------------------------------------------------------
-- The depth of the stack
-- ---------------------------------------------------------------------------

theorem depth_step (p : Program) (m : Machine) :
    (step p m).1.depth ≤ max m.depth maxCallDepth := by
  have hinvariant : RosterInvariant p (·.length ≤ max m.depth maxCallDepth) :=
    { push := fun _ _ _ hroom _ => Nat.le_trans hroom (Nat.le_max_right _ _)
      start := fun _ h => h
      pop := fun _ h => Nat.le_of_succ_le h }
  have hlength : m.roster.length ≤ max m.depth maxCallDepth := by
    rw [length_roster]
    exact Nat.le_max_left _ _
  rw [← length_roster]
  exact hinvariant.step hlength

/-- The machines that come about: by steps of any programs, failed ones included, by
recovering, and by whatever a host does that leaves the calls alone. -/
inductive Arises : Machine → Prop
  | new (frameSize : Int) : Arises (Machine.new frameSize)
  | step {m : Machine} (p : Program) (h : Arises m) : Arises (Machine.step p m).1
  | recover {m : Machine} (p : Program) (h : Arises m) : Arises (m.recover p)
  | host {m m' : Machine} (h : Arises m) (hc : m'.calls = m.calls) : Arises m'

theorem Arises.depth_le {m : Machine} (h : Arises m) : m.depth ≤ maxCallDepth := by
  induction h with
  | new => simp [Machine.new, depth, maxCallDepth]
  | @step m p _ ih => exact Nat.le_trans (depth_step p m) (Nat.max_le.mpr ⟨ih, Nat.le_refl _⟩)
  | recover => simp [Machine.recover, depth, maxCallDepth]
  | host _ hc ih => rwa [depth, hc]

-- ---------------------------------------------------------------------------
-- Runs
-- ---------------------------------------------------------------------------

/-- A number of steps that do not end the run, where the host may change whatever it
likes after each of them but where the frames are. -/
inductive Hosted (p : Program) : Nat → Machine → Machine → Prop
  | refl (m : Machine) : Hosted p 0 m m
  | step {m m₁ m₂ m' : Machine} {status : Status} {n : Nat} (hs : Machine.step p m = (m₁, .ok status))
      (hf : status.isFinal = false) (hh : m₂.stack = m₁.stack) (h : Hosted p n m₂ m') :
      Hosted p (n + 1) m m'

section
variable {p : Program} {m m' : Machine}

/-- Each step leaves less to do, and the host cannot add to it. -/
theorem Hosted.left {n : Nat} (h : Hosted p n m m') (hd : m.depth ≤ maxCallDepth) :
    n + Machine.left p m' ≤ Machine.left p m := by
  induction h with
  | refl => omega
  | @step m m₁ m₂ m' status n hs hf hh _ ih =>
    obtain ⟨hless, hd₁⟩ := left_step hd hs hf
    have hleft : Machine.left p m₂ = Machine.left p m₁ := by
      rw [Machine.left, Machine.left, positions, positions, hh]
    have hd₂ : m₂.depth ≤ maxCallDepth := by rwa [← length_stack, hh, length_stack]
    have := ih hd₂
    omega

theorem Ends.unique {m'' : Machine} {r r' : Except Error Status} (hd : m.depth ≤ maxCallDepth)
    (h : Ends p m m' r) (h' : Ends p m m'' r') : m'' = m' ∧ r' = r := by
  have heq := ((run_iff_ends hd).mpr h').symm.trans ((run_iff_ends hd).mpr h)
  exact ⟨congrArg Prod.fst heq, congrArg Prod.snd heq⟩

theorem Stops.cases {r : Except Error Status} (h : Stops r) :
    r = .ok .halt ∨ r = .ok .quit ∨ ∃ e, r = .error e := by
  cases r with
  | error e => exact .inr (.inr ⟨e, rfl⟩)
  | ok status =>
    have hfinal := h status rfl
    cases status with
    | halt => exact .inl rfl
    | quit => exact .inr (.inl rfl)
    | normal => cases hfinal
    | returned => cases hfinal

/-- Every run of every program comes to one end, by halting, quitting or failing, and
no run takes more steps than the bound for the program, whatever the host does between
two steps. -/
theorem run_finite (p : Program) {m : Machine} (hm : m.Arises) :
    ∃ m' r, Ends p m m' r ∧ (r = .ok .halt ∨ r = .ok .quit ∨ ∃ e, r = .error e) ∧
      run p m = (m'.flush.1, r) ∧ (∀ steps, stepBound p ≤ steps → runFor p steps m = (m', r)) ∧
      (∀ m'' r', Ends p m m'' r' → m'' = m' ∧ r' = r) ∧
      ∀ n m'', Hosted p n m m'' → n < stepBound p := by
  have hd := hm.depth_le
  have hleft := left_lt_stepBound p hd
  rcases hrun : runFor p (stepBound p) m with ⟨m', r⟩
  have hends : Ends p m m' r := (run_iff_ends hd).mp hrun
  obtain ⟨last, hreaches, hs, hstops⟩ := id hends
  refine ⟨m', r, hends, hstops.cases, ?_, ?_, fun m'' r' h => hends.unique hd h, ?_⟩
  · exact run_of_runFor hrun
  · intro steps hsteps
    exact hreaches.runFor hd hs hstops (Nat.lt_of_lt_of_le hleft hsteps)
  · intro n m'' h
    exact Nat.lt_of_le_of_lt (Nat.le_of_add_right_le (h.left hd)) hleft

def forking : Program :=
  let call : List Instruction := [⟨.newFrame entryCode, 1⟩, ⟨.startFrame, 1⟩]
  (Program.empty.append globalCode call).append entryCode (call ++ call)

/-- Recursion without an end runs out of frames, halts or quits all the same. -/
theorem run_finite_forking :
    (Machine.new 2).Arises ∧ ∃ m' r, Ends forking (Machine.new 2) m' r ∧
      (r = .ok .halt ∨ r = .ok .quit ∨ ∃ e, r = .error e) ∧
      run forking (Machine.new 2) = (m'.flush.1, r) := by
  obtain ⟨m', r, hends, hr, hrun, -⟩ := run_finite forking (.new 2)
  exact ⟨.new 2, m', r, hends, hr, hrun⟩

end

end Birl.Machine
