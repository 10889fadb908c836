import Birl.Proofs.Compiler.Submission
import Birl.Proofs.Machine.Stack
import Birl.Proofs.Run
import Birl.Session

/-!
# Failed lines

A command that does not compile leaves no trace in the compiler, although the compiler
works on it in place: whatever is submitted after it is answered, and becomes the code,
as if it had never been there. So a line that a session rejects changes nothing but the
number of the line (`failed_line_leaves_no_trace`).
-/

namespace Birl

/-- The line itself is at fault: it cannot be read, or it does not compile. -/
def Error.rejects : Error → Bool
  | .malformed _ | .compile _ _ => true
  | .runtime _ _ _ | .plain _ => false

namespace Machine

section
variable {p : Program} {m m' : Machine} {e : Error}

theorem step_rejects (h : step p m = (m', .error e)) : e.rejects = false := by
  cases stepped_of_step h <;> rfl

theorem runFor_rejects {steps : Nat} (h : runFor p steps m = (m', .error e)) :
    e.rejects = false := by
  induction steps generalizing m with
  | zero => cases h
  | succ steps ih =>
    unfold runFor at h
    split at h
    · split at h
      · cases h
      · exact ih h
    · rename_i hs
      cases h
      exact step_rejects hs

theorem run_rejects (h : run p m = (m', .error e)) : e.rejects = false := by
  obtain ⟨m₁, hr, -⟩ := runFor_of_run h
  exact runFor_rejects hr

end
end Machine

namespace Session

section
variable {s s' : Session} {source : Text} {e : Error}

theorem runAndRecover_rejects (h : s.runAndRecover = (s', .error e)) : e.rejects = false := by
  rcases hr : s.machine.run s.program with ⟨m, e' | status⟩
  all_goals
    obtain ⟨log, heq⟩ := runAndRecover_eq hr
    rw [heq] at h
    cases h
  exact Machine.run_rejects hr

theorem feed_rejected (h : s.feed source = (s', .error e)) (he : e.rejects = true) :
    s' = { s with line := s.line + 1 } := by
  unfold feed at h
  simp only at h
  split at h
  · cases h
    rfl
  · cases h
  · split at h
    · cases h
      rfl
    · split at h
      · cases h
      · have := runAndRecover_rejects h
        rw [he] at this
        cases this

end
end Session

theorem failed_line_leaves_no_trace :
    -- The compiler that works in place is the one that sessions use.
    (∀ (c : Compiler) line cmd, c.submit line cmd = match c.compile line cmd with
      | .ok (hint, c') => (c', .ok hint)
      | .error e => (c, .error e)) ∧
    -- After a command that fails it is what it was: its program, its scopes with their names, its
    -- functions, the segment that is open and the free slots.
    (∀ (c c' : Compiler) line cmd e, c.submit line cmd = (c', .error e) → c' = c ∧
      -- So commands that come later are answered, and compiled, as if it had not been submitted.
      ∀ later, c.submitAll ((line, cmd) :: later) =
        ((c.submitAll later).1, .error e :: (c.submitAll later).2)) ∧
    -- A session that rejects a line has counted it, and that is all.
    ∀ (s s' : Session) source e, s.feed source = (s', .error e) → e.rejects = true →
      s' = { s with line := s.line + 1 } := by
  refine ⟨Compiler.submit_eq, fun c c' line cmd e h => ?_,
    fun s s' source e => Session.feed_rejected⟩
  have hsame : c' = c := by
    rw [Compiler.submit_eq] at h
    cases hc : c.compile line cmd with
    | ok result =>
      rw [hc] at h
      cases h
    | error e' =>
      rw [hc] at h
      cases h
      rfl
  subst hsame
  refine ⟨rfl, fun later => ?_⟩
  simp only [Compiler.submitAll, h]

/-- A declaration whose value ends with a name that there is not. When it fails, a slot is taken for
the sum and the first operations are emitted. -/
def halfDone : Command where
  kind := .declare
  name := "X"
  args := [[.value (.int 1), .operator .plus, .value (.int 2), .operator .times, .symbol "Y"]]

def bareSession : Session where
  interactive := true
  file := .empty
  compiler := .new 3
  machine := .new 3

theorem failed_line_leaves_no_trace_halfDone :
    (Compiler.new 3).submit 1 halfDone = (.new 3, .error (.compile 1 (.unknownVariable "Y"))) ∧
    ((Compiler.new 3).submitAll [(1, halfDone), (2, { kind := .quit })]).1 =
      ((Compiler.new 3).submitAll [(2, { kind := .quit })]).1 ∧
    bareSession.feed "VEM: X, 1 + 2 * Y" =
      ({ bareSession with line := 1 }, .error (.compile 1 (.unknownVariable "Y"))) := by
  have hfails : (Compiler.new 3).submit 1 halfDone =
      (.new 3, .error (.compile 1 (.unknownVariable "Y"))) := by
    rw [Compiler.submit_eq]
    with_unfolding_all rfl
  have hfed : bareSession.feed "VEM: X, 1 + 2 * Y" =
      ((bareSession.feed "VEM: X, 1 + 2 * Y").1, .error (.compile 1 (.unknownVariable "Y"))) :=
    Prod.ext rfl (by with_unfolding_all rfl)
  obtain ⟨-, hlater⟩ := failed_line_leaves_no_trace.2.1 _ _ _ _ _ hfails
  have hcounted := failed_line_leaves_no_trace.2.2 _ _ _ _ hfed rfl
  exact ⟨hfails, by rw [hlater], hfed.trans (congrArg (·, _) hcounted)⟩

end Birl
