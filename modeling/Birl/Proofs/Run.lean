import Birl.Session

/-!
# Runs to the end

What a run of the machine comes to, in terms of its steps, and what a session makes of it. The
number of steps is bounded by a power with the greatest depth of calls as its exponent; whoever
opens a run through these lemmas does not meet it.
-/

namespace Birl

namespace Machine

variable {p : Program} {m m' : Machine} {r : Except Error Status}

theorem run_of_runFor (h : runFor p (stepBound p) m = (m', r)) : run p m = (m'.flush.1, r) := by
  rw [run, h]

theorem runFor_of_run (h : run p m = (m', r)) :
    ∃ m₁, runFor p (stepBound p) m = (m₁, r) ∧ m' = m₁.flush.1 := by
  rw [run] at h
  generalize stepBound p = steps at h ⊢
  generalize runFor p steps m = ran at h ⊢
  obtain ⟨m₁, r₁⟩ := ran
  obtain ⟨hm, rfl⟩ := Prod.mk.inj h
  exact ⟨m₁, rfl, hm.symm⟩

end Machine

namespace Session

variable {s : Session} {machine : Machine} {r : Except Error Status}

theorem runMachine_eq (hr : s.machine.run s.program = (machine, r)) :
    ∃ log, s.runMachine = match r with
      | .ok status => ({ s with machine, log, quit := s.quit || status = .quit }, .ok status)
      | .error e => ({ s with machine, log }, .error e) := by
  unfold runMachine
  generalize s.machine.logRun s.program s.log = log
  rw [hr]
  exact ⟨log, rfl⟩

theorem runAndRecover_eq (hr : s.machine.run s.program = (machine, r)) :
    ∃ log, s.runAndRecover = match r with
      | .ok status => ({ s with machine, log, quit := s.quit || status = .quit }, .ok ())
      | .error e => ({ s with machine := machine.recover s.program, log }, .error e) := by
  obtain ⟨log, heq⟩ := runMachine_eq hr
  unfold runAndRecover
  rw [heq]
  cases r with
  | ok status => exact ⟨log, rfl⟩
  | error e => exact ⟨log, rfl⟩

theorem runEntryPoint_eq (s : Session) : s.runEntryPoint =
    if !s.interactive || s.entryRun || s.quit || s.depth > 0 || !s.compiler.hasEntryPoint then
      (s, .ok ())
    else
      (logged { s with entryRun := true, compiler := s.compiler.appendEntryCall s.line } .debug
        "calling entry point" [("line", .int s.line)]).runAndRecover := rfl

end Session
end Birl
