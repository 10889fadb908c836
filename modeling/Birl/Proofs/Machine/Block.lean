import Birl.Proofs.Machine.Control
import Birl.Proofs.Program

/-!
# Blocks in code

A conditional block is a region of code with its own end. `Nested` says that
blocks lie properly inside one another, `OpenBlocks` that so many of them are
still open at the end. Passing over a nested region only moves the current frame
(`Nested.skip`), so a block whose condition does not hold is left in as many
steps as it has instructions, and nothing else happens (`skip_block`).
-/

namespace Birl

def Operation.boundsBlock : Operation → Bool
  | executeIf _ | endIf => true
  | _ => false

/-- Code in which every block has its end. -/
inductive Nested : List Operation → Prop
  | nil : Nested []
  | plain {op : Operation} {rest : List Operation} (ho : op.boundsBlock = false) (hr : Nested rest) :
      Nested (op :: rest)
  | block {requirement : Requirement} {body rest : List Operation} (hb : Nested body)
      (hr : Nested rest) : Nested (.executeIf requirement :: (body ++ .endIf :: rest))

/-- Code with so many blocks open at its end. -/
inductive OpenBlocks : Nat → List Operation → Prop
  | closed {code : List Operation} (h : Nested code) : OpenBlocks 0 code
  | block {n : Nat} {before body : List Operation} {requirement : Requirement}
      (hb : OpenBlocks n before) (h : Nested body) :
      OpenBlocks (n + 1) (before ++ .executeIf requirement :: body)

theorem Nested.append {first second : List Operation} (h : Nested first) (h' : Nested second) :
    Nested (first ++ second) := by
  induction h with
  | nil => exact h'
  | plain ho _ ih => exact .plain ho ih
  | block hb _ _ ih => simpa using Nested.block hb ih

theorem nested_of_plain {code : List Operation} (h : ∀ op ∈ code, op.boundsBlock = false) :
    Nested code := by
  induction code with
  | nil => exact .nil
  | cons op rest ih =>
    obtain ⟨hop, hrest⟩ := List.forall_mem_cons.mp h
    exact .plain hop (ih hrest)

theorem OpenBlocks.append {n : Nat} {code more : List Operation} (h : OpenBlocks n code)
    (hm : Nested more) : OpenBlocks n (code ++ more) := by
  cases h with
  | closed h => exact .closed (h.append hm)
  | block hb h => simpa using OpenBlocks.block hb (h.append hm)

theorem OpenBlocks.open {n : Nat} {code : List Operation} (h : OpenBlocks n code)
    (requirement : Requirement) : OpenBlocks (n + 1) (code ++ [.executeIf requirement]) :=
  .block h .nil

theorem OpenBlocks.close {n : Nat} {code : List Operation} (h : OpenBlocks (n + 1) code) :
    OpenBlocks n (code ++ [.endIf]) := by
  cases h with
  | @block _ before body requirement hb h =>
    have hclosed : Nested (.executeIf requirement :: (body ++ .endIf :: [])) := .block h .nil
    simpa using hb.append hclosed

/-- A block of nested code ends in it. -/
theorem Nested.matched {before after : List Operation} {requirement : Requirement}
    (h : Nested (before ++ .executeIf requirement :: after)) :
    ∃ body rest, Nested body ∧ after = body ++ .endIf :: rest := by
  generalize hc : before ++ .executeIf requirement :: after = code at h
  induction h generalizing before after with
  | nil => simp at hc
  | plain ho _ ih =>
    cases before with
    | nil =>
      obtain ⟨rfl, -⟩ := List.cons.inj hc
      simp [Operation.boundsBlock] at ho
    | cons op before => exact ih (List.cons.inj hc).2
  | @block _ body rest hb _ ihb ihr =>
    cases before with
    | nil => exact ⟨body, rest, hb, (List.cons.inj hc).2⟩
    | cons op before =>
      -- The block lies inside the first one or after it.
      have hc := (List.cons.inj hc).2
      rcases List.append_eq_append_iff.mp hc with ⟨mid, rfl, hmid⟩ | ⟨mid, rfl, hmid⟩
      · cases mid with
        | nil => simp at hmid
        | cons op mid =>
          obtain ⟨rfl, rfl⟩ := List.cons.inj hmid
          obtain ⟨body', rest', hb', rfl⟩ := ihb rfl
          exact ⟨body', rest' ++ .endIf :: rest, hb', by simp⟩
      · cases mid with
        | nil => simp at hmid
        | cons op mid =>
          obtain ⟨-, hmid⟩ := List.cons.inj hmid
          exact ihr hmid.symm

/-- A block of code with open blocks ends in it or is one of those that are open. -/
theorem OpenBlocks.matched {n : Nat} {before after : List Operation} {requirement : Requirement}
    (h : OpenBlocks n (before ++ .executeIf requirement :: after)) :
    (∃ body rest, Nested body ∧ after = body ++ .endIf :: rest) ∨
      ∃ i j, i + j + 1 = n ∧ OpenBlocks i before ∧ OpenBlocks j after := by
  generalize hc : before ++ .executeIf requirement :: after = code at h
  induction h generalizing before after with
  | closed h => exact .inl (hc ▸ h).matched
  | @block n before' body requirement' hb h ih =>
    rcases List.append_eq_append_iff.mp hc with ⟨mid, rfl, hmid⟩ | ⟨mid, rfl, hmid⟩
    · cases mid with
      | nil =>
        obtain ⟨-, rfl⟩ := List.cons.inj hmid
        exact .inr ⟨n, 0, by omega, by simpa using hb, .closed h⟩
      | cons op mid =>
        obtain ⟨rfl, rfl⟩ := List.cons.inj hmid
        rcases ih rfl with ⟨body', rest', hb', rfl⟩ | ⟨i, j, hij, hi, hj⟩
        · exact .inl ⟨body', rest' ++ .executeIf requirement' :: body, hb', by simp⟩
        · exact .inr ⟨i, j + 1, by omega, hi, .block hj h⟩
    · cases mid with
      | nil =>
        obtain ⟨-, rfl⟩ := List.cons.inj hmid
        exact .inr ⟨n, 0, by omega, by simpa using hb, .closed h⟩
      | cons op mid =>
        obtain ⟨-, rfl⟩ := List.cons.inj hmid
        exact .inl h.matched

namespace Machine

-- ---------------------------------------------------------------------------
-- Code ahead of the current frame
-- ---------------------------------------------------------------------------

inductive NormalSteps (p : Program) : Nat → Machine → Machine → Prop
  | refl {m : Machine} : NormalSteps p 0 m m
  | step {n : Nat} {m m' m'' : Machine} (h : step p m = (m', .ok .normal))
      (hs : NormalSteps p n m' m'') : NormalSteps p (n + 1) m m''

theorem NormalSteps.trans {p : Program} {n n' : Nat} {m m' m'' : Machine}
    (h : NormalSteps p n m m') (h' : NormalSteps p n' m' m'') : NormalSteps p (n + n') m m'' := by
  induction h with
  | refl => simpa using h'
  | step hs _ ih =>
    rw [Nat.add_right_comm]
    exact .step hs (ih h')

/-- The current frame is about to meet these operations. -/
def Ahead (p : Program) (m : Machine) (ops : List Operation) : Prop :=
  ∃ segment, m.segment? p = some segment ∧ ops <+: segment.operations.drop m.current.pc

section
variable {p : Program} {m : Machine} {ops : List Operation}

theorem segment?_congr {m' : Machine} (h : m'.current.owner = m.current.owner) :
    m'.segment? p = m.segment? p := by
  simp [segment?, h]

theorem Ahead.drop {more : List Operation} {m' : Machine} (h : Ahead p m (ops ++ more))
    (ho : m'.current.owner = m.current.owner) (hpc : m'.current.pc = m.current.pc + ops.length) :
    Ahead p m' more := by
  obtain ⟨segment, hs, rest, hrest⟩ := h
  refine ⟨segment, (segment?_congr ho).trans hs, rest, ?_⟩
  rw [hpc, ← List.drop_drop, ← hrest, List.append_assoc, List.drop_left]

theorem Ahead.head {op : Operation} (h : Ahead p m (op :: ops)) :
    ∃ segment instruction, m.segment? p = some segment ∧
      segment.code[m.current.pc]? = some instruction ∧ instruction.op = op := by
  obtain ⟨segment, hs, rest, hrest⟩ := h
  have hget : segment.operations[m.current.pc]? = some op := by
    rw [← List.head?_drop, ← hrest]
    rfl
  obtain ⟨instruction, hi, hop⟩ := segment.operations_getElem?.mp hget
  exact ⟨segment, instruction, hs, hi, hop⟩

theorem Ahead.step_ok {op : Operation} {m' : Machine} {status : Status} (h : Ahead p m (op :: ops))
    (hk : m.current.skip = 0) (he : execute p m.advance op = (m', .ok status)) :
    step p m = (m', .ok status) := by
  obtain ⟨segment, instruction, hs, hi, rfl⟩ := h.head
  exact (Stepped.executed hs hi hk he).step_eq

theorem Ahead.step_error {op : Operation} {m' : Machine} {fault : Fault} (h : Ahead p m (op :: ops))
    (hk : m.current.skip = 0) (he : execute p m.advance op = (m', .error fault)) :
    ∃ line function, step p m = (m', .error (.runtime line function fault)) := by
  obtain ⟨segment, instruction, hs, hi, rfl⟩ := h.head
  exact ⟨_, _, (Stepped.failed hs hi hk he).step_eq⟩

theorem Ahead.executed {op : Operation} {m' : Machine} {status : Status} (h : Ahead p m (op :: ops))
    (hk : m.current.skip = 0) (hs : step p m = (m', .ok status)) :
    execute p m.advance op = (m', .ok status) := by
  rcases he : execute p m.advance op with ⟨m₁, fault | status'⟩
  · obtain ⟨line, function, hfails⟩ := h.step_error hk he
    rw [hfails] at hs
    cases hs
  · rw [h.step_ok hk he] at hs
    cases hs
    rfl

/-- The machine with the current frame so far on and its skip counter set. -/
def moved (m : Machine) (n skip : Nat) : Machine :=
  m.modifyCurrent fun frame => { frame with pc := frame.pc + n, skip }

theorem current_moved (m : Machine) (n skip : Nat) :
    (m.moved n skip).current = { m.current with pc := m.current.pc + n, skip } :=
  current_modifyCurrent rfl

theorem moved_moved (m : Machine) (n n' skip skip' : Nat) :
    (m.moved n skip).moved n' skip' = m.moved (n + n') skip' := by
  rw [moved, moved, modifyCurrent_modifyCurrent rfl]
  exact modifyCurrent_congr (by simp [Nat.add_assoc])

theorem moved_zero (m : Machine) : m.moved 0 m.current.skip = m := modifyCurrent_self rfl

theorem advance_eq_moved (m : Machine) : m.advance = m.moved 1 m.current.skip :=
  modifyCurrent_congr rfl

theorem Ahead.moved {more : List Operation} (h : Ahead p m (ops ++ more)) (skip : Nat) :
    Ahead p (m.moved ops.length skip) more :=
  h.drop (by rw [current_moved]) (by rw [current_moved])

theorem Ahead.next {op : Operation} (h : Ahead p m (op :: ops)) (skip : Nat) :
    Ahead p (m.moved 1 skip) ops :=
  @Ahead.moved p m [op] ops h skip

-- ---------------------------------------------------------------------------
-- Passing over code
-- ---------------------------------------------------------------------------

theorem step_passing {op : Operation} (hk : 0 < m.current.skip) (h : Ahead p m (op :: ops)) :
    step p m = (m.moved 1 (skipAfter m.current.skip op), .ok .normal) := by
  obtain ⟨segment, instruction, hs, hi, rfl⟩ := h.head
  rw [(Stepped.skipped hs hi hk).step_eq]
  exact congrArg (·, _) (modifyCurrent_congr rfl)

end

end Machine

open Machine

section
variable {p : Program} {m : Machine}

/-- A frame that skips passes over nested code as if it were not there. -/
theorem Nested.skip {body rest : List Operation} (hn : Nested body) (hk : 0 < m.current.skip)
    (h : Ahead p m (body ++ rest)) :
    NormalSteps p body.length m (m.moved body.length m.current.skip) := by
  induction hn generalizing m rest with
  | nil =>
    rw [List.length_nil, moved_zero]
    exact .refl
  | @plain op code ho _ ih =>
    have hstep := step_passing hk h
    have hskip : skipAfter m.current.skip op = m.current.skip := by
      cases op <;> first | rfl | simp [Operation.boundsBlock] at ho
    rw [hskip] at hstep
    have hahead : Ahead p (m.moved 1 m.current.skip) (code ++ rest) := h.next _
    have hrest := ih (by simpa [current_moved] using hk) hahead
    rw [current_moved, moved_moved, Nat.add_comm] at hrest
    exact .step hstep hrest
  | @block requirement body code hb _ ihb ihr =>
    -- The counter goes up by one at the head of the inner block and back at its end.
    have hopen := step_passing hk h
    simp only [skipAfter] at hopen
    have hahead : Ahead p (m.moved 1 (m.current.skip + 1)) (body ++ (.endIf :: (code ++ rest))) :=
      Ahead.next (by simpa using h) _
    have hbody := ihb (by simp [current_moved]) hahead
    rw [current_moved, moved_moved] at hbody
    have hend : Ahead p (m.moved (1 + body.length) (m.current.skip + 1)) (.endIf :: (code ++ rest)) := by
      have := hahead.moved (m.current.skip + 1)
      rwa [moved_moved] at this
    have hclose := step_passing (by simp [current_moved]) hend
    simp only [current_moved, skipAfter, Nat.add_sub_cancel, moved_moved] at hclose
    have hafter : Ahead p (m.moved (1 + body.length + 1) m.current.skip) (code ++ rest) := by
      have := hend.next m.current.skip
      rwa [moved_moved] at this
    have hrest := ihr (by simpa [current_moved] using hk) hafter
    rw [current_moved, moved_moved] at hrest
    have hsteps := NormalSteps.step hopen (hbody.trans (.step hclose hrest))
    have hlen : body.length + (code.length + 1) + 1 = 1 + body.length + 1 + code.length := by omega
    simpa [hlen] using hsteps

namespace Machine

-- ---------------------------------------------------------------------------
-- Entering and leaving a block
-- ---------------------------------------------------------------------------

variable {ops : List Operation} {requirement : Requirement}

/-- A block whose condition holds is entered: its first instruction is the next one. -/
theorem step_enter (hk : m.current.skip = 0) (h : Ahead p m (.executeIf requirement :: ops))
    (hr : requirement.holds m.current.comparison = true) :
    step p m = (m.moved 1 0, .ok .normal) := by
  have he : execute p m.advance (.executeIf requirement) = (m.advance, .ok .normal) := by
    simp [execute, current_advance, hr, done]
  rw [h.step_ok hk he, advance_eq_moved, hk]

theorem step_refuse (hk : m.current.skip = 0) (h : Ahead p m (.executeIf requirement :: ops))
    (hr : requirement.holds m.current.comparison = false) :
    step p m = (m.moved 1 1, .ok .normal) := by
  refine h.step_ok hk ?_
  simp only [execute, current_advance, hr, Bool.false_eq_true, if_false, done]
  rw [advance, modifyCurrent_modifyCurrent rfl]
  rfl

/-- The end of a block that was entered does nothing. -/
theorem step_endIf (hk : m.current.skip = 0) (h : Ahead p m (.endIf :: ops)) :
    step p m = (m.moved 1 0, .ok .normal) := by
  have he : execute p m.advance .endIf = (m.advance, .ok .normal) := by simp [execute, done]
  rw [h.step_ok hk he, advance_eq_moved, hk]

/-- A block whose condition does not hold is left behind, a step for each of its
instructions, and only the current frame moves. -/
theorem skip_block {body : List Operation} (hk : m.current.skip = 0)
    (h : Ahead p m (.executeIf requirement :: (body ++ [.endIf]))) (hn : Nested body)
    (hr : requirement.holds m.current.comparison = false) :
    NormalSteps p (body.length + 2) m (m.moved (body.length + 2) 0) := by
  have hrefuse := step_refuse hk h hr
  have hahead : Ahead p (m.moved 1 1) (body ++ [.endIf]) :=
    h.next 1
  have hbody := hn.skip (by simp [current_moved]) hahead
  rw [current_moved, moved_moved] at hbody
  have hend : Ahead p (m.moved (1 + body.length) 1) [.endIf] := by
    have := hahead.moved 1
    rwa [moved_moved] at this
  have hclose := step_passing (by simp [current_moved]) hend
  simp only [current_moved, skipAfter, Nat.sub_self, moved_moved] at hclose
  have hsteps := NormalSteps.step hrefuse (hbody.trans (.step hclose .refl))
  have hlen : 1 + body.length + 1 = body.length + 2 := by omega
  simpa [hlen] using hsteps

end Machine
end

end Birl
