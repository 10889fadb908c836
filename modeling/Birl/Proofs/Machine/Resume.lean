import Birl.Proofs.Machine.Output
import Birl.Proofs.Machine.Placement

/-!
# Runs that stop and go on

A program `Continues` another if it only adds global code, and functions that the code
so far cannot call. A run of the longer program does what a run of the shorter one
does, up to the point where the shorter one is at its end: there nothing is being
built and no call is under way, and the longer one goes on (`Reaches.resume`).
-/

namespace Birl

/-- Both programs have the same function there. -/
def Program.Shares (p p' : Program) (id : Nat) : Prop :=
  id ≠ globalCode ∧ ∃ s, p.segment? id = some s ∧ p'.segment? id = some s

/-- `p'` has the code of `p`, and more of it only where `p` does not call it. -/
structure Program.Continues (p p' : Program) : Prop where
  program : p.Extends p'
  flows : p.Flows
  calls : ∀ id s, p.segment? id = some s → ∀ code : Int, .newFrame code ∈ s.operations →
    code = -1 ∨ ∃ id' : Nat, code = id' ∧ p.Shares p' id'

namespace Machine

def ReturnsGlobally (p : Program) (m : Machine) : Prop :=
  m.calls = [] ∧ m.current.skip = 0 ∧ ∃ s instruction, m.segment? p = some s ∧
    s.code[m.current.pc]? = some instruction ∧ instruction.op = .returnValue

/-- Under the frames of functions, which are all shared, lies the global one. -/
def Housed (p p' : Program) : List Control → Prop
  | [] => False
  | [c] => c.owner = .code globalCode
  | c :: rest =>
    (c.owner = .plugin ∨ ∃ id, c.owner = .code id ∧ p.Shares p' id) ∧ Housed p p' rest

section
variable {p p' : Program} {m m' : Machine} {s s' : List Control}

theorem Housed.tail {c : Control} (h : Housed p p' (c :: s)) (hne : s ≠ []) : Housed p p' s := by
  cases s with
  | nil => contradiction
  | cons next rest => exact h.2

theorem Housed.cons {c : Control} (h : Housed p p' s)
    (hc : c.owner = .plugin ∨ ∃ id, c.owner = .code id ∧ p.Shares p' id) : Housed p p' (c :: s) := by
  cases s with
  | nil => exact h.elim
  | cons next rest => exact ⟨hc, h⟩

theorem Housed.of_owners (h : Housed p p' s) (ho : s'.map Control.owner = s.map Control.owner) :
    Housed p p' s' := by
  induction s generalizing s' with
  | nil => exact h.elim
  | cons c rest ih =>
    cases s' with
    | nil => cases ho
    | cons c' rest' =>
      obtain ⟨hc, hrest⟩ := List.cons.inj ho
      cases rest with
      | nil =>
        cases rest' with
        | nil => exact hc.trans h
        | cons => cases hrest
      | cons next rest =>
        have hhoused := ih h.2 hrest
        exact hhoused.cons (hc ▸ h.1)

theorem Housed.head {c : Control} (h : Housed p p' (c :: s)) {id : Nat} (ho : c.owner = .code id) :
    (s = [] ∧ id = globalCode) ∨ p.Shares p' id := by
  cases s with
  | nil =>
    have h : c.owner = .code globalCode := h
    rw [ho] at h
    exact .inl ⟨rfl, FrameOwner.code.inj h⟩
  | cons next rest =>
    rcases h.1 with hplugin | ⟨id', hid', hshares⟩
    · rw [ho] at hplugin
      cases hplugin
    · rw [ho] at hid'
      exact .inr (FrameOwner.code.inj hid' ▸ hshares)

theorem Housed.append {above : List Control} (h : Housed p p' (above ++ s)) (hne : s ≠ []) :
    Housed p p' s := by
  induction above with
  | nil => exact h
  | cons x above ih => exact ih (h.tail (by simp [hne]))

theorem Effect.housed {last : Comparison} {op : Operation} (he : Effect p last op s s')
    (h : Housed p p' s) (hcall : ∀ code : Int, op = .newFrame code →
      code = -1 ∨ ∃ id : Nat, code = id ∧ p.Shares p' id) : Housed p p' s' := by
  cases he with
  | keep => exact h
  | skip => exact h.of_owners (map_modifyRunning (fun _ => by rfl) s)
  | @push code owner _ _ ho =>
    refine h.cons ?_
    rcases ho with ⟨-, rfl⟩ | ⟨hcode, rfl⟩
    · exact .inl rfl
    · rcases hcall code rfl with rfl | ⟨id, rfl, hshares⟩
      · cases hcode
      · exact .inr ⟨id, rfl, hshares⟩
  | start => exact h.of_owners rfl
  | leave _ hne => exact h.tail hne
  | halt => exact h
  | call _ _ hne => exact h.tail hne

-- ---------------------------------------------------------------------------
-- One step
-- ---------------------------------------------------------------------------

/-- The global code is at its end, and no call is under way. -/
structure AtEnd (p : Program) (m : Machine) : Prop where
  calls : m.calls = []
  code : ∃ s, m.segment? p = some s ∧ s.code[m.current.pc]? = none

theorem AtEnd.step (h : AtEnd p m) : step p m = (m, .ok .halt) := by
  obtain ⟨s, hs, hi⟩ := h.code
  exact Stepped.step_eq (.ended hs hi h.calls)

theorem AtEnd.ends (h : AtEnd p m) : Ends p m m (.ok .halt) :=
  ⟨m, .refl m, h.step, fun _ he => Except.ok.inj he ▸ rfl⟩

variable {σ : Flow} {above below : List Control} {c : Control}

/-- Where the shorter program is not at its end, both programs have the same
instruction next. -/
theorem Placed.same_code (hp : p.Continues p') (h : Placed p m σ above c below)
    (hh : Housed p p' m.stack) :
    AtEnd p m ∨ ∃ s s', m.segment? p = some s ∧ m.segment? p' = some s' ∧ s'.name = s.name ∧
      s'.code[m.current.pc]? = s.code[m.current.pc]? := by
  obtain ⟨id, s, ho, hid, hs⟩ := h.segment
  have howner : m.current.owner = .code id := (congrArg Control.owner h.current).trans ho
  have hsegment : m.segment? p' = p'.segment? id := by simp [segment?, howner]
  rw [h.stack] at hh
  rcases (hh.append (by simp)).head ho with ⟨hbelow, rfl⟩ | ⟨-, s', hid', hshared⟩
  · obtain ⟨more, hmore⟩ := hp.program globalCode s hid
    cases hi : s.code[m.current.pc]? with
    | none =>
      cases h.above_nil hp.flows hs hi
      refine .inl ⟨?_, s, hs, hi⟩
      have hlength := congrArg List.length h.stack
      rw [length_stack, depth, hbelow] at hlength
      exact List.eq_nil_of_length_eq_zero (by simpa using hlength)
    | some instruction =>
      refine .inr ⟨s, _, hs, hsegment.trans hmore, rfl, ?_⟩
      have hlt := (Array.getElem?_eq_some_iff.mp hi).1
      rw [← Array.getElem?_toList, ← Array.getElem?_toList, Array.toList_appendList]
      exact List.getElem?_append_left hlt
  · obtain rfl : s' = s := Option.some.inj (hid'.symm.trans hid)
    exact .inr ⟨s', s', hs, hsegment.trans hshared, rfl, rfl⟩

/-- An operation of the shorter program does the same in the longer one. -/
theorem execute_continues (hp : p.Continues p') {id : Nat} {s : Segment} {op : Operation}
    (hs : p.segment? id = some s) (hop : op ∈ s.operations) (m : Machine) :
    execute p' m op = execute p m op := by
  cases op with
  | newFrame code =>
    simp only [execute, pushFrame]
    rcases hp.calls id s hs code hop with rfl | ⟨id', rfl, -, s', hs', hs''⟩
    · rfl
    · have hcode : p.hasCode id' = true := (p.hasCode_iff id').mpr ⟨s', hs'⟩
      have hcode' : p'.hasCode id' = true := (p'.hasCode_iff id').mpr ⟨s', hs''⟩
      rw [hcode, hcode']
  | _ => rfl

theorem Placed.step_eq (hp : p.Continues p') (h : Placed p m σ above c below)
    (hh : Housed p p' m.stack) : AtEnd p m ∨ Machine.step p' m = Machine.step p m := by
  rcases h.same_code hp hh with hend | ⟨s, s', hs, hs', hname, hcode⟩
  · exact .inl hend
  · obtain ⟨id, s₁, -, hid, hs₁⟩ := h.segment
    obtain rfl : s₁ = s := Option.some.inj (hs₁.symm.trans hs)
    refine .inr ?_
    unfold Machine.step
    simp only [hs, hs', hcode, hname]
    split
    · rfl
    · rename_i instruction hi
      have hop : instruction.op ∈ s₁.operations :=
        List.mem_of_getElem? (s₁.operations_getElem?.mpr ⟨instruction, hi, rfl⟩)
      rw [execute_continues hp hid hop]

theorem Placed.returnsGlobally (hp : p.Continues p') (h : Placed p m σ above c below)
    (hh : Housed p p' m.stack) (he : ¬AtEnd p m) (hr : ReturnsGlobally p m) :
    ReturnsGlobally p' m := by
  obtain ⟨s, s', hs, hs', -, hcode⟩ := (h.same_code hp hh).resolve_left he
  obtain ⟨hcalls, hk, s₁, instruction, hs₁, hi, hop⟩ := hr
  obtain rfl : s₁ = s := Option.some.inj (hs₁.symm.trans hs)
  exact ⟨hcalls, hk, s', instruction, hs', hcode.trans hi, hop⟩

theorem Placed.housed (hp : p.Continues p') (h : Placed p m σ above c below)
    (hh : Housed p p' m.stack) {status : Status} (hs : Machine.step p m = (m', .ok status)) :
    Housed p p' m'.stack := by
  cases stepped_of_step hs with
  | ended => exact hh
  | returned hseg hi hc hl =>
    obtain ⟨x, rest, hstack, hne, -, hrest⟩ := stack_leave (m := { m with b := .null }) hc hl
    have hstack : m.stack = x :: rest := hstack
    rw [hstack] at hh
    rw [hrest]
    exact hh.tail hne
  | @skipped _ instruction hseg hi hk =>
    rw [stack_modifyCurrent
      (fun c => { c with pc := c.pc + 1, skip := skipAfter c.skip instruction.op }) rfl]
    exact hh.of_owners (map_modifyRunning (fun _ => by rfl) m.stack)
  | @executed s instruction _ _ hseg hi hk he =>
    obtain ⟨id, s₁, -, hid, hs₁⟩ := h.segment
    obtain rfl : s₁ = s := Option.some.inj (hs₁.symm.trans hseg)
    have hop : instruction.op ∈ s₁.operations :=
      List.mem_of_getElem? (s₁.operations_getElem?.mpr ⟨instruction, hi, rfl⟩)
    have hadvance : Housed p p' m.advance.stack := by
      rw [stack_advance]
      exact hh.of_owners (map_modifyRunning (fun _ => by rfl) m.stack)
    exact (execute_effect he).housed hadvance fun code heq =>
      hp.calls id s₁ hid code (heq ▸ hop)

-- ---------------------------------------------------------------------------
-- Runs
-- ---------------------------------------------------------------------------

/-- An operation halts only where it returns from the global frame. -/
theorem execute_halt {op : Operation} (h : execute p m op = (m', .ok .halt)) :
    op = .returnValue ∧ m.calls = [] := by
  cases op with
  | returnValue =>
    simp only [execute] at h
    split at h
    · rename_i hcalls
      exact ⟨rfl, by simpa using hcalls⟩
    · split at h <;> cases h
  | _ =>
    simp only [execute, setB, readSlot, writeArgument, pushFrame, startFrame, Machine.callPlugin,
      Machine.readInput, Machine.emit] at h
    repeat' split at h
    all_goals cases h

theorem calls_of_advance (h : m.advance.calls = []) : m.calls = [] := by
  rcases m.current_cases with ⟨above, f, below, -, -, -, -, hmod⟩ | ⟨-, -, hmod⟩
  · rw [advance, hmod] at h
    simp at h
  · rw [advance, hmod] at h
    exact h

theorem returnsGlobally_of_halt (hs : Machine.step p m = (m', .ok .halt)) (he : ¬AtEnd p m) :
    ReturnsGlobally p m := by
  cases stepped_of_step hs with
  | ended hseg hi hc => exact absurd ⟨hc, _, hseg, hi⟩ he
  | @executed s instruction _ _ hseg hi hk hexecute =>
    obtain ⟨hop, hcalls⟩ := execute_halt hexecute
    exact ⟨calls_of_advance hcalls, hk, s, instruction, hseg, hi, hop⟩

/-- A run of the longer program up to its last machine, seen from the shorter one: the
shorter one ends in the same way, other than at the end of the code, or it comes to
its end where the longer one goes on. -/
theorem Reaches.resume (hp : p.Continues p') {last : Machine} (hr : Reaches p' m last)
    (h : Placed p m σ above c below) (hh : Housed p p' m.stack) {r : Except Error Status}
    (hs : Machine.step p' last = (m', r)) (hstop : Stops r) (hn : ¬ReturnsGlobally p' last) :
    (Ends p m m' r ∧ r ≠ .ok .halt) ∨
      ∃ m₁, Ends p m m₁ (.ok .halt) ∧ AtEnd p m₁ ∧ Reaches p' m₁ last ∧
        (∃ σ above c below, Placed p m₁ σ above c below) ∧ Housed p p' m₁.stack := by
  induction hr generalizing σ above c below with
  | refl m =>
    by_cases hend : AtEnd p m
    · exact .inr ⟨m, hend.ends, hend, .refl m, ⟨_, _, _, _, h⟩, hh⟩
    · rw [(h.step_eq hp hh).resolve_left hend] at hs
      refine .inl ⟨⟨m, .refl m, hs, hstop⟩, ?_⟩
      rintro rfl
      exact hn (h.returnsGlobally hp hh hend (returnsGlobally_of_halt hs hend))
  | @step m m₁ last status hs₁ hf hr ih =>
    rcases h.step_eq hp hh with hend | hsame
    · exact .inr ⟨m, hend.ends, hend, .step hs₁ hf hr, ⟨_, _, _, _, h⟩, hh⟩
    · rw [hsame] at hs₁
      obtain ⟨σ', above', c', below', hplaced, -⟩ := h.step hp.flows hs₁
      rcases ih hplaced (h.housed hp hh hs₁) hs hn with
        ⟨⟨last', hreaches, hrest⟩, hne⟩ | ⟨m₂, ⟨last', hreaches, hrest⟩, hothers⟩
      · exact .inl ⟨⟨last', .step hs₁ hf hreaches, hrest⟩, hne⟩
      · exact .inr ⟨m₂, ⟨last', .step hs₁ hf hreaches, hrest⟩, hothers⟩

-- ---------------------------------------------------------------------------
-- Runs in pieces
-- ---------------------------------------------------------------------------

/-- A run of `p` from `m` is going to end with `r`, without a return in the global frame,
and with a machine that is like `goal`. -/
def Due (p : Program) (m : Machine) (r : Except Error Status) (goal : Machine) : Prop :=
  ∃ last m', Reaches p m last ∧ Machine.step p last = (m', r) ∧ Stops r ∧
    ¬ReturnsGlobally p last ∧ Alike goal m'

/-- The machine is between runs, in the global frame. -/
structure Paused (p : Program) (m : Machine) : Prop where
  calls : m.calls = []
  owner : m.global.owner = .code globalCode
  placed : ∃ σ above c below, Placed p m σ above c below
  output : m.output.Working

variable {goal : Machine} {r : Except Error Status}

theorem ReturnsGlobally.alike (h : ReturnsGlobally p m') (ha : Alike m m') : ReturnsGlobally p m := by
  obtain ⟨output, rfl, -⟩ := ha
  exact h

theorem not_returnsGlobally
    (h : (p.segments.all fun s => s.code.all fun i => i.op ≠ .returnValue) = true) (m : Machine) :
    ¬ReturnsGlobally p m := by
  rintro ⟨-, -, s, instruction, hs, hi, hop⟩
  have hmem : s ∈ p.segments := by
    unfold segment? at hs
    split at hs
    · exact Array.mem_of_getElem? hs
    · cases hs
  have hall := Array.all_eq_true_iff_forall_mem.mp (Array.all_eq_true_iff_forall_mem.mp h s hmem)
    instruction (Array.mem_of_getElem? hi)
  simp [hop] at hall

theorem Due.alike (h : Due p m r goal) (ha : Alike m m') : Due p m' r goal := by
  obtain ⟨last, m₁, hreaches, hs, hstop, hn, hgoal⟩ := h
  obtain ⟨last', hreaches', hlast⟩ := ha.reaches hreaches
  obtain ⟨m₁', hs', h₁⟩ := hlast.step hs
  exact ⟨last', m₁', hreaches', hs', hstop, fun hr => hn (hr.alike hlast), hgoal.trans h₁⟩

theorem Paused.depth_le (h : Paused p m) : m.depth ≤ maxCallDepth := by
  rw [depth, h.calls]
  decide

theorem Paused.extend (h : Paused p m) (hp : p.Extends p') : Paused p' m := by
  obtain ⟨σ, above, c, below, hplaced⟩ := h.placed
  exact ⟨h.calls, h.owner, ⟨σ, above, c, below, hplaced.extend hp⟩, h.output⟩

theorem Ends.working (h : Ends p m m' r) (hw : m.output.Working) : m'.output.Working := by
  obtain ⟨last, hreaches, hs, -⟩ := h
  obtain ⟨last', -, hlast⟩ := (alike_of_working hw).reaches hreaches
  obtain ⟨m'', -, h'⟩ := hlast.step hs
  exact h'.working.1

theorem Ends.run (h : Ends p m m' r) (hd : m.depth ≤ maxCallDepth) :
    Machine.run p m = (m'.flush.1, r) :=
  run_of_runFor ((run_iff_ends hd).mpr h)

theorem ends_of_run (hd : m.depth ≤ maxCallDepth) (h : Machine.run p m = (m', r)) :
    ∃ m₁, Ends p m m₁ r ∧ m' = m₁.flush.1 := by
  obtain ⟨m₁, hfor, hm⟩ := runFor_of_run h
  exact ⟨m₁, (run_iff_ends hd).mp hfor, hm⟩

theorem due_of_run {last : Machine} (hd : m.depth ≤ maxCallDepth) (hw : m.output.Working)
    (hrun : Machine.run p m = (last, r))
    (hreturn : ∀ m', Reaches p m m' → ¬ReturnsGlobally p m') :
    ∃ goal, Due p m r goal ∧ Alike goal last := by
  obtain ⟨goal, hends, rfl⟩ := ends_of_run hd hrun
  have halike : Alike goal goal := alike_of_working (hends.working hw)
  obtain ⟨before, hreaches, hstep, hstop⟩ := hends
  exact ⟨goal, ⟨before, goal, hreaches, hstep, hstop, hreturn before hreaches, halike⟩,
    halike.flush_right⟩

theorem Due.run (h : Due p m r goal) (hp : Paused p m) :
    ∃ m', Machine.run p m = (m', r) ∧ Stops r ∧ Alike goal m' := by
  obtain ⟨last, m', hreaches, hs, hstop, -, hgoal⟩ := h
  have hends : Ends p m m' r := ⟨last, hreaches, hs, hstop⟩
  exact ⟨_, hends.run hp.depth_le, hstop, hgoal.flush_right⟩

theorem Due.atEnd (h : Due p m r goal) (he : AtEnd p m) : r = .ok .halt ∧ Alike goal m := by
  obtain ⟨last, m', hreaches, hs, -, -, hgoal⟩ := h
  cases hreaches with
  | refl =>
    rw [he.step] at hs
    cases hs
    exact ⟨rfl, hgoal⟩
  | step hs₁ hf _ =>
    rw [he.step] at hs₁
    cases hs₁
    cases hf

/-- A run of the shorter program ends as the longer one does, or pauses on its way. -/
theorem Due.resume (h : Due p' m r goal) (hc : p.Continues p') (hp : Paused p m) :
    (∃ m', Machine.run p m = (m', r) ∧ Stops r ∧ r ≠ .ok .halt ∧ Alike goal m') ∨
      ∃ m', Machine.run p m = (m', .ok .halt) ∧ Paused p m' ∧ AtEnd p m' ∧ Due p' m' r goal := by
  obtain ⟨last, m₁, hreaches, hs, hstop, hn, hgoal⟩ := h
  obtain ⟨σ, above, c, below, hplaced⟩ := hp.placed
  have hhoused : Housed p p' m.stack := by
    rw [stack, frames, hp.calls]
    exact hp.owner
  rcases hreaches.resume hc hplaced hhoused hs hstop hn with
    ⟨hends, hne⟩ | ⟨m', hends, hend, hrest, ⟨σ', above', c', below', hplaced'⟩, hhoused'⟩
  · exact .inl ⟨_, hends.run hp.depth_le, hstop, hne, hgoal.flush_right⟩
  · have hworking := hends.working hp.output
    have hflush : Alike m' m'.flush.1 := (alike_of_working hworking).flush_right
    have howner : m'.global.owner = .code globalCode := by
      rw [stack, frames, hend.calls] at hhoused'
      exact hhoused'
    refine .inr ⟨m'.flush.1, hends.run hp.depth_le, ?_, ?_, ?_⟩
    · exact ⟨hend.calls, howner, ⟨σ', above', c', below', hplaced'.of_stack rfl⟩, hflush.working.2⟩
    · exact ⟨hend.calls, hend.code⟩
    · exact Due.alike ⟨last, m₁, hrest, hs, hstop, hn, hgoal⟩ hflush

end
end Machine
end Birl
