import Birl.Proofs.Machine.Block

/-!
# Conditions of the blocks that a frame is in

`conditions` reads off code which blocks are open at its end. `Watched` follows
one frame along a run and notes, for every block that the frame is in, the last
comparison of the frame when it came to the head of the block. The frame skips
code exactly where one of the noted comparisons does not meet the condition of
its block (`Watched.tracked`).
-/

namespace Birl

-- ---------------------------------------------------------------------------
-- Open blocks of code
-- ---------------------------------------------------------------------------

/-- The conditions of the open blocks after an operation, the innermost first. An
end that has no block to end gives none. -/
def Operation.enclose (enclosing : List Requirement) : Operation → Option (List Requirement)
  | executeIf requirement => some (requirement :: enclosing)
  | endIf => enclosing.tail?
  | _ => some enclosing

/-- The conditions of the blocks that are open at the end of code, the innermost
first. -/
def conditions (code : List Operation) : Option (List Requirement) :=
  code.foldlM Operation.enclose []

theorem conditions_append (code more : List Operation) :
    conditions (code ++ more) = (conditions code).bind (more.foldlM Operation.enclose) :=
  List.foldlM_append

theorem Nested.enclose {code : List Operation} (h : Nested code) (enclosing : List Requirement) :
    code.foldlM Operation.enclose enclosing = some enclosing := by
  induction h generalizing enclosing with
  | nil => rfl
  | @plain op rest ho _ ih =>
    have hop : op.enclose enclosing = some enclosing := by
      cases op <;> first | rfl | simp [Operation.boundsBlock] at ho
    simp [hop, ih]
  | @block requirement body rest _ _ ihb ihr =>
    simp [Operation.enclose, ihb, ihr]

theorem Nested.conditions {code : List Operation} (h : Nested code) :
    Birl.conditions code = some [] :=
  h.enclose []

theorem OpenBlocks.conditions {n : Nat} {code : List Operation} (h : OpenBlocks n code) :
    ∃ enclosing, Birl.conditions code = some enclosing ∧ enclosing.length = n := by
  induction h with
  | closed h => exact ⟨[], h.conditions, rfl⟩
  | @block n before body requirement _ h ih =>
    obtain ⟨enclosing, henc, hlen⟩ := ih
    refine ⟨requirement :: enclosing, ?_, by simp [hlen]⟩
    rw [conditions_append, henc]
    simp [Operation.enclose, h.enclose]

/-- Where the blocks of code can be told, those of each of its beginnings can. -/
theorem conditions_take {code : List Operation} {enclosing : List Requirement}
    (h : conditions code = some enclosing) (n : Nat) : ∃ before, conditions (code.take n) = some before := by
  rw [← List.take_append_drop n code, conditions_append] at h
  obtain ⟨before, hbefore, -⟩ := Option.bind_eq_some_iff.mp h
  exact ⟨before, hbefore⟩

-- ---------------------------------------------------------------------------
-- Met conditions
-- ---------------------------------------------------------------------------

/-- A condition and the comparison that a frame had made last when it came to it. -/
structure Guard where
  requirement : Requirement
  last : Comparison

def Guard.held (g : Guard) : Bool := g.requirement.holds g.last

/-- The skip counter of a frame inside blocks with these guards, the innermost
first: the blocks from the outermost one that was not entered on. -/
def skipped : List Guard → Nat
  | [] => 0
  | g :: outer => if 0 < skipped outer then skipped outer + 1 else if g.held then 0 else 1

theorem skipped_of_pos {g : Guard} {outer : List Guard} (h : 0 < skipped outer) :
    skipped (g :: outer) = skipped outer + 1 := by
  simp [skipped, h]

theorem skipped_of_zero {g : Guard} {outer : List Guard} (h : skipped outer = 0) :
    skipped (g :: outer) = if g.held then 0 else 1 := by
  simp [skipped, h]

theorem skipped_eq_zero {guards : List Guard} :
    skipped guards = 0 ↔ ∀ g ∈ guards, g.held = true := by
  induction guards with
  | nil => simp [skipped]
  | cons g outer ih =>
    rw [List.forall_mem_cons, ← ih]
    rcases Nat.eq_zero_or_pos (skipped outer) with hzero | hpos
    · simp [skipped_of_zero hzero, hzero]
    · rw [skipped_of_pos hpos]
      omega

/-- The guards of a frame after an operation that it met or passed over. -/
def noted (last : Comparison) (guards : List Guard) : Operation → List Guard
  | .executeIf requirement => ⟨requirement, last⟩ :: guards
  | .endIf => guards.tail
  | _ => guards

/-- The skip counter of a frame after an operation. -/
def counted (last : Comparison) (skip : Nat) (op : Operation) : Nat :=
  if 0 < skip then Machine.skipAfter skip op
  else
    match op with
    | .executeIf requirement => if requirement.holds last then 0 else 1
    | _ => 0

theorem skipped_noted (last : Comparison) {guards : List Guard} {op : Operation}
    {enclosing : List Requirement}
    (h : op.enclose (guards.map Guard.requirement) = some enclosing) :
    enclosing = (noted last guards op).map Guard.requirement ∧
      counted last (skipped guards) op = skipped (noted last guards op) := by
  cases op with
  | executeIf requirement =>
    cases h
    refine ⟨rfl, ?_⟩
    simp only [counted, noted, skipped, Machine.skipAfter, Guard.held]
    rfl
  | endIf =>
    cases guards with
    | nil => simp [Operation.enclose] at h
    | cons g outer =>
      cases h
      refine ⟨rfl, ?_⟩
      simp only [counted, noted, Machine.skipAfter, List.tail_cons]
      rcases Nat.eq_zero_or_pos (skipped outer) with hzero | hpos
      · rw [skipped_of_zero hzero]
        cases g.held <;> simp [hzero]
      · simp [skipped_of_pos hpos]
  | _ =>
    cases h
    refine ⟨rfl, ?_⟩
    simp only [counted, noted, Machine.skipAfter]
    split
    · rfl
    · omega

/-- Where a frame is after it met or passed over an operation. -/
def Control.passed (c : Control) (last : Comparison) (op : Operation) : Control :=
  { c with pc := c.pc + 1, skip := counted last c.skip op }

namespace Machine

-- ---------------------------------------------------------------------------
-- One frame of the stack
-- ---------------------------------------------------------------------------

def height (m : Machine) : Nat := running m.stack

def next? (p : Program) (m : Machine) : Option Operation :=
  (m.segment? p).bind fun segment => segment.operations[m.current.pc]?

section
variable {above below : List Control} {c c' : Control} {d : Nat}

theorem getElem?_reverse_split (d : Nat) :
    (above ++ c' :: below).reverse[d]? =
      if d = below.length then some c' else (above ++ c :: below).reverse[d]? := by
  by_cases h : d = below.length
  · simp [h]
  · rcases Nat.lt_or_gt_of_ne h with h' | h'
    · simp [List.getElem?_append, h, h']
    · obtain ⟨k, rfl⟩ : ∃ k, d = below.length + (k + 1) := ⟨d - below.length - 1, by omega⟩
      simp [List.getElem?_append]

theorem getElem?_reverse_cons {s : List Control} (hd : d < s.length) :
    (c :: s).reverse[d]? = s.reverse[d]? := by
  simp [List.getElem?_append, hd]

theorem getElem?_reverse_height (m : Machine) :
    m.stack.reverse[m.height]? = some m.current.control := by
  obtain ⟨above, below, hstack, habove, hcur⟩ := m.stack_current
  rw [height, hstack, running_split habove hcur]
  simp

end

section
variable {p : Program} {m m' : Machine} {status : Status} {last : Comparison} {d : Nat} {c : Control}

theorem getElem?_modifyCurrent {g : Frame → Frame} (g' : Control → Control)
    (h : (g m.current).control = g' m.current.control) (hc : m.stack.reverse[d]? = some c) :
    (m.modifyCurrent g).stack.reverse[d]? = some (if d = m.height then g' c else c) := by
  obtain ⟨above, below, hstack, habove, hcur⟩ := m.stack_current
  have hheight : m.height = below.length := by rw [height, hstack, running_split habove hcur]
  rw [stack_modifyCurrent g' h, hstack, modifyRunning_split habove hcur,
    getElem?_reverse_split d, ← hstack, hc, hheight]
  split
  · rename_i hd
    rw [hd, ← hheight, getElem?_reverse_height] at hc
    cases hc
    rfl
  · rfl

theorem counted_zero {op : Operation}
    (h : ∀ requirement, op = .executeIf requirement → requirement.holds last = true) :
    counted last 0 op = 0 := by
  cases op with
  | executeIf requirement => simp [counted, h requirement rfl]
  | _ => rfl

theorem Effect.getElem? {op : Operation} {s' : List Control} (h : Effect p last op m.stack s')
    (hd : d < s'.length) (hc : m.stack.reverse[d]? = some c) (h0 : d = m.height → c.skip = 0) :
    ∃ ready, s'.reverse[d]? =
      some { c with ready, skip := if d = m.height then counted last 0 op else c.skip } := by
  have hlt : d < m.stack.length := by
    simpa using (List.getElem?_eq_some_iff.mp hc).1
  have hskip (hz : counted last 0 op = 0) :
      (if d = m.height then counted last 0 op else c.skip) = c.skip := by
    split
    · rw [hz, h0 ‹_›]
    · rfl
  generalize hs : m.stack = s at h
  cases h with
  | keep _ hr => exact ⟨c.ready, by rw [hskip (counted_zero hr), ← hs, hc]⟩
  | halt => exact ⟨c.ready, by rw [hskip rfl, ← hs, hc]⟩
  | skip hr =>
    refine ⟨c.ready, ?_⟩
    have hmod := getElem?_modifyCurrent (m := m) (g := fun frame => { frame with skip := 1 })
      (fun c => { c with skip := 1 }) rfl hc
    rw [stack_modifyCurrent (fun c => { c with skip := 1 }) rfl] at hmod
    rw [← hs, hmod]
    split <;> simp [counted, hr]
  | push => exact ⟨c.ready, by rw [hskip rfl, getElem?_reverse_cons (hs ▸ hlt), ← hs, hc]⟩
  | @start x rest =>
    rw [hs] at hc
    rcases Nat.lt_succ_iff_lt_or_eq.mp hd with hd | rfl
    · rw [getElem?_reverse_cons hd] at hc
      exact ⟨c.ready, by rw [hskip rfl, getElem?_reverse_cons hd, hc]⟩
    · have hx : x = c := by simpa using hc
      exact ⟨true, by rw [hskip rfl]; simp [hx]⟩
  | leave =>
    rw [hs, getElem?_reverse_cons hd] at hc
    exact ⟨c.ready, by rw [hskip rfl, hc]⟩
  | call =>
    rw [hs, getElem?_reverse_cons hd] at hc
    exact ⟨c.ready, by rw [hskip rfl, hc]⟩

/-- A step moves the current frame past its operation and no other frame. -/
theorem step_getElem? (h : step p m = (m', .ok status)) (hd : d < m'.depth)
    (hc : m.stack.reverse[d]? = some c) :
    ∃ ready, m'.stack.reverse[d]? = some { (if d = m.height then
      (m.next? p).elim c (c.passed m.current.comparison) else c) with ready } := by
  rw [← length_stack] at hd
  cases stepped_of_step h with
  | ended hs hi =>
    have hnext : m.next? p = none := by simpa [next?, hs, Segment.operations] using hi
    exact ⟨c.ready, by simp [hnext, hc]⟩
  | returned hs hi hcalls hl =>
    have hnext : m.next? p = none := by simpa [next?, hs, Segment.operations] using hi
    obtain ⟨x, rest, hstack, -, -, hrest⟩ := stack_leave (m := { m with b := .null }) hcalls hl
    rw [hrest] at hd ⊢
    rw [show m.stack = x :: rest from hstack, getElem?_reverse_cons hd] at hc
    exact ⟨c.ready, by simp [hnext, hc]⟩
  | @skipped segment instruction hs hi hk =>
    have hnext : m.next? p = some instruction.op := by simp [next?, hs, Segment.operations, hi]
    have hmod := getElem?_modifyCurrent (m := m) (g := fun frame =>
      { frame with pc := frame.pc + 1, skip := skipAfter frame.skip instruction.op })
      (fun c => { c with pc := c.pc + 1, skip := skipAfter c.skip instruction.op }) rfl hc
    refine ⟨c.ready, ?_⟩
    rw [hmod, hnext]
    split
    · rename_i hheight
      rw [hheight, getElem?_reverse_height] at hc
      cases hc
      have hk' : 0 < m.current.control.skip := hk
      simp [Control.passed, counted, hk']
    · rfl
  | @executed segment instruction _ _ hs hi hk he =>
    have hnext : m.next? p = some instruction.op := by simp [next?, hs, Segment.operations, hi]
    have heffect := execute_effect he
    rw [current_advance] at heffect
    have hadv := getElem?_modifyCurrent (m := m) (g := fun frame => { frame with pc := frame.pc + 1 })
      (fun c => { c with pc := c.pc + 1 }) rfl hc
    have hheight : m.advance.height = m.height := by
      obtain ⟨above, below, hstack, habove, hcur⟩ := m.stack_current
      rw [height, height, stack_advance, hstack, modifyRunning_split habove hcur,
        running_split habove hcur]
      exact running_split habove hcur
    have hzero (hd : d = m.height) : c.skip = 0 := by
      rw [hd, getElem?_reverse_height] at hc
      cases hc
      exact hk
    obtain ⟨ready, hready⟩ := heffect.getElem? hd hadv fun hd' => by
      rw [if_pos (hd'.trans hheight)]
      exact hzero (hd'.trans hheight)
    refine ⟨ready, ?_⟩
    rw [hready, hheight, hnext]
    split
    · rename_i hd'
      simp [Control.passed, hzero hd']
    · rfl

end

-- ---------------------------------------------------------------------------
-- Following a frame
-- ---------------------------------------------------------------------------

/-- A run from the program `p₀` and the machine `m₀` on that the frame with `d`
frames under it survives. On the way code may be added, and the host may change
whatever does not move a frame. The guards are those of the blocks that the frame
has come to and not left since. -/
inductive Watched (d : Nat) (p₀ : Program) (m₀ : Machine) :
    Program → Machine → List Guard → Prop
  | here : Watched d p₀ m₀ p₀ m₀ []
  | grown {p p' : Program} {m : Machine} {guards : List Guard} (h : Watched d p₀ m₀ p m guards)
      (hp : p.Extends p') : Watched d p₀ m₀ p' m guards
  | kept {p : Program} {m m' : Machine} {guards : List Guard} (h : Watched d p₀ m₀ p m guards)
      (hs : m'.stack = m.stack) : Watched d p₀ m₀ p m' guards
  | step {p : Program} {m m' : Machine} {status : Status} {guards : List Guard}
      (h : Watched d p₀ m₀ p m guards) (hs : step p m = (m', .ok status)) (hd : d < m'.depth) :
      Watched d p₀ m₀ p m' (if d = m.height then
        (m.next? p).elim guards (noted m.current.comparison guards) else guards)

def code? (p : Program) : FrameOwner → Option Segment
  | .code id => p.segment? id
  | .plugin => none

theorem segment?_eq_code? (p : Program) (m : Machine) : m.segment? p = code? p m.current.owner := by
  unfold segment? code?
  split <;> simp_all

/-- The guards account for the skip counter of a frame, as far as the code that it
came through since it was at `c₀` is nested. -/
structure Tracked (p : Program) (c₀ c : Control) (segment : Segment) (guards : List Guard) :
    Prop where
  owner : c.owner = c₀.owner
  code : code? p c₀.owner = some segment
  from_le : c₀.pc ≤ c.pc
  le_length : c.pc ≤ segment.operations.length
  guards : ∀ enclosing, conditions ((segment.operations.take c.pc).drop c₀.pc) = some enclosing →
    enclosing = guards.map Guard.requirement ∧ c.skip = skipped guards

section
variable {p p' : Program} {m m' : Machine} {status : Status} {c₀ c : Control} {segment : Segment}
  {guards : List Guard}

theorem Tracked.grown (h : Tracked p c₀ c segment guards) (hp : p.Extends p') :
    ∃ segment', Tracked p' c₀ c segment' guards := by
  obtain ⟨id, hid⟩ : ∃ id, c₀.owner = .code id := by
    cases howner : c₀.owner with
    | code id => exact ⟨id, rfl⟩
    | plugin => simpa [howner, code?] using h.code
  have hcode := h.code
  rw [hid] at hcode
  obtain ⟨more, hmore⟩ := hp id segment hcode
  have hle := h.le_length
  refine ⟨_, h.owner, by rw [hid]; exact hmore, h.from_le, ?_, fun enclosing henc => ?_⟩
  · rw [Segment.operations_append, List.length_append]
    omega
  · rw [Segment.operations_append, List.take_append_of_le_length hle] at henc
    exact h.guards enclosing henc

theorem Tracked.passed {op : Operation} {last : Comparison} (h : Tracked p c₀ c segment guards)
    (hop : segment.operations[c.pc]? = some op) (ready : Bool) :
    Tracked p c₀ { c.passed last op with ready } segment (noted last guards op) := by
  have hlt : c.pc < segment.operations.length := (List.getElem?_eq_some_iff.mp hop).1
  refine ⟨h.owner, h.code, Nat.le_succ_of_le h.from_le, hlt, fun enclosing henc => ?_⟩
  have hfrom : c₀.pc ≤ (segment.operations.take c.pc).length := by
    rw [List.length_take]
    exact Nat.le_min.mpr ⟨h.from_le, Nat.le_trans h.from_le h.le_length⟩
  simp only [Control.passed, List.take_add_one, hop, Option.toList_some] at henc
  rw [List.drop_append_of_le_length hfrom, conditions_append] at henc
  obtain ⟨before, hbefore, hop'⟩ := Option.bind_eq_some_iff.mp henc
  obtain ⟨rfl, hskip⟩ := h.guards before hbefore
  have hop' : op.enclose (guards.map Guard.requirement) = some enclosing := by simpa using hop'
  obtain ⟨henc, hcount⟩ := skipped_noted last hop'
  exact ⟨henc, by rw [← hcount, ← hskip]; rfl⟩

theorem Tracked.step {d : Nat} (h : Tracked p c₀ c segment guards)
    (hs : step p m = (m', .ok status)) (hd : d < m'.depth) (hc : m.stack.reverse[d]? = some c) :
    ∃ c', m'.stack.reverse[d]? = some c' ∧ Tracked p c₀ c' segment (if d = m.height then
      (m.next? p).elim guards (noted m.current.comparison guards) else guards) := by
  obtain ⟨ready, hready⟩ := step_getElem? hs hd hc
  refine ⟨_, hready, ?_⟩
  have hsame : Tracked p c₀ { c with ready } segment guards :=
    ⟨h.owner, h.code, h.from_le, h.le_length, h.guards⟩
  by_cases hheight : d = m.height
  · simp only [hheight, if_true]
    cases hnext : m.next? p with
    | none => exact hsame
    | some op =>
      refine h.passed ?_ ready
      rw [hheight, getElem?_reverse_height] at hc
      cases hc
      have hsegment : m.segment? p = some segment := by
        rw [segment?_eq_code?, ← h.code, ← h.owner]
        rfl
      simpa [next?, hsegment, Frame.control] using hnext
  · simp only [hheight, if_false]
    exact hsame

/-- The guards of a frame account for its skip counter along every run. -/
theorem Watched.tracked {d : Nat} {p₀ : Program} {m₀ : Machine} {segment₀ : Segment}
    (h : Watched d p₀ m₀ p m guards) (hc : m₀.stack.reverse[d]? = some c₀)
    (hcode : code? p₀ c₀.owner = some segment₀) (hpc : c₀.pc ≤ segment₀.operations.length)
    (hskip : c₀.skip = 0) :
    ∃ c segment, m.stack.reverse[d]? = some c ∧ Tracked p c₀ c segment guards := by
  induction h with
  | here =>
    refine ⟨c₀, segment₀, hc, rfl, hcode, Nat.le_refl _, hpc, fun enclosing henc => ?_⟩
    rw [List.drop_of_length_le (List.length_take_le _ _)] at henc
    cases henc
    exact ⟨rfl, hskip⟩
  | grown _ hp ih =>
    obtain ⟨c, segment, hc, htracked⟩ := ih
    obtain ⟨segment', htracked'⟩ := htracked.grown hp
    exact ⟨c, segment', hc, htracked'⟩
  | kept _ hs ih =>
    obtain ⟨c, segment, hc, htracked⟩ := ih
    exact ⟨c, segment, by rw [hs, hc], htracked⟩
  | step _ hs hd ih =>
    obtain ⟨c, segment, hc, htracked⟩ := ih
    obtain ⟨c', hc', htracked'⟩ := htracked.step hs hd hc
    exact ⟨c', segment, hc', htracked'⟩

end
end Machine
end Birl
