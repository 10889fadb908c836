import Birl.Proofs.Machine.Control
import Birl.Proofs.Machine.Flow
import Birl.Proofs.Program

/-!
# Where frames stand

Where a program flows, every frame that waits for a call stands where nothing needs
to be known, and above the current frame there is only the frame that it is known to
build. Every step that succeeds leaves the frames so (`Placed.step`), whatever the
registers hold. At the end of its code a frame builds nothing.
-/

namespace Birl

-- ---------------------------------------------------------------------------
-- Programs that flow
-- ---------------------------------------------------------------------------

/-- What is known at a place of the code. -/
def Segment.flowAt (s : Segment) (pc : Nat) : Option Flow := Flow.after? {} (s.operations.take pc)

/-- All code passes and leaves no frame under construction. -/
def Program.Flows (p : Program) : Prop :=
  ∀ id s, p.segment? id = some s → ∃ σ, Flow.after? {} s.operations = some σ ∧ σ.building = none

theorem Segment.flowAt_add_one {s : Segment} {pc : Nat} {op : Operation} {σ : Flow}
    (h : s.operations[pc]? = some op) (hσ : s.flowAt pc = some σ) :
    s.flowAt (pc + 1) = σ.next? op := by
  have hσ : Flow.after? {} (s.operations.take pc) = some σ := hσ
  rw [flowAt, List.take_add_one, h, Flow.after?_append, hσ]
  simp

theorem Segment.flowAt_isSome {s : Segment} {σ : Flow} (h : Flow.after? {} s.operations = some σ)
    (pc : Nat) : ∃ σ', s.flowAt pc = some σ' := by
  rw [← List.take_append_drop pc s.operations, Flow.after?_append] at h
  obtain ⟨σ', hσ', -⟩ := Option.bind_eq_some_iff.mp h
  exact ⟨σ', hσ'⟩

theorem Segment.flowAt_append {s : Segment} {pc : Nat} (h : pc ≤ s.operations.length)
    (more : List Instruction) :
    ({ s with code := s.code ++ more } : Segment).flowAt pc = s.flowAt pc := by
  rw [flowAt, operations_append, List.take_append_of_le_length h, flowAt]

-- ---------------------------------------------------------------------------
-- Frames
-- ---------------------------------------------------------------------------

/-- The frame can run, and stands where `σ` is known. -/
structure Control.Knows (p : Program) (σ : Flow) (c : Control) : Prop where
  ready : c.ready = true
  code : ∃ id s, c.owner = .code id ∧ p.segment? id = some s ∧ c.pc ≤ s.operations.length ∧
    s.flowAt c.pc = some σ

/-- The frame waits for a call to return. -/
def Control.Waits (p : Program) (c : Control) : Prop := c.Knows p {} ∧ c.skip = 0

/-- The frames above the current one, where it is known which one is being built. -/
def Builds (p : Program) : Option FrameOwner → List Control → Prop
  | none, above => above = []
  | some owner, above => above = [⟨owner, 0, false, 0⟩] ∧
      (owner = .plugin ∨ ∃ id s, owner = .code id ∧ p.segment? id = some s)

section
variable {p p' : Program} {σ σ' : Flow} {c : Control}

theorem Control.Knows.extend (h : c.Knows p σ) (hp : p.Extends p') : c.Knows p' σ := by
  obtain ⟨id, s, ho, hs, hpc, hσ⟩ := h.code
  obtain ⟨more, hs'⟩ := hp id s hs
  refine ⟨h.ready, id, _, ho, hs', ?_, ?_⟩
  · rw [Segment.operations_append, List.length_append]
    omega
  · rw [Segment.flowAt_append hpc, hσ]

theorem Control.Waits.extend (h : c.Waits p) (hp : p.Extends p') : c.Waits p' :=
  ⟨h.1.extend hp, h.2⟩

theorem Builds.extend {building : Option FrameOwner} {above : List Control}
    (h : Builds p building above) (hp : p.Extends p') : Builds p' building above := by
  cases building with
  | none => exact h
  | some owner =>
    refine ⟨h.1, h.2.imp_right ?_⟩
    rintro ⟨id, s, ho, hs⟩
    obtain ⟨more, hs'⟩ := hp id s hs
    exact ⟨id, _, ho, hs'⟩

theorem Control.Knows.next (h : c.Knows p σ) {id : Nat} {s : Segment} {op : Operation}
    (ho : c.owner = .code id) (hs : p.segment? id = some s) (hop : s.operations[c.pc]? = some op)
    (hσ : σ.next? op = some σ') (skip : Nat) :
    Control.Knows p σ' { c with pc := c.pc + 1, skip } := by
  obtain ⟨id', s', ho', hs', -, hσ'⟩ := h.code
  obtain rfl : id' = id := FrameOwner.code.inj (ho'.symm.trans ho)
  obtain rfl : s' = s := Option.some.inj (hs'.symm.trans hs)
  refine ⟨h.ready, id', s', ho, hs, ?_, ?_⟩
  · exact (List.getElem?_eq_some_iff.mp hop).1
  · show s'.flowAt (c.pc + 1) = _
    rw [Segment.flowAt_add_one hop hσ', hσ]

end

namespace Machine

/-- How the frames stand: those being built, the current one, and those that wait. -/
structure Placed (p : Program) (m : Machine) (σ : Flow) (above : List Control) (c : Control)
    (below : List Control) : Prop where
  stack : m.stack = above ++ c :: below
  knows : c.Knows p σ
  waits : ∀ x ∈ below, x.Waits p
  builds : c.skip = 0 → Builds p σ.building above
  skipping : 0 < c.skip → above = []

section
variable {p p' : Program} {m m' : Machine} {σ σ' : Flow} {above below : List Control} {c : Control}

theorem Placed.extend (h : Placed p m σ above c below) (hp : p.Extends p') :
    Placed p' m σ above c below :=
  ⟨h.stack, h.knows.extend hp, fun x hx => (h.waits x hx).extend hp,
    fun hk => (h.builds hk).extend hp, h.skipping⟩

theorem Placed.of_stack (h : Placed p m σ above c below) (hs : m'.stack = m.stack) :
    Placed p m' σ above c below :=
  ⟨hs.trans h.stack, h.knows, h.waits, h.builds, h.skipping⟩

theorem Placed.above_unready (h : Placed p m σ above c below) : ∀ x ∈ above, x.ready = false := by
  intro x hx
  by_cases hk : c.skip = 0
  · have hb := h.builds hk
    cases hbuild : σ.building with
    | none =>
      rw [hbuild] at hb
      cases (show above = [] from hb)
      cases hx
    | some owner =>
      rw [hbuild] at hb
      rw [hb.1] at hx
      cases List.mem_singleton.mp hx
      rfl
  · cases h.skipping (Nat.pos_of_ne_zero hk)
    cases hx

theorem Placed.current (h : Placed p m σ above c below) : m.current.control = c := by
  obtain ⟨above', below', hstack, habove, hcur⟩ := m.stack_current
  exact (split_unique (hstack ▸ h.stack) habove hcur h.above_unready (.inl h.knows.ready)).2.1

theorem Placed.modifyRunning (h : Placed p m σ above c below) (g : Control → Control) :
    Machine.modifyRunning g m.stack = above ++ g c :: below := by
  rw [h.stack, modifyRunning_split h.above_unready (.inl h.knows.ready)]

theorem Placed.segment (h : Placed p m σ above c below) :
    ∃ id s, c.owner = .code id ∧ p.segment? id = some s ∧ m.segment? p = some s := by
  obtain ⟨id, s, ho, hs, -, -⟩ := h.knows.code
  refine ⟨id, s, ho, hs, ?_⟩
  have howner : m.current.owner = .code id := by
    rw [← ho, ← h.current]
    rfl
  simp [segment?, howner, hs]

theorem building_of_stack (h : m.stack = above ++ c :: below) (hr : c.ready = true)
    {building : Option FrameOwner} (hb : Builds p building above) : m.building = building := by
  have hstack : m.calls.map Frame.control ++ [m.global.control] = above ++ c :: below := by
    rw [← h]
    simp [Machine.stack, frames]
  cases building with
  | none =>
    cases (show above = [] from hb)
    cases hc : m.calls with
    | nil => simp [Machine.building, hc]
    | cons frame rest =>
      rw [hc] at hstack
      have hframe : frame.control = c := (List.cons.inj hstack).1
      have hready : frame.ready = true := (congrArg Control.ready hframe).trans hr
      simp [Machine.building, hc, hready]
  | some owner =>
    rw [hb.1] at hstack
    cases hc : m.calls with
    | nil =>
      rw [hc] at hstack
      cases (List.cons.inj hstack).2
    | cons frame rest =>
      rw [hc] at hstack
      have hframe : frame.control = ⟨owner, 0, false, 0⟩ := (List.cons.inj hstack).1
      have hready : frame.ready = false := congrArg Control.ready hframe
      have howner : frame.owner = owner := congrArg Control.owner hframe
      simp [Machine.building, hc, hready, howner]

-- ---------------------------------------------------------------------------
-- One step
-- ---------------------------------------------------------------------------

theorem next?_building {op : Operation} (hm : op.moves = false) (h : σ.next? op = some σ') :
    σ'.building = σ.building := by
  cases op <;> grind [Flow.next?, Operation.moves]

theorem Placed.next (h : Placed p m σ above c below) (hp : p.Flows) {s : Segment}
    {instruction : Instruction} (hs : m.segment? p = some s)
    (hi : s.code[m.current.pc]? = some instruction) :
    ∃ σ', σ.next? instruction.op = some σ' ∧
      ∀ skip, Control.Knows p σ' { c with pc := c.pc + 1, skip } := by
  obtain ⟨id, s', ho, hid, hs'⟩ := h.segment
  obtain rfl : s' = s := Option.some.inj (hs'.symm.trans hs)
  have hpc : m.current.pc = c.pc := congrArg Control.pc h.current
  have hop : s'.operations[c.pc]? = some instruction.op := by
    rw [← hpc]
    exact s'.operations_getElem?.mpr ⟨instruction, hi, rfl⟩
  obtain ⟨σe, hσe, -⟩ := hp id s' hid
  obtain ⟨id', s, ho', hid', -, hσ⟩ := h.knows.code
  obtain rfl : id' = id := FrameOwner.code.inj (ho'.symm.trans ho)
  obtain rfl : s = s' := Option.some.inj (hid'.symm.trans hid)
  obtain ⟨σ', hσ'⟩ := Segment.flowAt_isSome hσe (c.pc + 1)
  rw [Segment.flowAt_add_one hop hσ] at hσ'
  exact ⟨σ', hσ', fun skip => h.knows.next ho hid hop hσ' skip⟩

theorem Placed.above_nil (h : Placed p m σ above c below) (hp : p.Flows) {s : Segment}
    (hs : m.segment? p = some s) (hi : s.code[m.current.pc]? = none) : above = [] := by
  by_cases hk : c.skip = 0
  · obtain ⟨id, s', ho, hid, hs'⟩ := h.segment
    obtain rfl : s' = s := Option.some.inj (hs'.symm.trans hs)
    obtain ⟨id', s, ho', hid', hpc, hσ⟩ := h.knows.code
    obtain rfl : id' = id := FrameOwner.code.inj (ho'.symm.trans ho)
    obtain rfl : s = s' := Option.some.inj (hid'.symm.trans hid)
    have hcur : m.current.pc = c.pc := congrArg Control.pc h.current
    have hle : s.operations.length ≤ c.pc := by
      rw [s.length_operations, ← hcur]
      simpa using hi
    obtain ⟨σe, hσe, hend⟩ := hp id' s hid
    rw [Segment.flowAt, List.take_of_length_le hle, hσe] at hσ
    cases hσ
    have hbuilds := h.builds hk
    rw [hend] at hbuilds
    exact hbuilds
  · exact h.skipping (Nat.pos_of_ne_zero hk)

/-- The current frame leaves its function: the one under it goes on. -/
theorem Placed.leave (h : Placed p m σ [] c below) (hs : m'.stack = below) (hne : below ≠ []) :
    ∃ c' below', Placed p m' {} [] c' below' := by
  obtain ⟨c', below', rfl⟩ := List.exists_cons_of_ne_nil hne
  obtain ⟨hknows, hskip⟩ := h.waits c' List.mem_cons_self
  exact ⟨c', below', hs, hknows, fun x hx => h.waits x (List.mem_cons_of_mem _ hx), fun _ => rfl,
    fun _ => rfl⟩

theorem Placed.skipped (h : Placed p m σ above c below) (hk : 0 < c.skip) {op : Operation}
    (hσ : σ.next? op = some σ')
    (hknows : ∀ skip, Control.Knows p σ' { c with pc := c.pc + 1, skip })
    (hs : m'.stack = above ++ { c with pc := c.pc + 1, skip := skipAfter c.skip op } :: below) :
    Placed p m' σ' above { c with pc := c.pc + 1, skip := skipAfter c.skip op } below ∧
      (skipAfter c.skip op = 0 → σ' = {}) := by
  have hempty : skipAfter c.skip op = 0 → σ' = {} := by
    intro hzero
    cases op with
    | endIf =>
      cases (Option.ite_none_right_eq_some.mp hσ).2
      rfl
    | executeIf requirement => cases hzero
    | _ =>
      have hzero : c.skip = 0 := hzero
      omega
  refine ⟨⟨hs, hknows _, h.waits, fun hzero => ?_, fun _ => h.skipping hk⟩, hempty⟩
  rw [hempty hzero]
  exact h.skipping hk

theorem Placed.executed (h : Placed p m σ above c below) (hk : c.skip = 0) {op : Operation}
    {c₁ : Control} (hc₁ : c₁ = { c with pc := c.pc + 1, skip := 0 }) (hknows : c₁.Knows p σ')
    (hσ : σ.next? op = some σ') {last : Comparison}
    (he : Effect p last op (above ++ c₁ :: below) m'.stack) :
    ∃ σ₂ above' c' below', Placed p m' σ₂ above' c' below' ∧ (σ₂ = {} ∨ σ₂ = σ') := by
  have hbuilds := h.builds hk
  have hready₁ := hknows.ready
  have hskip₁ : c₁.skip = 0 := by rw [hc₁]
  generalize hs : above ++ c₁ :: below = s at he
  generalize hs' : m'.stack = s' at he
  cases he with
  | keep hm hr =>
    refine ⟨σ', above, c₁, below, ⟨hs'.trans hs.symm, hknows, h.waits, fun _ => ?_, ?_⟩, .inr rfl⟩
    · rw [next?_building hm hσ]
      exact hbuilds
    · intro hpos
      omega
  | skip hr =>
    obtain ⟨hnone, he⟩ := Option.ite_none_right_eq_some.mp hσ
    rw [hnone] at hbuilds
    cases (show above = [] from hbuilds)
    have hstack : m'.stack = { c₁ with skip := 1 } :: below := by
      rw [hs', ← hs]
      exact modifyRunning_split nofun (.inl hready₁)
    exact ⟨σ', [], _, below, ⟨hstack, ⟨hready₁, hknows.code⟩, h.waits, nofun, fun _ => rfl⟩, .inr rfl⟩
  | @push code owner _ hd ho =>
    obtain ⟨hnone, he⟩ := Option.ite_none_right_eq_some.mp hσ
    cases he
    rw [hnone] at hbuilds
    cases (show above = [] from hbuilds)
    have hstack : m'.stack = [⟨owner, 0, false, 0⟩] ++ c₁ :: below := by
      rw [hs', ← hs]
      rfl
    refine ⟨_, _, c₁, below, ⟨hstack, hknows, h.waits, fun _ => ?_, fun hpos => by omega⟩, .inr rfl⟩
    rcases ho with ⟨rfl, rfl⟩ | ⟨hcode, rfl⟩
    · exact ⟨rfl, .inl rfl⟩
    · have hcode' : 0 ≤ code := by
        simp only [Program.hasCode, Bool.and_eq_true, decide_eq_true_eq] at hcode
        exact hcode.1
      obtain ⟨id, rfl⟩ := Int.eq_ofNat_of_zero_le hcode'
      obtain ⟨segment, hsegment⟩ := (p.hasCode_iff id).mp hcode
      exact ⟨rfl, .inr ⟨id, segment, rfl, hsegment⟩⟩
  | @start x rest hr ho hne =>
    obtain ⟨hbuild, he⟩ := Option.ite_none_right_eq_some.mp hσ
    obtain ⟨owner, howner⟩ := Option.isSome_iff_exists.mp (Bool.and_eq_true_iff.mp hbuild).1
    rw [howner] at hbuilds
    obtain ⟨rfl, hcode⟩ := hbuilds
    obtain ⟨rfl, rfl⟩ := List.cons.inj hs
    obtain ⟨id, segment, rfl, hsegment⟩ := hcode.resolve_left ho
    cases he
    refine ⟨{}, [], _, c₁ :: below, ⟨hs', ⟨rfl, id, segment, rfl, hsegment, Nat.zero_le _, rfl⟩,
      fun y hy => ?_, fun _ => rfl, fun _ => rfl⟩, .inl rfl⟩
    rcases List.mem_cons.mp hy with rfl | hy
    · exact ⟨hknows, hskip₁⟩
    · exact h.waits y hy
  | @leave x rest hr hne =>
    obtain ⟨hbuild, -⟩ := Option.ite_none_right_eq_some.mp hσ
    rw [show σ.building = none by simpa using (Bool.and_eq_true_iff.mp hbuild).2] at hbuilds
    cases (show above = [] from hbuilds)
    obtain ⟨rfl, rfl⟩ := List.cons.inj hs
    obtain ⟨c', below', hplaced⟩ := h.leave hs' hne
    exact ⟨{}, [], c', below', hplaced, .inl rfl⟩
  | halt x =>
    obtain ⟨hbuild, he⟩ := Option.ite_none_right_eq_some.mp hσ
    rw [show σ.building = none by simpa using (Bool.and_eq_true_iff.mp hbuild).2] at hbuilds
    cases (show above = [] from hbuilds)
    cases he
    exact ⟨{}, [], c₁, below,
      ⟨hs'.trans hs.symm, hknows, h.waits, fun _ => rfl, fun _ => rfl⟩, .inl rfl⟩
  | @call index x rest hr ho hne =>
    obtain ⟨hbuild, he⟩ := Option.ite_none_right_eq_some.mp hσ
    cases he
    rw [hbuild] at hbuilds
    obtain ⟨rfl, -⟩ := hbuilds
    obtain ⟨-, rfl⟩ := List.cons.inj hs
    exact ⟨{}, [], c₁, below, ⟨hs', hknows, h.waits, fun _ => rfl, fun _ => rfl⟩, .inl rfl⟩

/-- A step that succeeds leaves the frames in place. What is known after it is nothing,
or what was known before, or comes from the operation that it executed. -/
theorem Placed.step (h : Placed p m σ above c below) (hp : p.Flows) {status : Status}
    (hs : step p m = (m', .ok status)) :
    ∃ σ' above' c' below', Placed p m' σ' above' c' below' ∧
      (c'.skip = 0 → σ' = {} ∨ (m' = m ∧ σ' = σ ∧ c' = c) ∨
        ∃ s instruction, m.segment? p = some s ∧ s.code[m.current.pc]? = some instruction ∧
          c.skip = 0 ∧ σ.next? instruction.op = some σ' ∧
          execute p m.advance instruction.op = (m', .ok status)) := by
  have hcur := h.current
  cases stepped_of_step hs with
  | ended => exact ⟨σ, above, c, below, h, fun _ => .inr (.inl ⟨rfl, rfl, rfl⟩)⟩
  | returned hseg hi hc hl =>
    cases h.above_nil hp hseg hi
    obtain ⟨x, rest, hstack, hne, -, hrest⟩ := stack_leave (m := { m with b := .null }) hc hl
    obtain rfl : rest = below := (List.cons.inj (hstack.symm.trans h.stack)).2
    obtain ⟨c', below', hplaced⟩ := h.leave hrest hne
    exact ⟨{}, [], c', below', hplaced, fun _ => .inl rfl⟩
  | @skipped segment instruction hseg hi hk =>
    obtain ⟨σ', hσ, hknows⟩ := h.next hp hseg hi
    have hstack := stack_modifyCurrent (m := m) (g := fun frame =>
      { frame with pc := frame.pc + 1, skip := skipAfter frame.skip instruction.op })
      (fun c => { c with pc := c.pc + 1, skip := skipAfter c.skip instruction.op }) rfl
    rw [h.modifyRunning] at hstack
    have hk : 0 < c.skip := by
      rw [← hcur]
      exact hk
    obtain ⟨hplaced, hempty⟩ := h.skipped hk hσ hknows hstack
    exact ⟨σ', above, _, below, hplaced, fun hzero => .inl (hempty hzero)⟩
  | @executed segment instruction _ _ hseg hi hk he =>
    have hk : c.skip = 0 := (congrArg Control.skip hcur).symm.trans hk
    obtain ⟨σ', hσ, hknows⟩ := h.next hp hseg hi
    have heffect := execute_effect he
    rw [stack_advance, h.modifyRunning] at heffect
    obtain ⟨σ₂, above', c', below', hplaced, hempty | rfl⟩ :=
      h.executed hk (by rw [hk]) (hknows c.skip) hσ heffect
    · exact ⟨σ₂, above', c', below', hplaced, fun _ => .inl hempty⟩
    · exact ⟨σ₂, above', c', below', hplaced,
        fun _ => .inr (.inr ⟨segment, instruction, hseg, hi, hk, hσ, he⟩)⟩

end
end Machine
end Birl
