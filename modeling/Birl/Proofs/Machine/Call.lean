import Birl.Proofs.Machine.Control
import Birl.Proofs.Machine.Registers

/-!
# What a call leaves alone

From the start of a function to its return the frames under it stay as they are,
whatever it does and however deep it calls: every step works on the frames above them,
on the registers and on the slots of the global frame (`step_covers`). The step that
takes the function off the stack stores its result in slot 0 of the frame that waits for
it, and does nothing else to the frames (`Inside.returns`).
-/

namespace Birl

namespace Frame

theorem store_same {f f' : Frame} {a : Nat} {v : Value} {outer : TextStore}
    (h : f.store a v outer = .ok f') : f' = { f with slots := f'.slots, texts := f'.texts } := by
  unfold store at h
  split at h
  · split at h
    · cases h
      unfold storeText
      simp only
      split
      · split <;> rfl
      · rfl
    · cases h
  · cases h
    rfl

def place (f : Frame) : Control × Comparison := (f.control, f.comparison)

theorem place_store {f f' : Frame} {a : Nat} {v : Value} {outer : TextStore}
    (h : f.store a v outer = .ok f') : f'.place = f.place := by
  rw [store_same h]
  rfl

end Frame

namespace Machine

/-- On the frames of `base` there lies one that can run, perhaps with more on top. -/
def Covers (base : List Frame) (m : Machine) : Prop :=
  ∃ above callee, m.calls = above ++ callee :: base ∧ callee.ready = true

/-- A frame still lies on `base`, and the global frame is where it was. -/
structure Stays (base : List Frame) (m m' : Machine) : Prop where
  covers : Covers base m'
  global : m'.global.place = m.global.place

/-- The frame on `base` is gone, and register `b` is in slot 0 of the frame that runs
then. -/
def Pops (base : List Frame) (m m' : Machine) : Prop :=
  ∃ caller, ({ m with calls := base } : Machine).current.store 0 m.b m.texts = .ok caller ∧
    m' = ({ m with calls := base } : Machine).modifyCurrent fun _ => caller

/-- The step takes the one frame on `base` away: it executes a return, or its code is at
its end and it returns Null. -/
inductive Returns (p : Program) (base : List Frame) (m m' : Machine) : Prop
  | value {segment : Segment} {instruction : Instruction} (hs : m.segment? p = some segment)
      (hi : segment.code[m.current.pc]? = some instruction) (ho : instruction.op = .returnValue)
      (h : Pops base m m')
  | ended {segment : Segment} (hs : m.segment? p = some segment)
      (hi : segment.code[m.current.pc]? = none) (h : Pops base { m with b := .null } m')

section
variable {p : Program} {m m' : Machine} {base : List Frame} {status : Status} {op : Operation}

-- ---------------------------------------------------------------------------
-- One step
-- ---------------------------------------------------------------------------

theorem Covers.modifyCurrent (h : Covers base m) {g : Frame → Frame}
    (hg : (g m.current).ready = m.current.ready) :
    ∃ calls, m.modifyCurrent g = { m with calls } ∧ Covers base (m.modifyCurrent g) := by
  obtain ⟨above, callee, hcalls, hready⟩ := h
  rcases m.current_cases with ⟨above', f, below, hcalls', habove', hf, hcur, hmod⟩ | ⟨hcalls', -, -⟩
  · rw [hcur] at hg
    refine ⟨above' ++ g f :: below, hmod g, ?_⟩
    rw [hmod g]
    rw [hcalls'] at hcalls
    rcases List.append_eq_append_iff.mp hcalls with ⟨mid, rfl, hmid⟩ | ⟨mid, rfl, hmid⟩
    · cases mid with
      | nil =>
        obtain ⟨rfl, rfl⟩ := List.cons.inj hmid
        exact ⟨above', g f, rfl, hg.trans hf⟩
      | cons x mid =>
        obtain ⟨rfl, rfl⟩ := List.cons.inj hmid
        exact ⟨above' ++ g f :: mid, callee, by simp, hready⟩
    · cases mid with
      | nil =>
        obtain ⟨rfl, rfl⟩ := List.cons.inj hmid
        exact ⟨above, g callee, by simp, hg.trans hf⟩
      | cons x mid =>
        obtain ⟨rfl, rfl⟩ := List.cons.inj hmid
        have := habove' callee (by simp)
        rw [hready] at this
        cases this
  · have := hcalls' callee (by simp [hcalls])
    rw [hready] at this
    cases this

theorem Covers.stays_modifyCurrent (h : Covers base m) {g : Frame → Frame}
    (hg : (g m.current).ready = m.current.ready) : Stays base m (m.modifyCurrent g) := by
  obtain ⟨calls, heq, hcovers⟩ := h.modifyCurrent hg
  exact ⟨hcovers, by rw [heq]⟩

theorem Covers.stays (h : Covers base m) (hc : m'.calls = m.calls)
    (hg : m'.global.place = m.global.place) : Stays base m m' := by
  obtain ⟨above, callee, hcalls, hready⟩ := h
  exact ⟨⟨above, callee, hc.trans hcalls, hready⟩, hg⟩

theorem Covers.stays_store {calls : List Frame} {texts : TextStore} {v : Value} {a : Nat}
    {caller : Frame} (h : Covers base { m with calls, texts })
    (hs : ({ m with calls, texts } : Machine).current.store a v texts = .ok caller) :
    Stays base m (({ m with calls, texts } : Machine).modifyCurrent fun _ => caller) := by
  have hready := congrArg Control.ready (Frame.control_store hs)
  exact ⟨(h.stays_modifyCurrent hready).covers, (h.stays_modifyCurrent hready).global⟩

theorem Covers.leave (h : Covers base m) (hl : m.leave = (m', .ok ())) :
    Stays base m m' ∨ Pops base m m' := by
  obtain ⟨above, callee, hcalls, hready⟩ := h
  unfold Machine.leave at hl
  cases above with
  | nil =>
    simp only [hcalls, List.nil_append, hready, if_true] at hl
    split at hl
    · rename_i caller hstore
      cases hl
      exact .inr ⟨caller, hstore, rfl⟩
    · cases hl
  | cons frame above =>
    simp only [hcalls, List.cons_append] at hl
    split at hl
    · split at hl
      · rename_i caller hstore
        cases hl
        have hrest : Covers base { m with calls := above ++ callee :: base, texts := m.texts } :=
          ⟨above, callee, rfl, hready⟩
        exact .inl (hrest.stays_store hstore)
      · cases hl
    · cases hl

theorem Covers.callPlugin (h : Covers base m) {index : Int}
    (he : m.callPlugin index = (m', .ok status)) : Stays base m m' := by
  obtain ⟨above, callee, hcalls, hready⟩ := h
  unfold Machine.callPlugin at he
  split at he
  · cases he
  · cases above with
    | nil =>
      -- The frame on top can run, so it is no plugin's.
      simp only [hcalls, List.nil_append, hready, Bool.or_true, if_true] at he
      cases he
    | cons frame above =>
      simp only [hcalls, List.cons_append] at he
      split at he
      · cases he
      · split at he
        · cases he
        · split at he
          · cases he
          · rename_i texts _ _ v texts' _
            have hrest : Covers base { m with calls := above ++ callee :: base, texts := texts' } :=
              ⟨above, callee, rfl, hready⟩
            split at he
            · rename_i caller hstore
              cases he
              exact hrest.stays_store hstore
            · cases he

theorem Covers.writeArgument (h : Covers base m) {operand : Int}
    (he : m.writeArgument operand = (m', .ok status)) : Stays base m m' := by
  obtain ⟨above, callee, hcalls, hready⟩ := h
  unfold Machine.writeArgument at he
  cases above with
  | nil =>
    simp only [hcalls, List.nil_append, hready, if_true] at he
    cases he
  | cons frame above =>
    simp only [hcalls, List.cons_append] at he
    split at he
    · cases he
    · split at he
      · rename_i frame' _
        cases he
        exact ⟨⟨frame' :: above, callee, rfl, hready⟩, rfl⟩
      · cases he

theorem Covers.startFrame (h : Covers base m) (he : m.startFrame = (m', .ok status)) :
    Stays base m m' := by
  obtain ⟨above, callee, hcalls, hready⟩ := h
  unfold Machine.startFrame at he
  cases above with
  | nil =>
    simp only [hcalls, List.nil_append, hready, Bool.true_or, if_true] at he
    cases he
  | cons frame above =>
    simp only [hcalls, List.cons_append] at he
    split at he
    · cases he
    · cases he
      exact ⟨⟨{ frame with ready := true } :: above, callee, rfl, hready⟩, rfl⟩

theorem Covers.pushFrame (h : Covers base m) {code : Int}
    (he : Machine.pushFrame p m code = (m', .ok status)) : Stays base m m' := by
  obtain ⟨above, callee, hcalls, hready⟩ := h
  have hpush (frame : Frame) : Stays base m { m with calls := frame :: m.calls } :=
    ⟨⟨frame :: above, callee, by simp [hcalls], hready⟩, rfl⟩
  unfold Machine.pushFrame at he
  split at he
  · cases he
  · split at he
    · cases he
      exact hpush _
    · split at he
      · cases he
        exact hpush _
      · cases he

theorem place_writeSlot {frame frame' : Frame} {operand : Int}
    (h : m.writeSlot frame operand = .ok frame') : frame'.place = frame.place := by
  unfold writeSlot at h
  cases ha : frame.address operand with
  | error fault => simp [ha, bind, Except.bind] at h
  | ok address =>
    simp only [ha, bind, Except.bind] at h
    exact Frame.place_store h

theorem Covers.execute (h : Covers base m) (hs : m.Sound)
    (he : Machine.execute p m op = (m', .ok status)) :
    Stays base m m' ∨ (op = .returnValue ∧ status = .returned ∧ Pops base m m') := by
  cases hop : op.onRegisters with
  | true =>
    obtain ⟨⟨a, b, held, texts, input, output, heq, -⟩, -⟩ := execute_onRegisters (p := p) hs hop
    rw [he] at heq
    cases heq
    exact .inl (h.stays rfl rfl)
  | false =>
    cases op with simp only [Machine.execute] at he
    | compare =>
      split at he
      · cases he
        exact .inl (h.stays_modifyCurrent rfl)
      · cases he
    | executeIf requirement =>
      split at he
      · cases he
        exact .inl (h.stays rfl rfl)
      · cases he
        exact .inl (h.stays_modifyCurrent rfl)
    | endIf | quit =>
      cases he
      exact .inl (h.stays rfl rfl)
    | writeLocal operand =>
      split at he
      · rename_i frame hwrite
        cases he
        exact .inl (h.stays_modifyCurrent (congrArg Control.ready (control_writeSlot hwrite)))
      · cases he
    | writeGlobal operand =>
      split at he
      · rename_i global hwrite
        cases he
        exact .inl (h.stays rfl (place_writeSlot hwrite))
      · cases he
    | writeArgument operand => exact .inl (h.writeArgument he)
    | newFrame code => exact .inl (h.pushFrame he)
    | startFrame => exact .inl (h.startFrame he)
    | callPlugin index => exact .inl (h.callPlugin he)
    | returnValue =>
      split at he
      · rename_i hempty
        obtain ⟨above, callee, hcalls, -⟩ := h
        simp [hcalls] at hempty
      · split at he
        · rename_i hl
          cases he
          exact (h.leave hl).imp_right fun hpops => ⟨rfl, rfl, hpops⟩
        · cases he
    | unknown code => cases he
    | _ => cases hop

/-- A step works above `base`, or takes the only frame there away. -/
theorem step_covers (h : Covers base m) (hs : m.Sound) (hstep : step p m = (m', .ok status)) :
    Stays base m m' ∨ (status = .returned ∧ Returns p base m m') := by
  have hne : m.calls ≠ [] := by
    obtain ⟨above, callee, hcalls, -⟩ := h
    simp [hcalls]
  obtain ⟨calls, heq, hcovers⟩ : ∃ calls, m.advance = { m with calls } ∧ Covers base m.advance :=
    h.modifyCurrent rfl
  cases stepped_of_step hstep with
  | ended _ _ hc => exact absurd hc hne
  | returned hseg hi _ hl =>
    have hnull : Covers base { m with b := .null } := h
    rcases hnull.leave hl with hstays | hpops
    · exact .inl ⟨hstays.covers, hstays.global⟩
    · exact .inr ⟨rfl, .ended hseg hi hpops⟩
  | skipped => exact .inl (h.stays_modifyCurrent rfl)
  | executed hseg hi hk he =>
    rcases hcovers.execute hs.advance he with hstays | ⟨hop, rfl, hpops⟩
    · exact .inl ⟨hstays.covers, hstays.global.trans (by rw [heq])⟩
    · have hpops : Pops base m m' := by
        unfold Pops at hpops ⊢
        rw [heq] at hpops
        exact hpops
      exact .inr ⟨rfl, .value hseg hi hop hpops⟩

-- ---------------------------------------------------------------------------
-- Whole calls
-- ---------------------------------------------------------------------------

/-- From `m` to `m'` there are always more than `depth` frames on the stack. The program
may grow on the way. -/
inductive Inside (depth : Nat) (m : Machine) : Machine → Prop
  | start : Inside depth m m
  | step {p : Program} {m₁ m' : Machine} {status : Status} (h : Inside depth m m₁)
      (hs : Machine.step p m₁ = (m', .ok status)) (hd : depth < m'.depth) : Inside depth m m'

theorem Pops.depth (h : Pops base m m') : m'.depth = base.length + 1 := by
  obtain ⟨caller, hstore, rfl⟩ := h
  have hstack := stack_replaceCurrent (g := fun _ => caller) (Frame.control_store hstore)
  rw [← length_stack, hstack, length_stack]
  rfl

theorem Returns.depth (h : Returns p base m m') : m'.depth = base.length + 1 := by
  cases h with
  | value _ _ _ h => exact h.depth
  | ended _ _ h => exact h.depth

theorem Inside.stays (h : Inside (base.length + 1) m m') (hc : Covers base m) (hs : m.Sound) :
    Stays base m m' ∧ m'.Sound := by
  induction h with
  | start => exact ⟨⟨hc, rfl⟩, hs⟩
  | @step p m₁ m' status _ hstep hd ih =>
    obtain ⟨hstays, hsound⟩ := ih
    have hsound' : m'.Sound := by
      have := step_sound p hsound
      rwa [hstep] at this
    refine ⟨?_, hsound'⟩
    rcases step_covers hstays.covers hsound hstep with hstays' | ⟨-, hreturns⟩
    · exact ⟨hstays'.covers, hstays'.global.trans hstays.global⟩
    · rw [hreturns.depth] at hd
      exact absurd hd (Nat.lt_irrefl _)

theorem step_ended {callee : Frame} {segment : Segment} (hc : m.calls = callee :: base)
    (hr : callee.ready = true) (hs : m.segment? p = some segment)
    (hi : segment.code[m.current.pc]? = none) :
    ∃ m', step p m = (m', .ok .returned) ∧ m'.depth = base.length + 1 := by
  obtain ⟨caller, hleave⟩ : ∃ caller, ({ m with b := .null } : Machine).leave =
      (({ m with b := .null, calls := base } : Machine).modifyCurrent fun _ => caller, .ok ()) := by
    simp only [leave, hc, hr, if_true]
    exact ⟨_, rfl⟩
  have hne : m.calls ≠ [] := by simp [hc]
  exact ⟨_, (Stepped.returned hs hi hne hleave).step_eq, depth_modifyCurrent _ _⟩

/-- A call ends by a return from the function that was started. -/
theorem Inside.returns {m₁ : Machine} (h : Inside (base.length + 1) m m₁) (hc : Covers base m)
    (hs : m.Sound) (hstep : Machine.step p m₁ = (m', .ok status)) (hd : m'.depth ≤ base.length + 1) :
    status = .returned ∧ Returns p base m₁ m' := by
  obtain ⟨hstays, hsound⟩ := h.stays hc hs
  rcases step_covers hstays.covers hsound hstep with hstays' | hreturned
  · obtain ⟨above, callee, hcalls, -⟩ := hstays'.covers
    have hdepth : m'.depth = above.length + (base.length + 1) + 1 := by
      simp [Machine.depth, hcalls]
    omega
  · exact hreturned

end
end Machine
end Birl
