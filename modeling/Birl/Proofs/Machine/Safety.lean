import Birl.Proofs.Machine.Placement
import Birl.Proofs.Machine.Roster

/-!
# Machines that do not go wrong

In a safe machine the frames are in place, and what is known where the current frame
stands is true of the registers. On a verified program a step from a safe machine
leads to a safe machine or fails in a way that a correct program can fail
(`Safe.step_ok`, `Safe.step_error`).
-/

namespace Birl

/-- All operations refer to what is there, and all code passes. -/
structure Program.Verified (p : Program) (plugins : Array Plugin) (size : Nat) : Prop where
  inRange : ∀ id s, p.segment? id = some s → ∀ op ∈ s.operations, op.InRange p plugins size
  flow : p.Flows

namespace Machine

structure Safe (p : Program) (m : Machine) : Prop where
  sound : m.Sound
  plugins : ∀ plugin ∈ m.plugins, plugin.call.GivesLive
  stands : ∃ σ above c below, Placed p m σ above c below ∧ (c.skip = 0 → σ.Fits m)

section
variable {p p' : Program} {m m' : Machine} {σ σ' : Flow} {above below : List Control} {c : Control}

theorem Safe.extend (h : Safe p m) (hp : p.Extends p') : Safe p' m := by
  obtain ⟨σ, above, c, below, hplaced, hfits⟩ := h.stands
  exact ⟨h.sound, h.plugins, σ, above, c, below, hplaced.extend hp, hfits⟩

-- ---------------------------------------------------------------------------
-- One step
-- ---------------------------------------------------------------------------

/-- An error that a step of a correct program may end with. -/
def Excused (m : Machine) (e : Error) : Prop :=
  ∃ line function fault, e = .runtime line function fault ∧ (fault.Harmless ∨ m.HostFault fault)

theorem HostFault.of_plugins {fault : Fault} (h : m'.HostFault fault)
    (hp : m'.plugins = m.plugins) : m.HostFault fault := by
  obtain ⟨plugin, hmem, hrest⟩ := h
  exact ⟨plugin, hp ▸ hmem, hrest⟩

theorem Placed.fine (hp : Placed p m σ above c below) (hfits : σ.Fits m) (h : Safe p m)
    (hv : p.Verified m.plugins m.frameSize) (hk : c.skip = 0) {segment : Segment}
    {instruction : Instruction} (hseg : m.segment? p = some segment)
    (hi : segment.code[m.current.pc]? = some instruction) (hσ : σ.next? instruction.op = some σ') :
    m.advance.Fine σ' (execute p m.advance instruction.op) := by
  obtain ⟨id, s, -, hid, hs⟩ := hp.segment
  obtain rfl : s = segment := Option.some.inj (hs.symm.trans hseg)
  have hop : instruction.op ∈ s.operations :=
    List.mem_of_getElem? (s.operations_getElem?.mpr ⟨instruction, hi, rfl⟩)
  have hstack := m.stack_advance
  rw [hp.modifyRunning] at hstack
  have hplugins : m.advance.plugins = m.plugins := modifyCurrent_plugins m _
  have hsize : m.advance.frameSize = m.frameSize := modifyCurrent_frameSize m _
  refine execute_fine h.sound.advance (hplugins ▸ h.plugins) ?_ ?_ ?_ hσ
  · rw [hplugins, hsize]
    exact hv.inRange id s hid _ hop
  · exact hfits.same (register_modifyCurrent m _) (modifyCurrent_texts m _)
  · exact building_of_stack hstack hp.knows.ready (hp.builds hk)

/-- On verified code a step that succeeds leads to a safe machine. -/
theorem Safe.step_ok (h : Safe p m) (hv : p.Verified m.plugins m.frameSize) {status : Status}
    (hs : step p m = (m', .ok status)) : Safe p m' := by
  obtain ⟨σ, above, c, below, hplaced, hfits⟩ := h.stands
  have hsound : m'.Sound := by
    have := step_sound p h.sound
    rwa [hs] at this
  obtain ⟨σ', above', c', below', hplaced', hknown⟩ := hplaced.step hv.flow hs
  refine ⟨hsound, (step_setup hs).1 ▸ h.plugins, σ', above', c', below', hplaced', fun hk => ?_⟩
  rcases hknown hk with rfl | ⟨rfl, rfl, rfl⟩ | ⟨segment, instruction, hseg, hi, hk', hσ, he⟩
  · exact Flow.fits_empty m'
  · exact hfits hk
  · have hfine := hplaced.fine (hfits hk') h hv hk' hseg hi hσ
    rw [he] at hfine
    exact hfine

/-- On verified code a step fails only as it may. -/
theorem Safe.step_error (h : Safe p m) (hv : p.Verified m.plugins m.frameSize) {e : Error}
    (hs : step p m = (m', .error e)) : m.Excused e := by
  obtain ⟨σ, above, c, below, hplaced, hfits⟩ := h.stands
  cases stepped_of_step hs with
  | noCode hnone =>
    obtain ⟨id, segment, -, -, hsegment⟩ := hplaced.segment
    rw [hsegment] at hnone
    cases hnone
  | stuck hseg hi hc hl =>
    cases hplaced.above_nil hv.flow hseg hi
    have hbuild : ({ m with b := .null } : Machine).building = none :=
      building_of_stack (m := { m with b := .null }) hplaced.stack hplaced.knows.ready
        (show Builds p none [] from rfl)
    have hnull : ({ m with b := .null } : Machine).Sound :=
      h.sound.of_eq rfl (fun _ hf => hf) rfl h.sound.texts
    obtain ⟨m'', hleave⟩ := leave_ok hnull ⟨.null, rfl⟩ hbuild
    rw [hleave] at hl
    cases hl
  | failed hseg hi hk he =>
    have hk : c.skip = 0 := (congrArg Control.skip hplaced.current).symm.trans hk
    obtain ⟨σ', hσ, -⟩ := hplaced.next hv.flow hseg hi
    have hfine := hplaced.fine (hfits hk) h hv hk hseg hi hσ
    rw [he] at hfine
    exact ⟨_, _, _, rfl, hfine.imp_right fun hhost => hhost.of_plugins (modifyCurrent_plugins m _)⟩

-- ---------------------------------------------------------------------------
-- Between runs
-- ---------------------------------------------------------------------------

theorem Safe.host (h : Safe p m) (hs : m'.Sound)
    (hp : ∀ plugin ∈ m'.plugins, plugin.call.GivesLive) (hstack : m'.stack = m.stack)
    (hr : m'.register = m.register) (ht : m.texts.Extends m'.texts) : Safe p m' := by
  obtain ⟨σ, above, c, below, hplaced, hfits⟩ := h.stands
  exact ⟨hs, hp, σ, above, c, below, hplaced.of_stack hstack,
    fun hk => (hfits hk).grow h.sound.texts hr ht⟩

theorem safe_new (requested : Int) : Safe .empty (Machine.new requested) := by
  refine ⟨sound_new requested, by simp [Machine.new], {}, [], _, [], ⟨rfl, ?_, nofun, fun _ => rfl,
    fun _ => rfl⟩, fun _ => Flow.fits_empty _⟩
  exact ⟨rfl, globalCode, _, rfl, rfl, Nat.zero_le _, rfl⟩

def Rooted (m : Machine) : Prop := m.global.owner = .code globalCode ∧ m.global.ready = true

theorem Rooted.of_control (h : m.Rooted) (hc : m'.global.control = m.global.control) : m'.Rooted :=
  ⟨(congrArg Control.owner hc).trans h.1, (congrArg Control.ready hc).trans h.2⟩

theorem Rooted.modifyCurrent (h : m.Rooted) {g : Frame → Frame}
    (ho : (g m.current).owner = m.current.owner) (hr : (g m.current).ready = m.current.ready) :
    (m.modifyCurrent g).Rooted := by
  rcases m.current_cases with ⟨above, f, below, -, -, -, -, hmod⟩ | ⟨-, hcur, hmod⟩
  · rw [hmod]
    exact h
  · rw [hmod]
    rw [hcur] at ho hr
    exact ⟨ho.trans h.1, hr.trans h.2⟩

theorem rooted_iff : m.Rooted ↔ m.roster.getLast? = some (.code globalCode, true) := by
  simp [roster_eq, Rooted]

theorem rosterInvariant_rooted (p : Program) :
    RosterInvariant p (·.getLast? = some (.code globalCode, true)) where
  push _ _ _ _ h := by simp [List.getLast?_cons, h]
  start hne h := by
    rw [List.getLast?_cons_of_ne_nil hne] at h ⊢
    exact h
  pop hne h := by rwa [List.getLast?_cons_of_ne_nil hne] at h

theorem Rooted.step (h : m.Rooted) (p : Program) : (step p m).1.Rooted :=
  rooted_iff.mpr ((rosterInvariant_rooted p).step (rooted_iff.mp h))

/-- After a failure the global code goes on behind its end. -/
theorem Safe.recover (h : m.Sound) (hp : ∀ plugin ∈ m.plugins, plugin.call.GivesLive)
    (hr : m.Rooted) (hv : p.Verified m.plugins m.frameSize) {s : Segment}
    (hs : p.segment? globalCode = some s) : Safe p (m.recover p) := by
  obtain ⟨σ, hσ, hend⟩ := hv.flow globalCode s hs
  have hpc : p.globalLength = s.operations.length := by
    rw [Program.globalLength, hs, s.length_operations]
    rfl
  refine ⟨h.recover p, hp, σ, [], _, [], ⟨rfl, ⟨hr.2, globalCode, s, hr.1, hs, ?_, ?_⟩, nofun,
    fun _ => ?_, fun _ => rfl⟩, fun _ => ?_⟩
  · exact Nat.le_of_eq hpc
  · show s.flowAt p.globalLength = _
    rw [Segment.flowAt, hpc, List.take_length, hσ]
  · rw [hend]
    rfl
  · refine Flow.fits_null fun r => ?_
    cases r <;> rfl

end
end Machine
end Birl
