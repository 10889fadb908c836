import Birl.Proofs.Machine.Control
import Birl.Proofs.Program

/-!
# Who has a frame

The roster of a machine is the owners of its frames, each with whether the frame can run.
A step adds a frame for a plugin or for code that the program calls, starts the first
frame or takes it away; a property that this keeps true (`RosterInvariant`) is one that
every step keeps (`RosterInvariant.step`), failed ones included.
-/

namespace Birl.Machine

variable {p : Program} {m : Machine}

/-- The owner of a frame and whether the frame can run. -/
def seat (c : Control) : FrameOwner × Bool := (c.owner, c.ready)

/-- The owners of the frames, the last one first. -/
def roster (m : Machine) : List (FrameOwner × Bool) := m.stack.map seat

theorem length_roster (m : Machine) : m.roster.length = m.depth := by
  rw [roster, List.length_map, length_stack]

theorem roster_eq (m : Machine) :
    m.roster = m.calls.map (fun f => (f.owner, f.ready)) ++ [(m.global.owner, m.global.ready)] := by
  simp [roster, stack, frames, Frame.control, seat, Function.comp_def]

theorem roster_modifyCurrent {g : Frame → Frame} (g' : Control → Control)
    (h : (g m.current).control = g' m.current.control) (hg : ∀ c, seat (g' c) = seat c) :
    (m.modifyCurrent g).roster = m.roster := by
  rw [roster, stack_modifyCurrent g' h, map_modifyRunning hg, roster]

/-- What the calls of a program keep true of the owners: frames are added for plugins and
for code that is called, they are started, and all but the last one are taken away. -/
structure RosterInvariant (p : Program) (P : List (FrameOwner × Bool) → Prop) : Prop where
  push : ∀ {id : Nat} {segment : Segment} {code : Int} {owner : FrameOwner}
    {rest : List (FrameOwner × Bool)}, p.segment? id = some segment →
    .newFrame code ∈ segment.operations →
    (owner = .plugin ∨ ∃ callee : Nat, code = callee ∧ owner = .code callee) →
    rest.length < maxCallDepth → P rest → P ((owner, false) :: rest)
  start : ∀ {owner : FrameOwner} {rest : List (FrameOwner × Bool)}, rest ≠ [] →
    P ((owner, false) :: rest) → P ((owner, true) :: rest)
  pop : ∀ {first : FrameOwner × Bool} {rest : List (FrameOwner × Bool)}, rest ≠ [] →
    P (first :: rest) → P rest

section
variable {P : List (FrameOwner × Bool) → Prop} {s s' : List Control} {last : Comparison}

theorem RosterInvariant.mayPop (hP : RosterInvariant p P) (h : P (s.map seat)) (hs : MayPop s s') :
    P (s'.map seat) := by
  rcases hs with rfl | ⟨c, rfl, hne⟩
  · exact h
  · exact hP.pop (mt List.map_eq_nil_iff.mp hne) h

theorem RosterInvariant.effect (hP : RosterInvariant p P) (h : P (s.map seat)) {id : Nat}
    {segment : Segment} {op : Operation} (hs : p.segment? id = some segment)
    (hop : op ∈ segment.operations) (he : Effect p last op s s') : P (s'.map seat) := by
  cases he with
  | keep => exact h
  | skip => rwa [map_modifyRunning (fun _ => by rfl)]
  | push hd ho =>
    refine hP.push hs hop ?_ (by rwa [List.length_map]) h
    rcases ho with ⟨-, rfl⟩ | ⟨hcode, rfl⟩
    · exact .inl rfl
    · simp only [Program.hasCode, Bool.and_eq_true, decide_eq_true_eq] at hcode
      exact .inr ⟨_, (Int.toNat_of_nonneg hcode.1).symm, rfl⟩
  | @start c rest hr _ hne =>
    rw [List.map_cons, seat, hr] at h
    exact hP.start (mt List.map_eq_nil_iff.mp hne) h
  | leave _ hne => exact hP.pop (mt List.map_eq_nil_iff.mp hne) h
  | halt => exact h
  | call _ _ hne => exact hP.pop (mt List.map_eq_nil_iff.mp hne) h

theorem RosterInvariant.step (hP : RosterInvariant p P) (h : P m.roster) :
    P (Machine.step p m).1.roster := by
  have hleave := hP.mayPop h (mayPop_leave { m with b := .null })
  refine step_induct (P := fun m' => P m'.roster) h hleave ?_ ?_
  · intro _ instruction _ _
    rwa [roster_modifyCurrent
      (fun c => { c with pc := c.pc + 1, skip := skipAfter c.skip instruction.op }) rfl fun _ => rfl]
  · intro segment instruction hs hi
    have hadvance : P (m.advance.stack.map seat) := by
      rwa [stack_advance, map_modifyRunning (fun _ => by rfl)]
    rcases he : execute p m.advance instruction.op with ⟨m', fault | status⟩
    · exact hP.mayPop hadvance (stack_failed he)
    · unfold segment? at hs
      split at hs
      · have hop : instruction.op ∈ segment.operations :=
          List.mem_of_getElem? (segment.operations_getElem?.mpr ⟨instruction, hi, rfl⟩)
        exact hP.effect hadvance hs hop (execute_effect he)
      · cases hs

end
end Birl.Machine
