import Birl.Proofs.Session.Call
import Birl.Proofs.Session.Incremental

/-!
# The line that an instruction comes from

A batch session numbers its lines as they are fed, and every line adds instructions that carry
its number (`Batch.compiled_by`). So where a run of the program fails, its error carries the
number of the line that the failing instruction was compiled from, whichever function that
belongs to (`Batch.failure`): the call of the entry point, which no line was compiled to, cannot
fail.
-/

namespace Birl

open Machine

-- ---------------------------------------------------------------------------
-- Instructions and their places
-- ---------------------------------------------------------------------------

namespace Program

def instruction? (p : Program) (id pos : ℕ) : Option Instruction :=
  (p.segment? id).bind fun s => s.code[pos]?

section
variable {p p' : Program} {id pos : ℕ} {i : Instruction}

theorem instruction?_iff : p.instruction? id pos = some i ↔
    ∃ s, p.segment? id = some s ∧ s.code[pos]? = some i :=
  Option.bind_eq_some_iff

theorem getElem?_code_append (s : Segment) (more : List Instruction) (pos : ℕ) :
    (s.code ++ more)[pos]? = (s.code.toList ++ more)[pos]? := by
  rw [← Array.getElem?_toList, Array.toList_appendList]

theorem Extends.instruction? (h : p.Extends p') (hi : p.instruction? id pos = some i) :
    p'.instruction? id pos = some i := by
  obtain ⟨s, hs, hi⟩ := instruction?_iff.mp hi
  obtain ⟨more, hs'⟩ := h id s hs
  refine instruction?_iff.mpr ⟨_, hs', ?_⟩
  rw [← Array.getElem?_toList] at hi
  obtain ⟨hlt, -⟩ := List.getElem?_eq_some_iff.mp hi
  exact (getElem?_code_append s more pos).trans ((List.getElem?_append_left hlt).trans hi)

theorem instruction?_append {target : ℕ} {code : List Instruction}
    (hi : (p.append target code).instruction? id pos = some i) :
    p.instruction? id pos = some i ∨ p.instruction? id pos = none ∧ id = target ∧ i ∈ code := by
  obtain ⟨s', hs', hi⟩ := instruction?_iff.mp hi
  rw [segment?_append] at hs'
  obtain ⟨s, hs, rfl⟩ := Option.map_eq_some_iff.mp hs'
  by_cases hid : id = target
  · rw [if_pos hid] at hi
    have hi : (s.code ++ code)[pos]? = some i := hi
    rw [getElem?_code_append, List.getElem?_append] at hi
    split at hi
    · exact .inl (instruction?_iff.mpr ⟨s, hs, by rwa [← Array.getElem?_toList]⟩)
    · rename_i hge
      refine .inr ⟨?_, hid, List.mem_of_getElem? hi⟩
      simpa [instruction?, hs] using hge
  · rw [if_neg hid] at hi
    exact .inl (instruction?_iff.mpr ⟨s, hs, hi⟩)

end
end Program

/-- What a command is compiled to carries the number of its line. -/
theorem Compiler.instruction?_compile {c c' : Compiler} {line : Int} {cmd : Command}
    {hint : ScopeHint} {id pos : ℕ} {i : Instruction} (hc : c.compile line cmd = .ok (hint, c'))
    (hi : c'.program.instruction? id pos = some i) :
    c.program.instruction? id pos = some i ∨
      c.program.instruction? id pos = none ∧ i.line = line := by
  obtain ⟨code, c₁, hemits, rfl⟩ := compile_ok hc
  rcases Program.instruction?_append hi with hold | ⟨hnone, -, hmem⟩
  · left
    obtain ⟨s, hs, hi⟩ := Program.instruction?_iff.mp hold
    rcases hemits.segments hs with hs | hempty
    · exact Program.instruction?_iff.mpr ⟨s, hs, hi⟩
    · have hop : s.operations[pos]? = some i.op := s.operations_getElem?.mpr ⟨i, hi, rfl⟩
      rw [hempty] at hop
      cases hop
  · refine .inr ⟨?_, ?_⟩
    · rw [Option.eq_none_iff_forall_ne_some]
      intro j hj
      cases hnone.symm.trans (hemits.widens.program.instruction? hj)
    · obtain ⟨op, -, rfl⟩ := List.mem_map.mp hmem
      rfl

-- ---------------------------------------------------------------------------
-- Lines of a session
-- ---------------------------------------------------------------------------

namespace Session

/-- The line, fed after the others, is the one that is compiled to the instruction there. -/
def Compiles (s : Session) (before : List Text) (line : Text) (id pos : ℕ) : Prop :=
  (s.feedLines before).1.program.instruction? id pos = none ∧
    ∃ i, (s.feedLines (before ++ [line])).1.program.instruction? id pos = some i

section
variable {s s' : Session} {source : Text} {lines : List Text} {id pos : ℕ} {i : Instruction}

theorem Takes.line (h : Takes s source s') : s'.line = s.line + 1 := by
  cases h with
  | blank => rfl
  | compiled => rfl

theorem Takes.instruction? (h : Takes s source s') (hi : s'.program.instruction? id pos = some i) :
    s.program.instruction? id pos = some i ∨
      s.program.instruction? id pos = none ∧ i.line = s.line + 1 := by
  cases h with
  | blank => exact .inl hi
  | compiled _ _ hc => exact Compiler.instruction?_compile hc hi

theorem Batch.feedLines_step (h : Batch s) (hf : s.feed source = (s', .ok ())) (rest : List Text) :
    s.feedLines (source :: rest) = s'.feedLines rest := by
  obtain ⟨hs', -⟩ := h.takes (takes_of_feed h.interactive hf)
  simp [Session.feedLines, hf, hs'.quit]

end
end Session

-- ---------------------------------------------------------------------------
-- Instructions that fail
-- ---------------------------------------------------------------------------

theorem Fault.Harmless.kind_ne {fault : Fault} (h : fault.Harmless)
    (hf : fault ≠ .callStackOverflow) : fault.kind ≠ .internal :=
  (h.resolve_left hf).2.2

def Machine.FailsAt (p : Program) (m : Machine) (e : Error) (id pos : ℕ) : Prop :=
  ∃ last after, Reaches p m last ∧ step p last = (after, .error e) ∧
    last.current.owner = .code id ∧ last.current.pc = pos

namespace Machine

section
variable {p : Program} {m m' : Machine}

theorem code_of_segment? {segment : Segment} (h : m.segment? p = some segment) :
    ∃ id, m.current.owner = .code id ∧ p.segment? id = some segment := by
  unfold segment? at h
  split at h
  · rename_i id ho
    exact ⟨id, ho, h⟩
  · cases h

theorem leave_null {fault : Fault} (h : m.leave = (m', .error fault)) (hb : m.b = .null) :
    fault = .returnUnderConstruction := by
  unfold leave at h
  split at h
  · cases h
  · split at h
    · simp [hb, Frame.store] at h
    · cases h
      rfl

theorem pushFrame_fault {code : Int} {fault : Fault}
    (h : pushFrame p m code = (m', .error fault)) (hd : m.depth < maxCallDepth) :
    fault = .noCode code := by
  unfold pushFrame at h
  rw [if_neg (Nat.not_le.mpr hd)] at h
  split at h
  · cases h
  · split at h
    · cases h
    · cases h
      rfl

theorem startFrame_fault {fault : Fault} (h : m.startFrame = (m', .error fault)) :
    fault = .noFrameUnderConstruction := by
  unfold startFrame at h
  split at h
  · cases h
    rfl
  · split at h
    · cases h
      rfl
    · cases h

end
end Machine

namespace Session

section
variable {host : Callback → Prop} {s : Session} {last : Machine}

theorem Reachable.reaches {m : Machine} (hr : Reaches s.program m last)
    (h : Reachable host true { s with machine := m }) :
    Reachable host true { s with machine := last } := by
  generalize hp : s.program = p at hr
  induction hr with
  | refl => exact h
  | step hs _ _ ih =>
    subst hp
    exact ih (h.stepped hs)

end

section
variable {s : Session} {after : Machine} {i : Instruction} {segment : Segment}

/-- Without functions of a host, no instruction fails because an invariant is broken. -/
theorem Reachable.harmless (h : Reachable (fun _ => False) true s) {e : Error} {machine : Machine}
    (hs : s.machine.step s.program = (machine, .error e)) :
    ∃ line function fault, e = .runtime line function fault ∧ fault.Harmless := by
  obtain ⟨line, function, fault, he, hfault⟩ := (h.fit nofun).excused hs
  refine ⟨line, function, fault, he, hfault.resolve_right ?_⟩
  rintro ⟨_, -, hhost, -⟩
  exact hhost

/-- Where the global code comes to the call of the entry point, no other call is under way. -/
theorem Reachable.no_calls (h : Reachable (fun _ => False) true s)
    (ho : s.machine.current.owner = .code globalCode) (hk : s.machine.current.skip = 0)
    (hahead : Ahead s.program s.machine [.newFrame entryCode]) : s.machine.calls = [] := by
  have hfit := h.fit nofun
  rcases (hfit.safe rfl).settled hfit.verified.flow hk hahead with hnil | ⟨rest, hcons, -⟩
  · exact hnil
  · have hne := ((h.linked nofun).housed rfl).calls s.machine.current (by simp [hcons])
    exact absurd ho hne

/-- The call of the entry point does not fail: it is made from the global code, with no other call
under way. -/
theorem Reachable.entryCall_ok (h : Reachable (fun _ => False) true s) {number : Int}
    (ho : s.machine.current.owner = .code globalCode)
    (hseg : s.machine.segment? s.program = some segment)
    (hi : segment.code[s.machine.current.pc]? = some i) (hk : s.machine.current.skip = 0)
    (hcall : i ∈ ([⟨.newFrame entryCode, number⟩, ⟨.startFrame, number⟩] : List Instruction))
    (machine : Machine) (fault : Fault) :
    execute s.program s.machine.advance i.op ≠ (machine, .error fault) := by
  intro he
  have hharmless : fault.Harmless := by
    obtain ⟨_, _, _, hruntime, hfault⟩ := h.harmless (Stepped.failed hseg hi hk he).step_eq
    cases hruntime
    exact hfault
  rcases List.mem_cons.mp hcall with rfl | hcall
  · have hahead : Ahead s.program s.machine [.newFrame entryCode] := by
      obtain ⟨hlt, hop⟩ := List.getElem?_eq_some_iff.mp (segment.operations_getElem?.mpr ⟨_, hi, rfl⟩)
      refine ⟨segment, hseg, segment.operations.drop (s.machine.current.pc + 1), ?_⟩
      rw [List.drop_eq_getElem_cons hlt, hop]
      rfl
    have hcalls := h.no_calls ho hk hahead
    have hdepth : s.machine.advance.depth = 1 := by
      simp [advance, modifyCurrent, modifyLastReady, hcalls, Machine.depth]
    obtain rfl := pushFrame_fault he (by rw [hdepth]; decide)
    exact hharmless.kind_ne (by simp) rfl
  · obtain rfl := List.mem_singleton.mp hcall
    obtain rfl := startFrame_fault he
    exact hharmless.kind_ne (by simp) rfl

/-- Where a run of the program fails, the instruction at which it does was there before the call of
the entry point was added, and the error carries its line. -/
theorem Reachable.failure (h : Reachable (fun _ => False) true s) {p : Program} {number : Int}
    (hp : s.program = p ∨ s.program = p.append globalCode
      [⟨.newFrame entryCode, number⟩, ⟨.startFrame, number⟩])
    {e : Error} (hs : s.machine.step s.program = (after, .error e)) :
    ∃ id i function fault, s.machine.current.owner = .code id ∧
      p.instruction? id s.machine.current.pc = some i ∧ e = .runtime i.line function fault := by
  obtain ⟨line, function, fault, he, hharmless⟩ := h.harmless hs
  cases stepped_of_step hs with
  | noCode => cases he
  | stuck _ _ _ hl =>
    cases he
    cases leave_null hl rfl
    exact absurd rfl (hharmless.kind_ne nofun)
  | @failed segment i _ fault' hseg hi hk hexec =>
    obtain ⟨id, ho, hid⟩ := code_of_segment? hseg
    have hinstruction : s.program.instruction? id s.machine.current.pc = some i :=
      Program.instruction?_iff.mpr ⟨segment, hid, hi⟩
    refine ⟨id, i, segment.name, fault', ho, ?_, rfl⟩
    rcases hp with hp | hp
    · rwa [hp] at hinstruction
    · rw [hp] at hinstruction
      rcases Program.instruction?_append hinstruction with hold | ⟨-, rfl, hcall⟩
      · exact hold
      · exact absurd hexec (h.entryCall_ok ho hseg hi hk hcall _ _)

/-- A batch program that fails does so at an instruction of one of its lines. -/
theorem Batch.failure {b b' : Session} {e : Error} (h : Batch b)
    (hreach : Reachable (fun _ => False) true b) (hidle : b.machine.calls = []) (hd : b.depth = 0)
    (hrun : b.runProgram = (b', .error e)) :
    ∃ id pos i function fault, FailsAt b'.program b.machine e id pos ∧
      b.program.instruction? id pos = some i ∧ e = .runtime i.line function fault := by
  -- What the run is of: the program of the lines, with the call of the entry point after it.
  obtain ⟨hcompiler, hran, -⟩ := h.runProgram hd hrun
  have hprogram : b'.program = b.completed.program := congrArg Compiler.program hcompiler
  rw [hprogram] at hran ⊢
  obtain ⟨last, after, hreaches, hstep⟩ : ∃ last after, Reaches b.completed.program b.machine last ∧
      step b.completed.program last = (after, .error e) := by
    obtain ⟨m, hfor, -⟩ := runFor_of_run hran
    have hdepth : b.machine.depth ≤ maxCallDepth := by
      rw [Machine.depth, hidle]
      decide
    obtain ⟨last, hreaches, hstep, -⟩ := (run_iff_ends hdepth).mp hfor
    exact ⟨last, m, hreaches, hstep⟩
  have hcompleted : Reachable (fun _ => False) true { b with compiler := b.completed } := by
    unfold completed
    split
    · exact hreach.entryCall b.line
    · exact hreach
  have hlast : Reachable (fun _ => False) true
      { b with compiler := b.completed, machine := last } :=
    Reachable.reaches (s := { b with compiler := b.completed }) hreaches hcompleted
  have hadded : b.completed.program = b.program ∨ b.completed.program = b.program.append globalCode
      [⟨.newFrame entryCode, b.line⟩, ⟨.startFrame, b.line⟩] := by
    unfold completed
    split
    · exact .inr rfl
    · exact .inl rfl
  obtain ⟨id, i, function, fault, howner, hi, he⟩ := hlast.failure hadded hstep
  exact ⟨id, last.current.pc, i, function, fault, ⟨last, after, hreaches, hstep, howner, rfl⟩, hi, he⟩

end
end Session
end Birl
