import Birl.Proofs.Machine.Guard
import Birl.Proofs.Machine.Safety

/-!
# What a step does to the global frame

A step moves the global frame past at most one instruction (`step_pc`), and writes at
most one of its slots: `writes?` tells which one, and the value (`step_global`). Both
hold of steps that fail too. `writes?_cases` tells what the instruction is then. No frame
of a call runs the global code (`calls_step`).
-/

namespace Birl

namespace Frame

def afterStore (f : Frame) (a : Nat) (v : Value) (outer : TextStore) : Frame :=
  match f.store a v outer with
  | .ok f' => f'
  | .error _ => f

/-- The frames differ at most in their last comparison and in what they skip. -/
def Resembles (f f' : Frame) : Prop := f' = { f with comparison := f'.comparison, skip := f'.skip }

variable {f f' : Frame} {size a : Nat} {v : Value} {outer : TextStore}

theorem Resembles.refl (f : Frame) : f.Resembles f := rfl

theorem Resembles.pc (h : f.Resembles f') : f'.pc = f.pc := by
  rw [h]

theorem Resembles.constant (h : f.Resembles f') (b : Nat) : f'.constant? b = f.constant? b := by
  rw [h]
  rfl

theorem Resembles.sound (h : f.Resembles f') (hs : f.Sound size) : f'.Sound size := by
  rw [h]
  exact hs.congr rfl rfl

theorem control_afterStore : (f.afterStore a v outer).control = f.control := by
  unfold afterStore
  split
  · rename_i hs
    exact control_store hs
  · rfl

theorem Sound.afterStore (h : f.Sound size) (ha : a < size) :
    (f.afterStore a v outer).Sound size ∧ ∀ b, (f.afterStore a v outer).constant? b =
      (outer.constant? v).elim (f.constant? b) fun k => if b = a then some k else f.constant? b := by
  cases hv : outer.constant? v with
  | some k =>
    obtain ⟨f', hstore, hsound, hconstant, -⟩ := h.store_ok ha hv
    have hafter : f.afterStore a v outer = f' := by simp [Frame.afterStore, hstore]
    rw [hafter]
    exact ⟨hsound, hconstant⟩
  | none =>
    have hafter : f.afterStore a v outer = f := by
      cases v with
      | text id =>
        have hnone : outer.find? id = none := by simpa [TextStore.constant?] using hv
        simp [Frame.afterStore, Frame.store, TextStore.get, hnone]
      | _ => cases hv
    rw [hafter]
    exact ⟨h, fun _ => rfl⟩

end Frame

namespace Machine

-- ---------------------------------------------------------------------------
-- The frame that runs
-- ---------------------------------------------------------------------------

def globalRuns (m : Machine) : Bool := (lastReady? m.calls).isNone

section
variable {p : Program} {m m' : Machine}

theorem runs_cases (m : Machine) :
    (m.globalRuns = true ∧ m.current = m.global ∧
      ∀ g, m.modifyCurrent g = { m with global := g m.global }) ∨
    (m.globalRuns = false ∧ m.current ∈ m.calls ∧ ∀ g, (m.modifyCurrent g).global = m.global ∧
      ∀ f ∈ (m.modifyCurrent g).calls, f ∈ m.calls ∨ f = g m.current) := by
  unfold globalRuns current modifyCurrent
  rcases lastReady_cases m.calls with ⟨above, f, below, hcalls, -, -, hlast, hmod⟩ | ⟨-, hlast, hmod⟩
  · refine .inr ⟨by simp [hlast], by rw [hlast, hcalls]; simp, fun g => ?_⟩
    simp only [hmod, hlast, Option.getD_some]
    refine ⟨trivial, fun x hx => ?_⟩
    rw [hcalls]
    rcases List.mem_append.mp hx with hx | hx
    · exact .inl (List.mem_append_left _ hx)
    · rcases List.mem_cons.mp hx with rfl | hx
      · exact .inr rfl
      · exact .inl (List.mem_append_right _ (List.mem_cons_of_mem _ hx))
  · exact .inl ⟨by simp [hlast], by simp [hlast], fun g => by simp [hmod]⟩

theorem modifyCurrent_global (m : Machine) (g : Frame → Frame) :
    (m.modifyCurrent g).global = if m.globalRuns then g m.global else m.global := by
  rcases m.runs_cases with ⟨hruns, -, hmod⟩ | ⟨hruns, -, hmod⟩
  · simp [hruns, hmod]
  · simp [hruns, (hmod g).1]

theorem current_of_globalRuns (h : m.globalRuns = true) : m.current = m.global := by
  rcases m.runs_cases with ⟨-, hcur, -⟩ | ⟨hno, -, -⟩
  · exact hcur
  · rw [h] at hno
    cases hno

theorem modifyCurrent_of_globalRuns (h : m.globalRuns = true) (g : Frame → Frame) :
    m.modifyCurrent g = { m with global := g m.global } := by
  rcases m.runs_cases with ⟨-, -, hmod⟩ | ⟨hno, -, -⟩
  · exact hmod g
  · rw [h] at hno
    cases hno

theorem globalRuns_of_calls (h : m.calls = []) : m.globalRuns = true := by
  simp [globalRuns, h, lastReady?]

theorem current_of_calls (h : m.calls = []) : m.current = m.global := by
  simp [current, h, lastReady?]

-- ---------------------------------------------------------------------------
-- Operations
-- ---------------------------------------------------------------------------

/-- What register `b` is written to by an operand of the global frame. -/
def writtenTo? (m : Machine) (operand : Int) : Option (Nat × Value × TextStore) :=
  match m.global.address operand with
  | .ok a => some (a, m.b, m.texts)
  | .error _ => none

/-- What an operation writes into the global frame: a slot, and a value of a store.
Results of calls go to slot 0. -/
def written? (m : Machine) : Operation → Option (Nat × Value × TextStore)
  | .writeGlobal operand => m.writtenTo? operand
  | .writeLocal operand => if m.globalRuns then m.writtenTo? operand else none
  | .returnValue =>
    match m.calls with
    | frame :: rest =>
      if frame.ready && (lastReady? rest).isNone then some (0, m.b, m.texts) else none
    | [] => none
  | .callPlugin index =>
    match m.plugin? index, m.calls with
    | some plugin, frame :: rest =>
      if frame.owner ≠ .plugin || frame.ready || (lastReady? rest).isSome then none
      else
        match loadArguments frame m.texts 1 plugin.params.length with
        | (.ok args, texts) =>
          match plugin.call texts args with
          | (.ok v, texts) => some (0, v, texts)
          | _ => none
        | _ => none
    | _, _ => none
  | _ => none

def afterWrite (f : Frame) : Option (Nat × Value × TextStore) → Frame
  | some (a, v, texts) => f.afterStore a v texts
  | none => f

theorem leave_global (hc : m.calls ≠ []) :
    m.leave.1.global = afterWrite m.global (m.written? .returnValue) := by
  unfold leave
  split
  · contradiction
  · rename_i frame rest hcalls
    simp only [written?, hcalls]
    cases hready : frame.ready with
    | false => rfl
    | true =>
      simp only [if_true, Bool.true_and]
      rcases ({ m with calls := rest } : Machine).runs_cases with ⟨hruns, hcur, hmod⟩ | ⟨hruns, -, hmod⟩
      · have hnone : (lastReady? rest).isNone = true := hruns
        rw [hcur, if_pos hnone]
        simp only [afterWrite, Frame.afterStore]
        cases hstore : m.global.store 0 m.b m.texts with
        | ok caller => simp only [hmod]
        | error fault => rfl
      · have hsome : (lastReady? rest).isNone = false := hruns
        rw [hsome, if_neg Bool.false_ne_true]
        split
        · exact (hmod _).1
        · rfl

theorem callPlugin_global (index : Int) :
    (m.callPlugin index).1.global = afterWrite m.global (m.written? (.callPlugin index)) := by
  unfold Machine.callPlugin
  split
  · rename_i hplugin
    simp [written?, hplugin, fail, afterWrite]
  · rename_i plugin hplugin
    split
    · rename_i hcalls
      simp [written?, hplugin, hcalls, fail, afterWrite]
    · rename_i frame rest hcalls
      simp only [written?, hplugin, hcalls]
      by_cases hframe : (frame.owner ≠ .plugin || frame.ready) = true
      · rw [if_pos hframe, if_pos (by rw [hframe]; rfl)]
        rfl
      · rw [if_neg hframe]
        simp only [hframe, Bool.false_or]
        split
        · rename_i hargs
          rw [hargs]
          split <;> rfl
        · rename_i args texts hargs
          rw [hargs]
          split
          · rename_i hcall
            simp only [hcall]
            split <;> rfl
          · rename_i v texts' hcall
            simp only [hcall]
            rcases ({ m with calls := rest, texts := texts' } : Machine).runs_cases with
              ⟨hruns, hcur, hmod⟩ | ⟨hruns, -, hmod⟩
            · have hnone : (lastReady? rest).isSome = false := by
                simpa [globalRuns] using hruns
              rw [hcur, if_neg (by simp [hnone])]
              simp only [afterWrite, Frame.afterStore]
              cases hstore : m.global.store 0 v texts' with
              | ok caller => simp only [done, hmod]
              | error fault => rfl
            · have hsome : (lastReady? rest).isSome = true := by
                simpa [globalRuns] using hruns
              rw [if_pos hsome]
              split
              · exact (hmod _).1
              · rfl

theorem execute_global (p : Program) (m : Machine) (op : Operation) :
    (afterWrite m.global (m.written? op)).Resembles (execute p m op).1.global := by
  cases op with
  | compare =>
    simp only [execute, written?]
    split
    · simp only [done, modifyCurrent_global]
      split <;> exact .refl _
    · exact .refl _
  | executeIf requirement =>
    simp only [execute, written?]
    split
    · exact .refl _
    · simp only [done, modifyCurrent_global]
      split <;> exact .refl _
  | writeGlobal operand =>
    simp only [execute, written?, writtenTo?, writeSlot]
    cases m.global.address operand with
    | error fault => exact .refl _
    | ok a =>
      simp only [bind, Except.bind, afterWrite, Frame.afterStore]
      cases m.global.store a m.b m.texts <;> exact .refl _
  | writeLocal operand =>
    simp only [execute, written?, writtenTo?, writeSlot]
    rcases m.runs_cases with ⟨hruns, hcur, hmod⟩ | ⟨hruns, -, hmod⟩
    · rw [hcur, if_pos hruns]
      cases m.global.address operand with
      | error fault => exact .refl _
      | ok a =>
        simp only [bind, Except.bind, afterWrite, Frame.afterStore]
        cases m.global.store a m.b m.texts with
        | error fault => exact .refl _
        | ok frame =>
          simp only [done, hmod]
          exact .refl _
    · rw [hruns, if_neg Bool.false_ne_true]
      split
      · rw [done, (hmod _).1]
        exact .refl _
      · exact .refl _
  | returnValue =>
    by_cases hc : m.calls = []
    · simp only [execute, written?, hc, List.isEmpty_nil, if_true]
      exact .refl _
    · have hleave := leave_global hc
      simp only [execute, List.isEmpty_iff, hc, if_false]
      rcases hl : m.leave with ⟨m', e | ⟨⟩⟩
      all_goals
        rw [hl] at hleave
        rw [← hleave]
        exact .refl _
  | callPlugin index =>
    rw [← callPlugin_global]
    exact .refl _
  | _ =>
    simp only [execute, setB, readSlot, writeArgument, pushFrame, startFrame, readInput, emit, intern,
      written?]
    repeat' split
    all_goals exact .refl _

def stores? (m : Machine) (op : Operation) : Option (Nat × Constant) :=
  (m.written? op).bind fun (a, v, texts) => (texts.constant? v).map (a, ·)

theorem written?_lt {size : Nat} (h : m.global.Sound size) (hsize : 0 < size) {op : Operation}
    {a : Nat} {v : Value} {texts : TextStore} (hw : m.written? op = some (a, v, texts)) : a < size := by
  have haddress {operand : Int} (ha : m.writtenTo? operand = some (a, v, texts)) : a < size := by
    unfold writtenTo? Frame.address at ha
    split at ha
    · rename_i hok
      split at hok
      · cases ha
        cases hok
        have := h.size
        omega
      · cases hok
    · cases ha
  cases op with
  | writeGlobal operand => exact haddress hw
  | writeLocal operand => exact haddress (Option.ite_none_right_eq_some.mp hw).2
  | returnValue =>
    simp only [written?] at hw
    split at hw
    · obtain ⟨-, hw⟩ := Option.ite_none_right_eq_some.mp hw
      cases hw
      exact hsize
    · cases hw
  | callPlugin index =>
    simp only [written?] at hw
    repeat' split at hw
    all_goals first | cases hw; exact hsize | cases hw
  | _ => cases hw

theorem execute_slots {size : Nat} (h : m.global.Sound size) (hsize : 0 < size) (p : Program)
    (op : Operation) :
    (execute p m op).1.global.Sound size ∧ ∀ b, (execute p m op).1.global.constant? b =
      (m.stores? op).elim (m.global.constant? b)
        fun w => if b = w.1 then some w.2 else m.global.constant? b := by
  have hglobal := execute_global p m op
  unfold stores?
  cases hw : m.written? op with
  | none =>
    rw [hw] at hglobal
    exact ⟨hglobal.sound h, fun b => hglobal.constant b⟩
  | some w =>
    obtain ⟨a, v, texts⟩ := w
    have ha := written?_lt h hsize hw
    obtain ⟨hsound, hconstant⟩ := @Frame.Sound.afterStore m.global size a v texts h ha
    rw [hw] at hglobal
    refine ⟨hglobal.sound hsound, fun b => ?_⟩
    rw [hglobal.constant]
    simp only [afterWrite, hconstant, Option.bind_some]
    cases texts.constant? v <;> rfl

theorem execute_pc (p : Program) (m : Machine) (op : Operation) :
    (execute p m op).1.global.pc = m.global.pc := by
  rw [(execute_global p m op).pc]
  cases m.written? op with
  | none => rfl
  | some w => exact congrArg Control.pc Frame.control_afterStore

-- ---------------------------------------------------------------------------
-- Steps
-- ---------------------------------------------------------------------------

/-- The slot of the global frame that the next step writes, and the value. A function
that comes to its end gives Null. -/
def writes? (p : Program) (m : Machine) : Option (Nat × Constant) :=
  match m.segment? p with
  | none => none
  | some segment =>
    match segment.code[m.current.pc]? with
    | none => { m with b := .null }.stores? .returnValue
    | some instruction => if m.current.skip > 0 then none else m.advance.stores? instruction.op

def globalPlace? (p : Program) (m : Machine) : Option Nat :=
  if m.globalRuns && (m.next? p).isSome then some m.global.pc else none

theorem global_advance (m : Machine) : m.advance.global.pc = m.global.pc + m.globalRuns.toNat := by
  rw [advance, modifyCurrent_global]
  cases m.globalRuns <;> rfl

theorem constant_advance (m : Machine) (b : Nat) :
    m.advance.global.constant? b = m.global.constant? b := by
  rw [advance, modifyCurrent_global]
  split <;> rfl

theorem sound_advance {size : Nat} (h : m.global.Sound size) : m.advance.global.Sound size := by
  rw [advance, modifyCurrent_global]
  split
  · exact h.congr rfl rfl
  · exact h

/-- A step writes the slot that `writes?` tells and no other. -/
theorem step_global {size : Nat} (h : m.global.Sound size) (hsize : 0 < size) (p : Program) :
    (step p m).1.global.Sound size ∧ ∀ b, (step p m).1.global.constant? b =
      (m.writes? p).elim (m.global.constant? b)
        fun w => if b = w.1 then some w.2 else m.global.constant? b := by
  rcases hstep : step p m with ⟨m', r⟩
  -- Leaving a function at its end is returning Null.
  have hend {segment : Segment} {result : Except Fault Unit} (hs : m.segment? p = some segment)
      (hi : segment.code[m.current.pc]? = none) (hc : m.calls ≠ [])
      (hl : { m with b := .null }.leave = (m', result)) :
      m'.global.Sound size ∧ ∀ b, m'.global.constant? b = (m.writes? p).elim (m.global.constant? b)
        fun w => if b = w.1 then some w.2 else m.global.constant? b := by
    have hslots := execute_slots (m := { m with b := .null }) h hsize p .returnValue
    have hexecute : (execute p { m with b := .null } .returnValue).1 = m' := by
      simp only [execute, List.isEmpty_iff, hc, if_false, hl]
      cases result <;> rfl
    rw [hexecute] at hslots
    simpa only [writes?, hs, hi] using hslots
  have hrun {segment : Segment} {instruction : Instruction} {result : Except Fault Status}
      (hs : m.segment? p = some segment) (hi : segment.code[m.current.pc]? = some instruction)
      (hk : m.current.skip = 0) (he : execute p m.advance instruction.op = (m', result)) :
      m'.global.Sound size ∧ ∀ b, m'.global.constant? b = (m.writes? p).elim (m.global.constant? b)
        fun w => if b = w.1 then some w.2 else m.global.constant? b := by
    have hslots := execute_slots (sound_advance h) hsize p instruction.op
    rw [he] at hslots
    simpa only [writes?, hs, hi, hk, gt_iff_lt, Nat.lt_irrefl, if_false, constant_advance] using hslots
  cases stepped_of_step hstep with
  | noCode hs =>
    rw [writes?, hs]
    exact ⟨h, fun _ => rfl⟩
  | ended hs hi hc =>
    have hnone : m.writes? p = none := by simp [writes?, hs, hi, stores?, written?, hc]
    rw [hnone]
    exact ⟨h, fun _ => rfl⟩
  | returned hs hi hc hl => exact hend hs hi hc hl
  | stuck hs hi hc hl => exact hend hs hi hc hl
  | skipped hs hi hk =>
    have hnone : m.writes? p = none := by simp [writes?, hs, hi, hk]
    rw [hnone, modifyCurrent_global]
    split
    · exact ⟨h.congr rfl rfl, fun _ => rfl⟩
    · exact ⟨h, fun _ => rfl⟩
  | executed hs hi hk he => exact hrun hs hi hk he
  | failed hs hi hk he => exact hrun hs hi hk he

/-- A step moves the global frame past the instruction that it runs there. -/
theorem step_pc (p : Program) (m : Machine) :
    (step p m).1.global.pc = ((m.globalPlace? p).map (· + 1)).getD m.global.pc := by
  rcases hstep : step p m with ⟨m', r⟩
  have hstay (hn : m.next? p = none) : m.globalPlace? p = none := by simp [globalPlace?, hn]
  have hend {result : Except Fault Unit} (hl : { m with b := .null }.leave = (m', result))
      (hc : m.calls ≠ []) : m'.global.pc = m.global.pc := by
    have hpc := execute_pc p { m with b := .null } .returnValue
    have hexecute : (execute p { m with b := .null } .returnValue).1 = m' := by
      simp only [execute, List.isEmpty_iff, hc, if_false, hl]
      cases result <;> rfl
    rwa [hexecute] at hpc
  have hrun {instruction : Instruction} (hn : m.next? p = some instruction.op)
      (hpc : m'.global.pc = m.advance.global.pc) :
      m'.global.pc = ((m.globalPlace? p).map (· + 1)).getD m.global.pc := by
    rw [hpc, global_advance, globalPlace?, hn]
    cases m.globalRuns <;> rfl
  have hnext {segment : Segment} {instruction : Instruction} (hs : m.segment? p = some segment)
      (hi : segment.code[m.current.pc]? = some instruction) : m.next? p = some instruction.op := by
    simp [next?, hs, Segment.operations, hi]
  cases stepped_of_step hstep with
  | noCode hs => simp [hstay (by simp [next?, hs])]
  | ended hs hi => simp [hstay (by simpa [next?, hs, Segment.operations] using hi)]
  | returned hs hi hc hl =>
    rw [hstay (by simpa [next?, hs, Segment.operations] using hi), hend hl hc]
    rfl
  | stuck hs hi hc hl =>
    rw [hstay (by simpa [next?, hs, Segment.operations] using hi), hend hl hc]
    rfl
  | skipped hs hi hk =>
    refine hrun (hnext hs hi) ?_
    rw [advance, modifyCurrent_global, modifyCurrent_global]
    split <;> rfl
  | @executed _ instruction _ _ hs hi hk he =>
    refine hrun (hnext hs hi) ?_
    have hpc := execute_pc p m.advance instruction.op
    rwa [he] at hpc
  | @failed _ instruction _ _ hs hi hk he =>
    refine hrun (hnext hs hi) ?_
    have hpc := execute_pc p m.advance instruction.op
    rwa [he] at hpc

theorem globalPlace?_lt (hr : m.Rooted) {place : Nat} (h : m.globalPlace? p = some place) :
    place = m.global.pc ∧ place < p.globalLength := by
  unfold globalPlace? at h
  obtain ⟨hruns, h⟩ := Option.ite_none_right_eq_some.mp h
  cases h
  obtain ⟨hruns, hnext⟩ := Bool.and_eq_true_iff.mp hruns
  refine ⟨rfl, ?_⟩
  obtain ⟨op, hop⟩ := Option.isSome_iff_exists.mp hnext
  have hcur := current_of_globalRuns hruns
  obtain ⟨segment, hs, hop⟩ := Option.bind_eq_some_iff.mp hop
  have hglobal : p.segment? globalCode = some segment := by simpa [segment?, hcur, hr.1] using hs
  have hlt := (List.getElem?_eq_some_iff.mp hop).1
  rw [segment.length_operations, hcur] at hlt
  rw [Program.globalLength, hglobal]
  exact hlt

theorem step_pc_le (hr : m.Rooted) (h : m.global.pc ≤ p.globalLength) :
    m.global.pc ≤ (step p m).1.global.pc ∧ (step p m).1.global.pc ≤ p.globalLength := by
  rw [step_pc]
  cases hplace : m.globalPlace? p with
  | none => exact ⟨Nat.le_refl _, h⟩
  | some place =>
    obtain ⟨rfl, hlt⟩ := globalPlace?_lt hr hplace
    exact ⟨Nat.le_succ _, hlt⟩

-- ---------------------------------------------------------------------------
-- Where the next step is
-- ---------------------------------------------------------------------------

/-- The segment and the position of the next instruction. -/
def place? (m : Machine) : Option (Nat × Nat) :=
  match m.current.owner with
  | .code id => some (id, m.current.pc)
  | .plugin => none

theorem next?_place {op : Operation} (h : m.next? p = some op) :
    ∃ id pos, m.place? = some (id, pos) ∧ p.operation? id pos = some op ∧
      m.current.owner = .code id ∧ m.current.pc = pos := by
  obtain ⟨segment, hs, hop⟩ := Option.bind_eq_some_iff.mp h
  unfold segment? at hs
  split at hs
  · rename_i id howner
    exact ⟨id, m.current.pc, by simp [place?, howner], by simp [Program.operation?, hs, hop], howner, rfl⟩
  · cases hs

/-- What a step that writes the global frame is about to do: write the slot by its
number, in the global code maybe as a slot of its own, or give the result of a call. -/
theorem writes?_cases {a : Nat} {k : Constant} (h : m.writes? p = some (a, k)) :
    m.next? p = some (.writeGlobal a) ∨
      (m.globalRuns = true ∧ ∃ operand, m.next? p = some (.writeLocal operand)) ∨
      (a = 0 ∧ ∀ operand, m.next? p ≠ some (.writeGlobal operand) ∧
        m.next? p ≠ some (.writeLocal operand)) := by
  have hoperand {m : Machine} {operand : Int} {v : Value} {texts : TextStore}
      (hw : m.writtenTo? operand = some (a, v, texts)) : operand = a := by
    unfold writtenTo? Frame.address at hw
    split at hw
    · rename_i hok
      split at hok
      · rename_i hrange
        cases hw
        cases hok
        omega
      · cases hok
    · cases hw
  unfold writes? at h
  split at h
  · cases h
  · rename_i segment hs
    split at h
    · rename_i hi
      have hnext : m.next? p = none := by simpa [next?, hs, Segment.operations] using hi
      obtain ⟨⟨b, v, texts⟩, hw, hk⟩ := Option.bind_eq_some_iff.mp h
      obtain ⟨_, -, hk⟩ := Option.map_eq_some_iff.mp hk
      cases hk
      simp only [written?] at hw
      split at hw
      · obtain ⟨-, hw⟩ := Option.ite_none_right_eq_some.mp hw
        cases hw
        exact .inr (.inr ⟨rfl, by simp [hnext]⟩)
      · cases hw
    · rename_i instruction hi
      have hnext : m.next? p = some instruction.op := by
        simp [next?, hs, Segment.operations, hi]
      obtain ⟨-, h⟩ := Option.ite_none_left_eq_some.mp h
      obtain ⟨⟨b, v, texts⟩, hw, hk⟩ := Option.bind_eq_some_iff.mp h
      obtain ⟨_, -, hk⟩ := Option.map_eq_some_iff.mp hk
      cases hk
      rw [hnext]
      cases hop : instruction.op with rw [hop] at hw
      | writeGlobal operand => exact .inl (by rw [hoperand hw])
      | writeLocal operand =>
        obtain ⟨hruns, -⟩ := Option.ite_none_right_eq_some.mp hw
        refine .inr (.inl ⟨?_, operand, rfl⟩)
        rwa [globalRuns, advance, lastReady_modifyCurrent rfl] at hruns
      | returnValue =>
        simp only [written?] at hw
        split at hw
        · obtain ⟨-, hw⟩ := Option.ite_none_right_eq_some.mp hw
          cases hw
          exact .inr (.inr ⟨rfl, by simp⟩)
        · cases hw
      | callPlugin index =>
        simp only [written?] at hw
        repeat' split at hw
        all_goals first | cases hw; exact .inr (.inr ⟨rfl, by simp⟩) | cases hw
      | _ => cases hw

theorem step_readGlobal {size a : Nat} (h : m.global.Sound size) (ha : a < size)
    (hn : m.next? p = some (.readGlobal a)) (hk : m.current.skip = 0) :
    ∃ m', step p m = (m', .ok .normal) ∧ m'.texts.constant? m'.held = m.global.constant? a := by
  obtain ⟨segment, hs, hop⟩ := Option.bind_eq_some_iff.mp hn
  obtain ⟨instruction, hi, hop⟩ := segment.operations_getElem?.mp hop
  have hsound := sound_advance h
  obtain ⟨k, v, texts, hconstant, hload, -, hv, -⟩ := hsound.load_ok a m.advance.texts
  have he : execute p m.advance instruction.op =
      ({ m.advance with held := v, texts }, .ok .normal) := by
    simp only [hop, execute, readSlot, hsound.address ha]
    rw [hload]
    rfl
  refine ⟨_, (Stepped.executed hs hi hk he).step_eq, ?_⟩
  rw [← constant_advance, hconstant]
  exact hv

-- ---------------------------------------------------------------------------
-- The frames of calls
-- ---------------------------------------------------------------------------

def CallsAre (owned : FrameOwner → Prop) (m : Machine) : Prop := ∀ f ∈ m.calls, owned f.owner

variable {owned : FrameOwner → Prop}

theorem callsAre_iff : m.CallsAre owned ↔ ∀ seat ∈ m.roster.dropLast, owned seat.1 := by
  simp [roster_eq, CallsAre]

theorem calls_step (h : m.CallsAre owned) (hplugin : owned .plugin)
    (hp : ∀ id s, p.segment? id = some s → ∀ code : Nat, .newFrame code ∈ s.operations →
      owned (.code code)) : (step p m).1.CallsAre owned := by
  have hinvariant : RosterInvariant p (∀ seat ∈ ·.dropLast, owned seat.1) := by
    refine ⟨?_, ?_, ?_⟩
    · intro id segment code owner rest hs hop howner _ h
      have howned : owned owner := by
        rcases howner with rfl | ⟨callee, rfl, rfl⟩
        · exact hplugin
        · exact hp id segment hs callee hop
      cases rest with
      | nil => nofun
      | cons next rest => exact List.forall_mem_cons.mpr ⟨howned, h⟩
    · intro owner rest hne h
      rw [List.dropLast_cons_of_ne_nil hne, List.forall_mem_cons] at h ⊢
      exact h
    · intro first rest hne h
      rw [List.dropLast_cons_of_ne_nil hne, List.forall_mem_cons] at h
      exact h.2
  exact callsAre_iff.mpr (hinvariant.step (callsAre_iff.mp h))

end
end Machine
end Birl
