import Birl.Proofs.Compiler.Representation
import Birl.Proofs.Session.History
import Mathlib.Data.Nat.Find

/-!
# Interactive sessions between requests

An interactive session runs its code whenever no block is open, and recovers from what
fails. So between requests no call is under way and nothing is skipped, and the machine
stands before the blocks that are still open: at the end of the code if there are none,
unless a return at top level stopped a run short (`interactive_session_clean`).
-/

namespace Birl

/-- The last place of code where no block is open: where the blocks begin that are still
open at its end, or the end if there are none. -/
def openStart (code : List Operation) : Nat :=
  Nat.findGreatest (fun place => conditions (code.take place) = some []) code.length

theorem openStart_of_closed {code : List Operation} (h : conditions code = some []) :
    openStart code = code.length := by
  refine Nat.le_antisymm (Nat.findGreatest_le _) (Nat.le_findGreatest (Nat.le_refl _) ?_)
  rwa [List.take_length]

theorem openStart_append (code more : List Operation) : openStart code ≤ openStart (code ++ more) := by
  have hle : openStart code ≤ code.length := Nat.findGreatest_le _
  have hopen : conditions (code.take (openStart code)) = some [] :=
    Nat.findGreatest_spec (P := fun place => conditions (code.take place) = some []) (Nat.zero_le _)
      (by simp [conditions])
  refine Nat.le_findGreatest (by simp; omega) ?_
  rwa [List.take_append_of_le_length hle]

theorem Compiler.Reachable.conditions_global {c : Compiler} (h : c.Reachable) (hd : c.depth = 0) :
    conditions c.program.globalOperations = some [] := by
  obtain ⟨more, hs⟩ := h.base globalCode _ rfl
  have hopen := h.balanced globalCode _ hs
  have hblocks : c.blocks.length = 0 := by
    unfold depth at hd
    omega
  rw [hblocks, ite_self] at hopen
  obtain ⟨enclosing, henclosing, hlength⟩ := hopen.conditions
  rw [Program.globalOperations, hs]
  exact henclosing.trans (congrArg some (List.eq_nil_of_length_eq_zero hlength))

namespace Machine

-- ---------------------------------------------------------------------------
-- How a run ends
-- ---------------------------------------------------------------------------

/-- The global frame stands in its code and skips at most the blocks that it is in. -/
structure Threaded (p : Program) (m : Machine) : Prop where
  rooted : m.Rooted
  pc_le : m.global.pc ≤ p.globalLength
  skip_le : ∀ enclosing, conditions (p.globalOperations.take m.global.pc) = some enclosing →
    m.global.skip ≤ enclosing.length

section
variable {p : Program} {m m' last : Machine} {r : Except Error Status}

theorem Threaded.of_idle (hr : m.Rooted) (hpc : m.global.pc ≤ p.globalLength)
    (hs : m.global.skip = 0) : Threaded p m :=
  ⟨hr, hpc, fun _ _ => hs ▸ Nat.zero_le _⟩

theorem counted_le {c : Comparison} {skip : Nat} {op : Operation} {enclosing after : List Requirement}
    (h : skip ≤ enclosing.length) (ho : op.enclose enclosing = some after) :
    counted c skip op ≤ after.length := by
  cases op with
  | executeIf requirement =>
    cases ho
    simp only [counted, skipAfter, List.length_cons]
    split
    · omega
    · split <;> omega
  | endIf =>
    cases enclosing with
    | nil => simp [Operation.enclose] at ho
    | cons outer rest =>
      cases ho
      simp only [counted, skipAfter, List.length_cons] at h ⊢
      split <;> omega
  | _ =>
    cases ho
    simp only [counted, skipAfter]
    split <;> omega

theorem stack_global (m : Machine) : m.stack.reverse[0]? = some m.global.control := by
  simp [stack, frames]

theorem height_eq_zero (m : Machine) : 0 = m.height ↔ m.globalRuns = true := by
  unfold height globalRuns
  rcases lastReady_cases m.calls with ⟨above, f, below, hcalls, habove, hf, hlast, -⟩ |
    ⟨hcalls, hlast, -⟩
  · have hstack : m.stack =
        above.map Frame.control ++ f.control :: (below ++ [m.global]).map Frame.control := by
      simp [stack, frames, hcalls]
    rw [hstack, running_split (by simpa [Frame.control] using habove) (.inl hf), hlast]
    simp
  · have hstack : m.stack = m.calls.map Frame.control ++ m.global.control :: [] := by
      simp [stack, frames]
    rw [hstack, running_split (by simpa [Frame.control] using hcalls) (.inr rfl), hlast]
    simp

theorem next?_global (hr : m.Rooted) (hruns : m.globalRuns = true) :
    m.next? p = p.globalOperations[m.global.pc]? := by
  have hcur := current_of_globalRuns hruns
  have hsegment : m.segment? p = p.segment? globalCode := by simp [segment?, hcur, hr.1]
  rw [next?, hsegment, hcur, Program.globalOperations]
  cases p.segment? globalCode <;> rfl

theorem Threaded.step (h : Threaded p m) {status : Status} (hs : step p m = (m', .ok status)) :
    Threaded p m' := by
  have hrooted := h.rooted.step p
  have hpc := (step_pc_le h.rooted h.pc_le).2
  rw [hs] at hrooted hpc
  refine ⟨hrooted, hpc, fun enclosing henclosing => ?_⟩
  obtain ⟨ready, hglobal⟩ := step_getElem? hs (Nat.succ_pos _) m.stack_global
  rw [stack_global, Option.some.injEq] at hglobal
  have hpc' := congrArg Control.pc hglobal
  have hskip' := congrArg Control.skip hglobal
  simp only [Frame.control] at hpc' hskip'
  rw [hskip']
  rw [hpc'] at henclosing
  by_cases hruns : 0 = m.height
  · rw [if_pos hruns, next?_global h.rooted (m.height_eq_zero.mp hruns)] at henclosing ⊢
    cases hop : p.globalOperations[m.global.pc]? with
    | none =>
      rw [hop] at henclosing
      exact h.skip_le enclosing henclosing
    | some op =>
      rw [hop] at henclosing
      have htake : p.globalOperations.take (m.global.pc + 1) =
          p.globalOperations.take m.global.pc ++ [op] := by
        rw [List.take_add_one, hop]
        rfl
      simp only [Option.elim_some, Control.passed, htake, conditions_append] at henclosing
      obtain ⟨before, hbefore, hafter⟩ := Option.bind_eq_some_iff.mp henclosing
      exact counted_le (h.skip_le before hbefore) (by simpa using hafter)
  · rw [if_neg hruns] at henclosing ⊢
    exact h.skip_le enclosing henclosing

theorem Reaches.threaded (h : Reaches p m last) (hm : Threaded p m) : Threaded p last := by
  induction h with
  | refl => exact hm
  | step hs _ _ ih => exact ih (hm.step hs)

theorem Reaches.visits (h : Reaches p m last) (hd : m.depth ≤ maxCallDepth)
    (hs : Machine.step p last = (m', r)) (hr : Stops r) {steps : Nat} (hl : left p m < steps) :
    ∃ init, m.visits p steps = init ++ [last] := by
  induction h generalizing steps with
  | refl m =>
    cases steps with
    | zero => omega
    | succ steps =>
      rw [Machine.visits, hs]
      cases r with
      | ok status => exact ⟨[], by simp [hr status rfl]⟩
      | error e => exact ⟨[], rfl⟩
  | @step m m₁ last status hs₁ hf _ ih =>
    cases steps with
    | zero => omega
    | succ steps =>
      obtain ⟨hless, hd₁⟩ := left_step hd hs₁ hf
      obtain ⟨init, hinit⟩ : ∃ init, m₁.visits p steps = init ++ [last] := ih hd₁ hs (by omega)
      exact ⟨m :: init, by simp [Machine.visits, hs₁, hf, hinit]⟩

/-- The machine is in the global frame and skips nothing. -/
structure AtRest (m : Machine) : Prop where
  calls : m.calls = []
  skip : m.global.skip = 0

/-- A run of code whose blocks are closed: it comes to the end of the code, or the last
step that it takes is a return at top level, or the program quits or fails. -/
theorem run_ends (hm : m.AtRest) (hr : m.Rooted) (hpc : m.global.pc ≤ p.globalLength)
    (hclosed : conditions p.globalOperations = some []) (h : Machine.run p m = (m', r)) :
    (r = .ok .halt ∧ m'.AtRest ∧ (m'.global.pc = p.globalLength ∨
      ∃ init last, m.runEvents p = init ++ [.stepped p last] ∧ ReturnsGlobally p last)) ∨
    r = .ok .quit ∨ ∃ e, r = .error e := by
  have hd : m.depth ≤ maxCallDepth := by
    rw [depth, hm.calls]
    decide
  obtain ⟨m₁, ⟨last, hreaches, hs, hstop⟩, rfl⟩ := ends_of_run hd h
  rcases r with e | status
  · exact .inr (.inr ⟨e, rfl⟩)
  cases hstatus : status with
  | normal => exact absurd (hstop status rfl) (by simp [hstatus, Status.isFinal])
  | returned => exact absurd (hstop status rfl) (by simp [hstatus, Status.isFinal])
  | quit => exact .inr (.inl rfl)
  | halt =>
    rw [hstatus] at hs
    have hthreaded := hreaches.threaded (.of_idle hr hpc hm.skip)
    refine .inl ⟨rfl, ?_⟩
    by_cases hend : AtEnd p last
    · rw [hend.step] at hs
      obtain ⟨rfl, -⟩ := Prod.mk.inj hs
      obtain ⟨segment, hsegment, hcode⟩ := hend.code
      have hpc' : last.global.pc = p.globalLength := by
        refine Nat.le_antisymm hthreaded.pc_le ?_
        have hnext : last.next? p = none := by
          simpa [next?, hsegment, Segment.operations] using hcode
        rw [next?_global hthreaded.rooted (globalRuns_of_calls hend.calls)] at hnext
        rw [← p.length_globalOperations]
        exact List.getElem?_eq_none_iff.mp hnext
      have hskip := hthreaded.skip_le [] (by
        rw [hpc', ← p.length_globalOperations, List.take_length, hclosed])
      exact ⟨⟨hend.calls, Nat.le_zero.mp hskip⟩, .inl hpc'⟩
    · have hreturns := returnsGlobally_of_halt hs hend
      obtain ⟨hcalls, hskip, segment, instruction, hsegment, hcode, hop⟩ :=
        returnsGlobally_of_halt hs hend
      have hadvance : last.advance = { last with global :=
          { last.global with pc := last.global.pc + 1 } } :=
        modifyCurrent_of_globalRuns (globalRuns_of_calls hcalls) _
      have hexecute : execute p last.advance instruction.op = (last.advance, .ok .halt) := by
        rw [hop, hadvance]
        simp [execute, hcalls]
      have hstepped := (Stepped.executed hsegment hcode hskip hexecute).step_eq
      obtain ⟨init, hinit⟩ := hreaches.visits hd hstepped (hstatus ▸ hstop) (left_lt_stepBound p hd)
      rw [hstepped] at hs
      obtain ⟨rfl, -⟩ := Prod.mk.inj hs
      rw [current_of_calls hcalls] at hskip
      rw [hadvance]
      exact ⟨⟨hcalls, hskip⟩, .inr ⟨init.map (.stepped p), last, by simp [runEvents, hinit], hreturns⟩⟩

end
end Machine

-- ---------------------------------------------------------------------------
-- Returns at top level
-- ---------------------------------------------------------------------------

/-- The step executes a return in the global frame. -/
def Event.Returns : Event → Prop
  | .stepped p m => Machine.ReturnsGlobally p m
  | _ => False

/-- No code is left to run. -/
def Event.Exhausts : Event → Prop
  | .stepped p m => Machine.AtEnd p m
  | .recovered => True
  | _ => False

/-- A return was executed in the global frame since there was last no code left. -/
def Returned (events : List Event) : Prop :=
  ∃ before e after, events = before ++ e :: after ∧ e.Returns ∧ ∀ x ∈ after, ¬x.Exhausts

theorem Returned.append {events more : List Event} (h : Returned events)
    (hm : ∀ x ∈ more, ¬x.Exhausts) : Returned (events ++ more) := by
  obtain ⟨before, e, after, rfl, he, hafter⟩ := h
  exact ⟨before, e, after ++ more, by simp, he, List.forall_mem_append.mpr ⟨hafter, hm⟩⟩

def Event.place? : Event → Option Nat
  | .stepped p m => m.globalPlace? p
  | _ => none

namespace Session

/-- Every instruction of the global code that was come to lies behind, and none was come
to twice. -/
structure Passed (s : Session) (events : List Event) : Prop where
  grounded : Grounded s
  increasing : (events.filterMap Event.place?).Pairwise (· < ·)
  behind : ∀ place ∈ events.filterMap Event.place?, place < s.machine.global.pc

/-- The machine waits for more code. -/
structure Ready (s : Session) (events : List Event) : Prop where
  atRest : s.machine.AtRest
  pc_le : s.machine.global.pc ≤ openStart s.program.globalOperations
  exhausted : s.depth = 0 → Returned events ∨ s.machine.global.pc = s.program.globalLength

/-- An interactive session between requests. -/
structure Clean (s : Session) (events : List Event) : Prop where
  grounded : Grounded s
  interactive : s.interactive = true
  depth : s.depth = s.compiler.depth
  ready : s.quit = false → Ready s events

section
variable {s s' s'' : Session} {events more : List Event}

-- ---------------------------------------------------------------------------
-- Nothing is run twice
-- ---------------------------------------------------------------------------

theorem Passed.silent (h : Passed s events) (hg : Grounded s')
    (hm : more.filterMap Event.place? = []) (hpc : s.machine.global.pc ≤ s'.machine.global.pc) :
    Passed s' (events ++ more) := by
  refine ⟨hg, ?_, ?_⟩
  all_goals rw [List.filterMap_append, hm, List.append_nil]
  · exact h.increasing
  · exact fun place hp => Nat.lt_of_lt_of_le (h.behind place hp) hpc

theorem Move.passed (hm : Move s more s') (h : Passed s events) : Passed s' (events ++ more) := by
  have hg := hm.grounded h.grounded
  cases hm with
  | stepped =>
    have hpc := Machine.step_pc s.program s.machine
    cases hplace : s.machine.globalPlace? s.program with
    | none =>
      rw [hplace] at hpc
      exact h.silent hg (by simp [Event.place?, hplace]) (Nat.le_of_eq hpc.symm)
    | some place =>
      obtain ⟨rfl, -⟩ := Machine.globalPlace?_lt h.grounded.rooted hplace
      rw [hplace] at hpc
      have hpc : (s.machine.step s.program).1.global.pc = s.machine.global.pc + 1 := hpc
      have hadded : (events ++ [Event.stepped s.program s.machine]).filterMap Event.place? =
          events.filterMap Event.place? ++ [s.machine.global.pc] := by
        simp [Event.place?, hplace]
      refine ⟨hg, ?_, ?_⟩
      all_goals rw [hadded]
      · refine List.pairwise_append.mpr ⟨h.increasing, List.pairwise_singleton _ _, ?_⟩
        intro place hp _ hq
        cases List.mem_singleton.mp hq
        exact h.behind place hp
      · refine List.forall_mem_append.mpr ⟨fun place hp => ?_, ?_⟩
        · exact Nat.lt_of_lt_of_le (h.behind place hp) (by rw [hpc]; exact Nat.le_succ _)
        · intro place hp
          cases List.mem_singleton.mp hp
          rw [hpc]
          exact Nat.lt_succ_self _
  | stored hg' hs =>
    obtain ⟨-, rfl, -⟩ := setGlobal_stored hs
    refine h.silent hg rfl (Nat.le_of_eq ?_)
    exact (congrArg Control.pc Frame.control_afterStore).symm
  | recovered => exact h.silent hg rfl h.grounded.pc_le
  | _ => exact h.silent hg rfl (Nat.le_refl _)

theorem Moves.passed (hm : Moves s more s') (hg : Grounded s) : Passed s' more := by
  have hstart : Passed s [] := ⟨hg, .nil, by simp⟩
  exact hm.keeps (fun _ _ _ _ h hm => hm.passed h) hstart

-- ---------------------------------------------------------------------------
-- Runs
-- ---------------------------------------------------------------------------

theorem clean_runAndRecover {p : Program} {m : Machine} (hp : s.program = p) (hm : s.machine = m)
    (hg : Grounded s) (hi : s.interactive = true) (hd : s.depth = s.compiler.depth)
    (hzero : s.depth = 0) (hrest : s.quit = false → m.AtRest) :
    Clean s.runAndRecover.1 (events ++ m.runAndRecoverEvents p) := by
  subst hp hm
  have hg' := (moves_runAndRecover (s := s) rfl rfl).grounded hg
  have hclosed : conditions s.program.globalOperations = some [] :=
    hg.compiler.conditions_global (hd ▸ hzero)
  have hlength : openStart s.program.globalOperations = s.program.globalLength := by
    rw [openStart_of_closed hclosed, Program.length_globalOperations]
  rcases hrun : s.machine.run s.program with ⟨machine, r⟩
  obtain ⟨log, heq⟩ := runAndRecover_eq hrun
  rw [heq] at hg' ⊢
  rw [Machine.runAndRecoverEvents, hrun]
  cases r with
  | error e => exact ⟨hg', hi, hd, fun _ => ⟨⟨rfl, rfl⟩, Nat.le_of_eq hlength.symm, fun _ => .inr rfl⟩⟩
  | ok status =>
    refine ⟨hg', hi, hd, fun hq => ?_⟩
    obtain ⟨hquit, hstatus⟩ := Bool.or_eq_false_iff.mp hq
    have hend := Machine.run_ends (hrest hquit) hg.rooted hg.pc_le hclosed hrun
    rw [List.append_nil]
    rcases hend with ⟨-, hatRest, hpc⟩ | hquits | ⟨e, he⟩
    · refine ⟨hatRest, Nat.le_trans hg'.pc_le (Nat.le_of_eq hlength.symm), fun _ => ?_⟩
      rcases hpc with hpc | ⟨init, last, hevents, hreturns⟩
      · exact .inr hpc
      · exact .inl ⟨events ++ init, .stepped s.program last, [], by simp [hevents], hreturns, by simp⟩
    · cases hquits
      simp at hstatus
    · cases he

-- ---------------------------------------------------------------------------
-- Requests that run nothing
-- ---------------------------------------------------------------------------

/-- Nothing moves and no code is added. -/
structure Still (s s' : Session) : Prop where
  interactive : s'.interactive = s.interactive
  depth : s'.depth = s.depth
  quit : s'.quit = s.quit
  program : s'.program = s.program
  open_eq : s'.compiler.depth = s.compiler.depth
  calls : s'.machine.calls = s.machine.calls
  control : s'.machine.global.control = s.machine.global.control

theorem Still.refl (s : Session) : Still s s := ⟨rfl, rfl, rfl, rfl, rfl, rfl, rfl⟩

theorem Still.trans (h : Still s s') (h' : Still s' s'') : Still s s'' :=
  ⟨h'.interactive.trans h.interactive, h'.depth.trans h.depth, h'.quit.trans h.quit,
    h'.program.trans h.program, h'.open_eq.trans h.open_eq, h'.calls.trans h.calls,
    h'.control.trans h.control⟩

theorem Clean.still (h : Clean s events) (hs : Still s s') (hg : Grounded s')
    (hm : ∀ e ∈ more, ¬e.Exhausts) : Clean s' (events ++ more) := by
  refine ⟨hg, hs.interactive.trans h.interactive, ?_, fun hq => ?_⟩
  · rw [hs.depth, hs.open_eq, h.depth]
  · obtain ⟨hatRest, hpc, hend⟩ := h.ready (hs.quit ▸ hq)
    have hpc' : s'.machine.global.pc = s.machine.global.pc := congrArg Control.pc hs.control
    have hskip' : s'.machine.global.skip = s.machine.global.skip := congrArg Control.skip hs.control
    refine ⟨⟨hs.calls.trans hatRest.calls, hskip'.trans hatRest.skip⟩, ?_, fun hzero => ?_⟩
    · rw [hpc', hs.program]
      exact hpc
    · rw [hpc', hs.program]
      exact (hend (hs.depth ▸ hzero)).imp_left fun hr => hr.append hm

theorem still_texts (s : Session) (texts : TextStore) :
    Still s { s with machine := { s.machine with texts } } := ⟨rfl, rfl, rfl, rfl, rfl, rfl, rfl⟩

theorem still_getGlobal (s : Session) (name : Text) : Still s (s.getGlobal name).1 :=
  getGlobal_induct (.refl s) fun texts _ => still_texts s texts

theorem still_setGlobal (s : Session) (name : Text) (v : Value) : Still s (s.setGlobal name v).1 := by
  refine setGlobal_induct (.refl s) fun symbol machine _ hs => ?_
  obtain ⟨global, rfl, hcontrol⟩ := Machine.setGlobal_ok hs
  exact ⟨rfl, rfl, rfl, rfl, rfl, rfl, hcontrol⟩

theorem still_registerGlobal (s : Session) (name : Text) (v : Value) (readOnly : Bool) :
    Still s (s.registerGlobal name v readOnly).1 := by
  rcases hd : s.compiler.declareGlobal name readOnly with e | ⟨address, compiler⟩
  · simp only [registerGlobal, hd]
    exact .refl s
  · rw [registerGlobal_eq hd]
    obtain ⟨-, symbol, -, hdeclares⟩ := Compiler.declareGlobal_ok hd
    obtain ⟨-, hprogram, -, -, -, hdepth⟩ := hdeclares.keeps
    have hstill : Still s { s with compiler } := ⟨rfl, rfl, rfl, hprogram, hdepth, rfl, rfl⟩
    exact hstill.trans (still_setGlobal _ name v)

theorem still_registerPlugin (s : Session) (name : Text) (params : List ParameterKind)
    (call : Option Callback) : Still s (s.registerPlugin name params call).1 := by
  cases call with
  | none => exact .refl s
  | some call =>
    refine registerPlugin_induct (.refl s) ⟨rfl, rfl, rfl, rfl, rfl, rfl, rfl⟩ fun compiler hr => ?_
    obtain ⟨-, -, rfl⟩ := Compiler.registerPlugin_ok hr
    exact ⟨rfl, rfl, rfl, rfl, rfl, rfl, rfl⟩

theorem still_fetch (s : Session) (name : Text) : Still s (s.fetch name).1 := by
  rw [fetch_fst]
  exact still_getGlobal s name

theorem still_assign (s : Session) (name : Text) (v : HostValue) : Still s (s.assign name v).1 := by
  rcases hv : v.toValue s.machine.texts with ⟨e | v', texts⟩
  all_goals
    have htexts := still_texts s texts
    simp only [assign, hv]
  · exact htexts
  · have hget := htexts.trans (still_getGlobal _ name)
    rcases hg : getGlobal { s with machine := { s.machine with texts } } name with ⟨s', e | _⟩
    all_goals rw [hg] at hget
    · exact hget.trans (still_registerGlobal s' name v' false)
    · exact hget.trans (still_setGlobal s' name v')

theorem setEvents_not_exhausts (s : Session) (name : Text) (v : Value) :
    ∀ e ∈ s.setEvents name v, ¬e.Exhausts := by
  unfold setEvents
  split
  · simp
  · split <;> simp [Event.Exhausts]

theorem registerEvents_not_exhausts (s : Session) (name : Text) (v : Value) (readOnly : Bool) :
    ∀ e ∈ s.registerEvents name v readOnly, ¬e.Exhausts := by
  unfold registerEvents
  split
  · simp
  · exact List.forall_mem_cons.mpr ⟨id, setEvents_not_exhausts _ name v⟩

theorem assignEvents_not_exhausts (s : Session) (name : Text) (v : HostValue) :
    ∀ e ∈ s.assignEvents name v, ¬e.Exhausts := by
  unfold assignEvents
  simp only
  split
  · simp
  · split
    · exact setEvents_not_exhausts _ name _
    · exact registerEvents_not_exhausts _ name _ false

-- ---------------------------------------------------------------------------
-- Requests
-- ---------------------------------------------------------------------------

theorem Clean.feed (h : Clean s events) (source : Text) :
    Clean (s.feed source).1 (events ++ s.feedEvents source) := by
  have hg := (moves_feed s source).grounded h.grounded
  rcases s.feed_cases source with ⟨cmd, hint, compiler, hl, hc⟩ | ⟨hevents, hfeed⟩
  · obtain ⟨s', ⟨log, hs'⟩, hfeed⟩ := feed_compiled hl hc
    have hdepth : hint.after s.depth = compiler.depth := by
      rw [Compiler.depth_compile hc, h.depth]
    have hg' : Grounded s' := by
      rw [hs']
      exact ((Move.compiled hc).moves.silent (Move.noted _ _ _ _ _ _).moves).grounded h.grounded
    have hprogram : s.program.Extends s'.program := by
      rw [hs']
      exact (Compiler.widens_compile hc).program
    have hrest (hq : s'.quit = false) : s'.machine.AtRest := by
      rw [hs'] at hq ⊢
      exact (h.ready hq).atRest
    rw [feedEvents_compiled hl hc]
    rw [hfeed] at hg ⊢
    by_cases hopen : (!s.interactive || hint.after s.depth > 0) = true
    · rw [if_pos hopen, if_pos hopen]
      refine ⟨hg', ?_, ?_, fun hq => ⟨hrest hq, ?_, fun hzero => ?_⟩⟩
      · rw [hs']
        exact h.interactive
      · rw [hs']
        exact hdepth
      · obtain ⟨more, hmore⟩ := hprogram.globalOperations
        have hpc : s'.machine.global.pc ≤ openStart s.program.globalOperations := by
          rw [hs'] at hq ⊢
          exact (h.ready hq).pc_le
        rw [hmore]
        exact Nat.le_trans hpc (openStart_append _ _)
      · rw [hs'] at hzero
        simp only [h.interactive, Bool.not_true, Bool.false_or, decide_eq_true_eq] at hopen
        exact absurd hzero (Nat.ne_of_gt hopen)
    · rw [if_neg hopen, if_neg hopen]
      have hzero : hint.after s.depth = 0 := by
        simp only [Bool.or_eq_true, decide_eq_true_eq, not_or] at hopen
        omega
      rw [List.append_cons]
      exact clean_runAndRecover (by rw [hs']; rfl) (by rw [hs']) hg' (by rw [hs']; exact h.interactive)
        (by rw [hs']; exact hdepth) (by rw [hs']; exact hzero) fun hq => by
          rw [hs'] at hq
          exact (h.ready hq).atRest
  · rw [hevents, hfeed]
    have hstill : Still s { s with line := s.line + 1 } := ⟨rfl, rfl, rfl, rfl, rfl, rfl, rfl⟩
    rw [hfeed] at hg
    exact h.still hstill hg (by simp)

theorem Clean.feedLines (h : Clean s events) (lines : List Text) :
    Clean (s.feedLines lines).1 (events ++ s.feedLinesEvents lines) := by
  induction lines generalizing s events with
  | nil => simpa [Session.feedLines, feedLinesEvents] using h
  | cons line rest ih =>
    have hfeed := h.feed line
    simp only [feedLinesEvents, Session.feedLines]
    rcases hf : s.feed line with ⟨s', e | ⟨⟩⟩
    all_goals rw [hf] at hfeed
    · simpa using hfeed
    · simp only
      split
      · simpa using hfeed
      · rw [← List.append_assoc]
        exact ih hfeed

theorem Clean.runEntryPoint (h : Clean s events) :
    Clean s.runEntryPoint.1 (events ++ s.runEntryPointEvents) := by
  rw [runEntryPoint_eq, runEntryPointEvents]
  split
  · simpa using h
  · rename_i hcall
    simp only [Bool.or_eq_true, decide_eq_true_eq, not_or] at hcall
    have hzero : s.depth = 0 := by omega
    let s' : Session := logged { s with entryRun := true, compiler := s.compiler.appendEntryCall s.line }
      .debug "calling entry point" [("line", .int s.line)]
    have hg : Grounded s' := by
      have hmoves : Moves s [] { s with entryRun := true, compiler := s.compiler.appendEntryCall s.line } :=
        (Move.entryCall s s.line).moves.silent (Move.noted _ _ _ _ _ _).moves
      exact (hmoves.silent (moves_logged _ _ _ _)).grounded h.grounded
    exact clean_runAndRecover rfl rfl hg h.interactive h.depth hzero fun hq => (h.ready hq).atRest

end
end Session

/-- Whether a request leaves it to the session when to run and to recover. -/
def Request.isInteractive : Request → Bool
  | .runProgram | .recover => false
  | _ => true

namespace Session

section
variable {s : Session} {events : List Event}

theorem Clean.perform (h : Clean s events) {request : Request} (hr : request.isInteractive = true) :
    Clean (s.perform request) (events ++ s.events request) := by
  have hg := (moves_perform s request).grounded h.grounded
  cases request with
  | feed source => exact h.feed source
  | feedSource source => exact h.feedLines source.lines
  | runProgram => cases hr
  | recover => cases hr
  | runEntryPoint => exact h.runEntryPoint
  | registerGlobal name v readOnly =>
    exact h.still (still_registerGlobal s name v readOnly) hg (registerEvents_not_exhausts s name v readOnly)
  | setGlobal name v => exact h.still (still_setGlobal s name v) hg (setEvents_not_exhausts s name v)
  | getGlobal name => exact h.still (still_getGlobal s name) hg (by simp [Session.events])
  | registerPlugin name params call =>
    exact h.still (still_registerPlugin s name params call) hg (by simp [Session.events])
  | intern k => exact h.still (still_texts s _) hg (by simp [Session.events])
  | assign name v => exact h.still (still_assign s name v) hg (assignEvents_not_exhausts s name v)
  | fetch name => exact h.still (still_fetch s name) hg (by simp [Session.events])
  | eval source =>
    have hfeed := h.feedLines source.lines
    simp only [Session.perform, Session.events, Session.eval, Session.feedSource] at hg ⊢
    split
    · simpa using h
    · rename_i hq
      rw [if_neg hq] at hg
      rcases hf : s.feedLines source.lines with ⟨s', e | ⟨⟩⟩
      all_goals rw [hf] at hfeed hg
      · exact hfeed
      · have hfetch : Clean _ (_ ++ []) := hfeed.still (still_fetch s' returnName) hg (by simp)
        simpa using hfetch

theorem Clean.performAll (h : Clean s events) {requests : List Request}
    (hr : ∀ request ∈ requests, request.isInteractive = true) :
    Clean (s.performAll requests) (events ++ s.history requests) := by
  induction requests generalizing s events with
  | nil => simpa [Session.performAll, history] using h
  | cons request rest ih =>
    obtain ⟨hrequest, hrest⟩ := List.forall_mem_cons.mp hr
    rw [history, ← List.append_assoc]
    exact ih (h.perform hrequest) hrest

theorem still_new {options : SessionOptions} (h : Session.new options = .ok s) :
    Still (start options) s := by
  refine new_induct (.refl _) ?_ ?_ ?_ h
  · exact fun s k hs => hs.trans (still_texts s _)
  · exact fun s name v readOnly hs => hs.trans (still_registerGlobal s name v readOnly)
  · exact fun s plugin _ hs => hs.trans (still_registerPlugin s _ _ _)

theorem clean_new {options : SessionOptions} (h : Session.new options = .ok s)
    (hi : options.interactive = true) : Clean s [] := by
  have hstart : Clean (start options) [] :=
    ⟨grounded_start options, hi, rfl, fun _ => ⟨⟨rfl, rfl⟩, Nat.zero_le _, fun _ => .inr rfl⟩⟩
  have hnew : Clean s ([] ++ []) := hstart.still (still_new h) (grounded_new h) (by simp)
  exact hnew

end
end Session

/-- Whatever an interactive session was asked for, and whatever failed, it counts the
blocks that are open, and unless the program has quit its machine is in the global frame,
skips nothing and stands before the code of the open blocks. With no block open it stands
at the end of the code, unless a return stopped it there since it last was. No instruction
of the global code is come to twice. -/
theorem interactive_session_clean {options : SessionOptions} {s₀ : Session}
    (h : Session.new options = .ok s₀) (hi : options.interactive = true) {requests : List Request}
    (hr : ∀ request ∈ requests, request.isInteractive = true) :
    (s₀.performAll requests).compiler.scopes.length = (s₀.performAll requests).depth + 1 ∧
    ((s₀.performAll requests).quit = false →
      (s₀.performAll requests).machine.calls = [] ∧
      (s₀.performAll requests).machine.global.owner = .code globalCode ∧
      (s₀.performAll requests).machine.global.ready = true ∧
      (s₀.performAll requests).machine.global.skip = 0 ∧
      (s₀.performAll requests).machine.global.pc ≤
        openStart (s₀.performAll requests).program.globalOperations ∧
      ((s₀.performAll requests).depth = 0 → ¬Returned (s₀.history requests) →
        (s₀.performAll requests).machine.global.pc =
          (s₀.performAll requests).program.globalLength)) ∧
    ((s₀.history requests).filterMap Event.place?).Pairwise (· < ·) ∧
    ∀ place ∈ (s₀.history requests).filterMap Event.place?,
      place < (s₀.performAll requests).machine.global.pc := by
  have hclean := (Session.clean_new h hi).performAll hr
  have hpassed := (Session.moves_performAll s₀ requests).passed (Session.grounded_new h)
  refine ⟨?_, fun hq => ?_, hpassed.increasing, hpassed.behind⟩
  · rw [Compiler.length_scopes, hclean.depth]
  · obtain ⟨hatRest, hpc, hend⟩ := hclean.ready hq
    obtain ⟨howner, hready⟩ := hclean.grounded.rooted
    exact ⟨hatRest.calls, howner, hready, hatRest.skip, hpc,
      fun hzero hreturned => (hend hzero).resolve_left hreturned⟩

def smallInteractive : SessionOptions := { interactive := true, library := false, frameSize := 4 }

/-- A line that fails when it runs, and one that reads the variable that it declared. -/
def failingRequests : List Request := [.feed "VEM: X, 1 / 0", .feed "CE QUER VER ISSO: X"]

def afterFailing : Session := (Session.start smallInteractive).performAll failingRequests

theorem interactive_session_clean_failing :
    Session.new smallInteractive = .ok (Session.start smallInteractive) ∧
      afterFailing.machine.calls = [] ∧
      afterFailing.machine.global.pc = afterFailing.program.globalLength := by
  have hfacts : afterFailing.quit = false ∧ afterFailing.depth = 0 ∧
      (((Session.start smallInteractive).history failingRequests).all fun e =>
        match e with
        | .stepped p _ => p.segments.all fun s => s.code.all fun i => i.op ≠ .returnValue
        | _ => true) = true := by
    decide +kernel
  obtain ⟨hquit, hdepth, hreturns⟩ := hfacts
  have hreturned : ¬Returned ((Session.start smallInteractive).history failingRequests) := by
    rintro ⟨before, e, after, hevents, he, -⟩
    have hmem : e ∈ (Session.start smallInteractive).history failingRequests := by simp [hevents]
    cases e with
    | stepped p m => exact Machine.not_returnsGlobally (List.all_eq_true.mp hreturns _ hmem) m he
    | _ => exact he
  have hnew : Session.new smallInteractive = .ok (Session.start smallInteractive) := rfl
  have hrequests : ∀ request ∈ failingRequests, request.isInteractive = true := by
    simp [failingRequests, Request.isInteractive]
  obtain ⟨-, hready, -⟩ := interactive_session_clean hnew rfl hrequests
  obtain ⟨hcalls, -, -, -, -, hend⟩ := hready hquit
  exact ⟨hnew, hcalls, hend hdepth hreturned⟩

end Birl
