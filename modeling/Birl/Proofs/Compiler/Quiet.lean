import Birl.Proofs.Compiler.Block
import Birl.Proofs.Compiler.Meaning
import Birl.Proofs.Machine.Registers

/-!
# Code that changes no variable

All that a command does before its last operation is done in registers, in the
streams and in slots that no name stands for: whether such code comes to its end or
fails on the way, every variable and the last comparison are what they were
(`quiet_run`).
-/

namespace Birl

open Machine

namespace Machine

-- ---------------------------------------------------------------------------
-- Runs that may fail
-- ---------------------------------------------------------------------------

/-- So many steps, all of them Normal, or fewer and then a failure. -/
inductive Ran (p : Program) : Nat → Machine → Machine → Option Error → Prop
  | completed {m : Machine} : Ran p 0 m m none
  | step {n : Nat} {m m₁ m' : Machine} {failure : Option Error}
      (h : Machine.step p m = (m₁, .ok .normal)) (hr : Ran p n m₁ m' failure) :
      Ran p (n + 1) m m' failure
  | failed {n : Nat} {m m' : Machine} {e : Error} (h : Machine.step p m = (m', .error e)) :
      Ran p (n + 1) m m' (some e)

section
variable {p : Program} {m m' m'' m₁ : Machine} {n n' base base' : Nat} {failure failure' : Option Error}
  {op : Operation} {ops : List Operation}

theorem NormalSteps.ran (h : NormalSteps p n m m') : Ran p n m m' none := by
  induction h with
  | refl => exact .completed
  | step hs _ ih => exact .step hs ih

theorem Ran.normal (h : Ran p n m m' none) : NormalSteps p n m m' := by
  generalize hf : (none : Option Error) = failure at h
  induction h with
  | completed => exact .refl
  | step hs _ ih => exact .step hs (ih hf)
  | failed => cases hf

theorem Ran.after (h : Ran p n' m₁ m' failure) (hs : NormalSteps p n m m₁) :
    Ran p (n + n') m m' failure := by
  induction hs with
  | refl => simpa using h
  | step hs _ ih =>
    rw [Nat.add_right_comm]
    exact .step hs (ih h)

theorem Ran.fails {e : Error} (h : Ran p n m m' (some e)) (n' : Nat) :
    Ran p (n + n') m m' (some e) := by
  generalize hf : some e = failure at h ⊢
  induction h with
  | completed => cases hf
  | step hs _ ih =>
    rw [Nat.add_right_comm]
    exact .step hs (ih hf)
  | failed hs =>
    rw [Nat.add_right_comm]
    exact .failed hs

theorem Ran.failing {e : Error} (h : Ran p n m m' (some e)) :
    ∃ i m₁, i < n ∧ NormalSteps p i m m₁ ∧ Machine.step p m₁ = (m', .error e) := by
  generalize hf : some e = failure at h
  induction h with
  | completed => cases hf
  | step hs _ ih =>
    obtain ⟨i, m₁, hi, hsteps, hfails⟩ := ih hf
    exact ⟨i + 1, m₁, Nat.succ_lt_succ hi, .step hs hsteps, hfails⟩
  | failed hs =>
    cases hf
    exact ⟨0, _, Nat.succ_pos _, .refl, hs⟩

/-- Steps are functions of the machine. -/
theorem Ran.unique (h : Ran p n m m' failure) (h' : Ran p n m m'' failure') :
    m'' = m' ∧ failure' = failure := by
  induction h with
  | completed =>
    cases h'
    exact ⟨rfl, rfl⟩
  | step hs _ ih =>
    cases h' with
    | step hs' hr =>
      rw [hs] at hs'
      cases hs'
      exact ih hr
    | failed hs' =>
      rw [hs] at hs'
      cases hs'
  | failed hs =>
    cases h' with
    | step hs' =>
      rw [hs] at hs'
      cases hs'
    | failed hs' =>
      rw [hs] at hs'
      cases hs'
      exact ⟨rfl, rfl⟩

-- ---------------------------------------------------------------------------
-- Streams
-- ---------------------------------------------------------------------------

def withStreams (m : Machine) (input : Input) (output : Output) : Machine := { m with input, output }

theorem modifyCurrent_withStreams (m : Machine) (g : Frame → Frame) (input : Input) (output : Output) :
    (m.withStreams input output).modifyCurrent g = (m.modifyCurrent g).withStreams input output := by
  unfold modifyCurrent withStreams
  split <;> simp_all

theorem Kept.streams (h : Kept base m m') : m'.input = m.input ∧ m'.output = m.output := by
  rw [h.machine]
  exact ⟨modifyCurrent_input m _, modifyCurrent_output m _⟩

theorem Kept.withStreams (h : Kept base m m') (input : Input) (output : Output) :
    Kept base (m.withStreams input output) (m'.withStreams input output) := by
  refine ⟨h.sound.of_eq rfl (fun _ hf => hf) rfl h.sound.texts, ?_, h.owner, h.comparison, h.ready,
    h.skip, h.slots⟩
  unfold working
  rw [modifyCurrent_withStreams]
  exact congrArg (Machine.withStreams · input output) h.machine

/-- From `m` to `m'` nothing has changed but the registers, the machine's texts, the
streams, and the position and the slots from `base` on of the current frame. -/
def Quiet (base : Nat) (m m' : Machine) : Prop := Kept base (m.withStreams m'.input m'.output) m'

theorem Kept.quiet (h : Kept base m m') : Quiet base m m' := by
  unfold Quiet
  rw [h.streams.1, h.streams.2]
  exact h

theorem Quiet.refl (h : m.Sound) : Quiet base m m := (Kept.refl h).quiet

theorem Quiet.trans (h : Quiet base m m') (h' : Quiet base m' m'') : Quiet base m m'' :=
  (Kept.withStreams h m''.input m''.output).trans h' (Nat.le_refl base)

theorem Quiet.sound (h : Quiet base m m') : m'.Sound := Kept.sound h

theorem Quiet.owner (h : Quiet base m m') : m'.current.owner = m.current.owner := by
  unfold Quiet at h
  exact h.owner

theorem Quiet.comparison (h : Quiet base m m') : m'.current.comparison = m.current.comparison := by
  unfold Quiet at h
  exact h.comparison

-- ---------------------------------------------------------------------------
-- One operation
-- ---------------------------------------------------------------------------

theorem quiet_registers (h : m.Sound) {a b held : Value} {texts : TextStore} {input : Input}
    {output : Output} (ht : texts.WellFormed) :
    Quiet base m { m.advance with a, b, held, texts, input, output } := by
  have hsound : (m.withStreams input output).Sound := h.of_eq rfl (fun _ hf => hf) rfl h.texts
  have hadvance : (m.withStreams input output).advance = m.advance.withStreams input output :=
    modifyCurrent_withStreams m _ input output
  have hkept : Kept base (m.withStreams input output)
      { (m.withStreams input output).advance with a, b, held, texts } := kept_registers hsound ht
  rw [hadvance] at hkept
  exact hkept

/-- The step ends Normal at the next instruction, or fails; no variable changes. -/
def StepsQuietly (p : Program) (base : Nat) (m : Machine) : Prop :=
  ∃ m', Quiet base m m' ∧
    ((step p m = (m', .ok .normal) ∧ m'.current.pc = m.current.pc + 1) ∨
      ∃ e, step p m = (m', .error e))

theorem stepsQuietly_onRegisters (base : Nat) (h : m.Sound) (hk : m.current.skip = 0)
    (ha : Ahead p m (op :: ops)) (hop : op.onRegisters = true) : StepsQuietly p base m := by
  have hregisters : OnRegisters m.advance (execute p m.advance op) :=
    execute_onRegisters h.advance hop
  rcases he : execute p m.advance op with ⟨m', r⟩
  rw [he] at hregisters
  obtain ⟨⟨a, b, held, texts, input, output, rfl, ht⟩, hr⟩ := hregisters
  refine ⟨{ m.advance with a, b, held, texts, input, output }, quiet_registers h ht, ?_⟩
  rcases hr with rfl | ⟨fault, rfl⟩
  · refine .inl ⟨ha.step_ok hk he, ?_⟩
    have hcur : ({ m.advance with a, b, held, texts, input, output } : Machine).current =
        { m.current with pc := m.current.pc + 1 } := m.current_advance
    rw [hcur]
  · obtain ⟨line, function, hstep⟩ := ha.step_error hk he
    exact .inr ⟨_, hstep⟩

end
end Machine

namespace Compiler

/-- The operation works on registers or writes a hidden slot from `base` on. -/
def Spares (c : Compiler) (base : Nat) (op : Operation) : Prop :=
  op.onRegisters = true ∨ ∃ slot, base ≤ slot ∧ slot < c.frameSize ∧ op = (c.hidden slot).write

section
variable {p : Program} {c : Compiler} {m m' : Machine} {base base' : Nat} {op : Operation}
  {ops code : List Operation}

theorem execute_write (m : Machine) (symbol : Symbol) :
    execute p m symbol.write =
      match m.writeSlot (symbol.frame m) symbol.address with
      | .ok frame =>
        done (if symbol.global then { m with global := frame } else m.modifyCurrent fun _ => frame)
      | .error fault => fail m fault := by
  unfold Symbol.write Symbol.frame
  cases symbol.global with
  | true =>
    cases hw : m.writeSlot m.global symbol.address <;> simp [execute, hw]
  | false =>
    cases hw : m.writeSlot m.current symbol.address <;> simp [execute, hw]

/-- Writing fails only where register `b` stands for nothing, and changes nothing then. -/
theorem step_write_dead (base : Nat) (hm : Matches c m) (h : m.Sound) {symbol : Symbol}
    (ha : Ahead p m (symbol.write :: ops)) (haddr : symbol.address < c.frameSize)
    (hv : m.texts.constant? m.b = none) :
    ∃ m' e, step p m = (m', .error e) ∧ Kept base m m' := by
  obtain ⟨hslots, htexts⟩ := frame_advance symbol m
  have hframe : (symbol.frame m.advance).Sound m.frameSize := (h.frame symbol).congr hslots htexts
  obtain ⟨fault, hstore⟩ :=
    Frame.store_dead (f := symbol.frame m.advance) (a := symbol.address) hv
  have hwrite : m.advance.writeSlot (symbol.frame m.advance) symbol.address = .error fault := by
    simp only [writeSlot, hframe.address (hm.size ▸ haddr), bind, Except.bind, advance_b, advance_texts]
    exact hstore
  have he : execute p m.advance symbol.write = (m.advance, .error fault) := by
    rw [execute_write, hwrite]
    rfl
  obtain ⟨line, function, hstep⟩ := ha.step_error hm.skip he
  exact ⟨m.advance, _, hstep, kept_registers h h.advance.texts⟩

theorem Spares.steps (hop : c.Spares base op) (hm : Matches c m) (h : m.Sound)
    (ha : Ahead p m (op :: ops)) : StepsQuietly p base m := by
  rcases hop with hop | ⟨slot, hbase, hslot, rfl⟩
  · exact stepsQuietly_onRegisters base h hm.skip ha hop
  · cases hv : m.texts.constant? m.b with
    | some v =>
      obtain ⟨m', hgoes, -⟩ := hm.goes_write h ha hslot hv
      refine ⟨m', (hgoes.kept.mono hbase).quiet, .inl ⟨?_, hgoes.pc⟩⟩
      cases hgoes.steps with
      | step hs hrest =>
        cases hrest
        exact hs
    | none =>
      obtain ⟨m', e, hs, hkept⟩ := step_write_dead base hm h ha hslot hv
      exact ⟨m', hkept.quiet, .inr ⟨e, hs⟩⟩

theorem Matches.quiet (hm : Matches c m) (h : Quiet base m m') : Matches c m' := by
  have hstreams : Matches c (m.withStreams m'.input m'.output) := ⟨hm.size, hm.skip, hm.place⟩
  exact hstreams.kept h

/-- Code that spares the variables comes to its end or fails, and no variable changes. -/
theorem quiet_run (hq : ∀ op ∈ code, c.Spares base op) (hm : Matches c m) (h : m.Sound)
    (ha : Ahead p m (code ++ ops)) :
    ∃ m' failure, Ran p code.length m m' failure ∧ Quiet base m m' ∧
      (failure = none → m'.current.pc = m.current.pc + code.length) := by
  induction code generalizing m with
  | nil => exact ⟨m, none, .completed, .refl h, fun _ => rfl⟩
  | cons op code ih =>
    obtain ⟨hop, hq⟩ := List.forall_mem_cons.mp hq
    obtain ⟨m₁, hquiet, hstep⟩ := hop.steps hm h ha
    rcases hstep with ⟨hs, hpc⟩ | ⟨e, hs⟩
    · have hahead : Ahead p m₁ (code ++ ops) :=
        @Ahead.drop p m [op] (code ++ ops) m₁ ha hquiet.owner hpc
      obtain ⟨m', failure, hran, hquiet', hpc'⟩ := ih hq (hm.quiet hquiet) hquiet.sound hahead
      refine ⟨m', failure, .step hs hran, hquiet.trans hquiet', fun hf => ?_⟩
      rw [hpc' hf, hpc, List.length_cons]
      omega
    · exact ⟨m₁, some e, .failed hs, hquiet, nofun⟩

-- ---------------------------------------------------------------------------
-- Compiled code
-- ---------------------------------------------------------------------------

theorem Spares.mono (h : c.Spares base' op) (hb : base ≤ base') : c.Spares base op :=
  h.imp_right fun ⟨slot, hslot, hsize, hop⟩ => ⟨slot, by omega, hsize, hop⟩

theorem spares_read (symbol : Symbol) : c.Spares base symbol.read := by
  unfold Symbol.read
  split <;> exact .inl rfl

theorem Loads.spares {node : Node} {load : List Operation} (h : Loads c node load) :
    ∀ op ∈ load, c.Spares base op := by
  cases h with
  | literal k => simpa using .inl rfl
  | named hr =>
    simp only [List.forall_mem_cons]
    exact ⟨spares_read _, .inl rfl, nofun⟩

theorem spares_operations (op : Operator) : ∀ operation ∈ op.operations, c.Spares base operation := by
  cases op <;> simp [Operator.operations, Spares, Operation.onRegisters]

theorem spares_foldInto (accumulator : Nat) (op : Operator) :
    ∀ operation ∈ c.foldInto accumulator op, c.Spares base operation := by
  simp only [foldInto, List.forall_mem_cons]
  exact ⟨spares_read _, .inl rfl, spares_operations op⟩

theorem spares_settle (s : Progress) (next : Nat) : ∀ op ∈ s.settle c next, c.Spares base op := by
  unfold Progress.settle
  cases s.low with
  | none => nofun
  | some op => exact spares_foldInto next op

theorem Compiles.spares {next : Nat} {s : Progress} {nodes : List Node}
    (h : Compiles c next s nodes code) (hacc : s.hasAccumulator = true → next < c.frameSize) :
    ∀ op ∈ code, c.Spares next op := by
  induction h with
  | finish => exact spares_settle _ _
  | @group next s _ _ _ _ _ _ _ _ _ _ ihg ihm =>
    have hfree := s.le_free next
    exact List.forall_mem_append.mpr ⟨fun op hop => (ihg nofun op hop).mono hfree, ihm hacc⟩
  | @factorGroup next s _ _ _ _ _ _ _ _ _ hf _ _ ihg ihm =>
    have hfree := s.le_free next
    simp only [List.cons_append, List.forall_mem_cons, List.forall_mem_append]
    exact ⟨.inr ⟨_, hfree, hf, rfl⟩,
      ⟨fun op hop => (ihg nofun op hop).mono (by omega), spares_foldInto _ _⟩, ihm hacc⟩
  | high _ _ _ ih => exact ih hacc
  | atOnce _ _ _ _ _ hl _ ih =>
    simp only [List.forall_mem_cons, List.forall_mem_append]
    exact ⟨⟨⟨spares_settle _ _, .inl rfl, hl.spares⟩, spares_operations _⟩, ih hacc⟩
  | @deferred next _ _ _ _ _ _ _ _ _ hf _ ih =>
    have hnext : next < c.frameSize := hf.elim hacc id
    simp only [List.forall_mem_cons, List.forall_mem_append]
    exact ⟨spares_settle _ _, .inr ⟨next, Nat.le_refl _, hnext, rfl⟩, ih fun _ => hnext⟩
  | operand _ _ hl _ ih => exact List.forall_mem_append.mpr ⟨hl.spares, ih hacc⟩
  | factor _ _ hl _ ih =>
    simp only [List.cons_append, List.forall_mem_cons, List.forall_mem_append]
    exact ⟨.inl rfl, ⟨hl.spares, spares_operations _⟩, ih hacc⟩

theorem spares_expression {next : Nat} {e : Expression} (h : c.expression next e = .ok code) :
    ∀ op ∈ code, c.Spares next op :=
  (compiles_of_expression h).spares nofun

theorem spares_conversion (kind : Kind) : c.Spares base (conversion kind) := by
  cases kind <;> exact .inl rfl

theorem Gives.spares (h : Gives c code) : ∀ op ∈ code, c.Spares c.next op := by
  cases h with
  | expression h => exact spares_expression h
  | null => simpa using .inl rfl
  | input kind =>
    refine List.forall_mem_append.mpr ⟨?_, ?_⟩
    · simp only [List.forall_mem_cons]
      exact ⟨.inl rfl, .inl rfl, nofun⟩
    · split
      · nofun
      · simpa using spares_conversion kind
  | converted kind hr =>
    simp only [List.forall_mem_cons]
    exact ⟨spares_read _, .inl rfl, spares_conversion kind, nofun⟩

theorem throughout_spares : Throughout c (c.Spares c.next) :=
  fun _ _ _ hnext h op hop => (spares_expression h op hop).mono hnext

theorem spares_printArguments (hop : op.onRegisters = true) {args : List Expression}
    (h : c.printArguments op args = .ok code) : ∀ op ∈ code, c.Spares c.next op :=
  throughout_spares.printArguments (.inl hop) h

theorem spares_comparison {left right : Expression} (h : c.comparison left right = .ok code) :
    ∀ op ∈ code, c.Spares c.next op := by
  refine throughout_spares.comparison (fun hlt => ⟨spares_read _, ?_⟩) ?_ Loads.spares h
  · exact .inr ⟨c.next, Nat.le_refl _, hlt, rfl⟩
  · rintro op (rfl | rfl | ⟨k, rfl⟩) <;> exact .inl rfl

end
end Compiler
end Birl
