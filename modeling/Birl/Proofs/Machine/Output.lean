import Birl.Proofs.Machine.Refit

/-!
# How full the output buffer is does not matter

While the sink takes everything, machines that have written the same and differ only
in how much of it is still in the buffer go the same way (`Alike.step`), and so do
their runs (`Alike.reaches`).
-/

namespace Birl

/-- The sink takes what is written. -/
structure Output.Working (o : Output) : Prop where
  broken : o.broken = false
  failed : o.failed = false

/-- The same was written to two sinks that take everything. -/
structure Output.Alike (o o' : Output) : Prop where
  left : o.Working
  right : o'.Working
  chunks : o'.chunks = o.chunks

namespace Output

section
variable {o o' : Output}

theorem Working.alike (h : o.Working) : o.Alike o := ⟨h, h, rfl⟩

theorem Alike.text (h : o.Alike o') : o'.text = o.text := by
  simp [Output.text, h.left.broken, h.right.broken, h.chunks]

theorem Working.write (h : o.Working) (t : Text) :
    (o.write t).Working ∧ (o.write t).chunks = t :: o.chunks := by
  unfold Output.write
  rw [if_neg (by simp [h.failed]), if_neg (c := o.broken = true) (by simp [h.broken])]
  split
  · exact ⟨⟨h.broken, h.failed⟩, rfl⟩
  · exact ⟨⟨h.broken, h.failed⟩, rfl⟩

theorem Working.flush (h : o.Working) :
    o.flush.1.Working ∧ o.flush.1.chunks = o.chunks ∧ o.flush.2 = true := by
  unfold Output.flush
  rw [if_neg (by simp [h.failed]), if_neg (c := o.broken = true) (by simp [h.broken])]
  split
  · exact ⟨h, rfl, rfl⟩
  · exact ⟨⟨h.broken, h.failed⟩, rfl, rfl⟩

theorem Alike.write (h : o.Alike o') (t : Text) : (o.write t).Alike (o'.write t) := by
  obtain ⟨hleft, hchunks⟩ := h.left.write t
  obtain ⟨hright, hchunks'⟩ := h.right.write t
  exact ⟨hleft, hright, by rw [hchunks, hchunks', h.chunks]⟩

theorem Alike.flush (h : o.Alike o') : o.flush.1.Alike o'.flush.1 := by
  obtain ⟨hleft, hchunks, -⟩ := h.left.flush
  obtain ⟨hright, hchunks', -⟩ := h.right.flush
  exact ⟨hleft, hright, by rw [hchunks, hchunks', h.chunks]⟩

theorem Alike.flush_right (h : o.Alike o') : o.Alike o'.flush.1 := by
  obtain ⟨hright, hchunks, -⟩ := h.right.flush
  exact ⟨h.left, hright, hchunks.trans h.chunks⟩

end
end Output

namespace Machine

-- ---------------------------------------------------------------------------
-- Another output
-- ---------------------------------------------------------------------------

def withOutput (m : Machine) (output : Output) : Machine := m.refit output m.plugins

def redirect {α : Type} (output : Output) (x : Machine × α) : Machine × α :=
  (x.1.withOutput output, x.2)

section
variable {p : Program} {m : Machine} {output : Output}

theorem refitted_eq_redirect {α : Type} {x : Machine × α} (h : x.1.plugins = m.plugins) :
    refitted output m.plugins x = redirect output x := by
  rw [redirect, withOutput, h, refitted]

theorem modifyCurrent_withOutput (g : Frame → Frame) :
    (m.withOutput output).modifyCurrent g = (m.modifyCurrent g).withOutput output := by
  rw [withOutput, withOutput, modifyCurrent_refit, modifyCurrent_plugins]

theorem leave_withOutput : (m.withOutput output).leave = redirect output m.leave := by
  rw [withOutput, leave_refit, refitted_eq_redirect leave_unused.2]

theorem callPlugin_withOutput (index : Int) :
    (m.withOutput output).callPlugin index = redirect output (m.callPlugin index) := by
  simp only [callPlugin, plugin?, withOutput, refit, redirect, modifyCurrent, current, fail, done]
  repeat' split
  all_goals simp_all

/-- An operation that does not use the output does the same whatever it is. -/
theorem execute_withOutput {op : Operation} (h : op.writes = false) :
    execute p (m.withOutput output) op = redirect output (execute p m op) := by
  by_cases hcall : ∃ index, op = .callPlugin index
  · obtain ⟨index, rfl⟩ := hcall
    exact callPlugin_withOutput index
  · rw [not_exists] at hcall
    rw [withOutput, execute_refit h hcall, refitted_eq_redirect (execute_unused h hcall).2]

theorem execute_output {op : Operation} (h : op.writes = false) :
    (execute p m op).1.output = m.output := by
  have hself : execute p m op = redirect m.output (execute p m op) :=
    @execute_withOutput p m m.output op h
  exact congrArg (fun x => x.1.output) hself

end

-- ---------------------------------------------------------------------------
-- Alike machines
-- ---------------------------------------------------------------------------

/-- The machines differ at most in how full their output buffers are. -/
def Alike (m m' : Machine) : Prop := ∃ output, m' = m.withOutput output ∧ m.output.Alike output

section
variable {p : Program} {m m' m₁ : Machine}

theorem alike_of_working (h : m.output.Working) : Alike m m := ⟨m.output, rfl, h.alike⟩

theorem Alike.flush_right (h : Alike m m') : Alike m m'.flush.1 := by
  obtain ⟨output, rfl, ho⟩ := h
  exact ⟨output.flush.1, rfl, ho.flush_right⟩

theorem Alike.trans {m'' : Machine} (h : Alike m m') (h' : Alike m' m'') : Alike m m'' := by
  obtain ⟨output, rfl, ho⟩ := h
  obtain ⟨output', rfl, ho'⟩ := h'
  exact ⟨output', rfl, ho.left, ho'.right, ho'.chunks.trans ho.chunks⟩

theorem Alike.working (h : Alike m m') : m.output.Working ∧ m'.output.Working := by
  obtain ⟨output, rfl, ho⟩ := h
  exact ⟨ho.left, ho.right⟩

theorem Alike.readInput (h : Alike m m') :
    ∃ m₁', m'.readInput = (m₁', m.readInput.2) ∧ Alike m.readInput.1 m₁' := by
  obtain ⟨output, rfl, ho⟩ := h
  have hinput : (m.withOutput output).input = m.input := rfl
  have hoc (m₀ : Machine) (h₀ : m₀.output = m.output.flush.1) :
      Alike m₀ (m₀.withOutput output.flush.1) := ⟨_, rfl, h₀ ▸ ho.flush⟩
  simp only [Machine.readInput, hinput]
  split
  · exact ⟨_, rfl, hoc _ rfl⟩
  · exact ⟨_, rfl, hoc _ rfl⟩
  · exact ⟨_, rfl, hoc _ rfl⟩

theorem Alike.emit (h : Alike m m') (t : Except Fault Text) :
    ∃ m₁', m'.emit t = (m₁', (m.emit t).2) ∧ Alike (m.emit t).1 m₁' := by
  obtain ⟨output, rfl, ho⟩ := h
  cases t with
  | ok t => exact ⟨_, rfl, _, rfl, ho.write t⟩
  | error fault => exact ⟨_, rfl, output, rfl, ho⟩

theorem Alike.execute (h : Alike m m') (op : Operation) :
    ∃ m₁', execute p m' op = (m₁', (execute p m op).2) ∧ Alike (execute p m op).1 m₁' := by
  cases hw : op.writes with
  | false =>
    obtain ⟨output, rfl, ho⟩ := h
    refine ⟨_, execute_withOutput hw, output, rfl, ?_⟩
    rw [execute_output hw]
    exact ho
  | true =>
    cases op with
    | readInput => exact h.readInput
    | print =>
      obtain ⟨output, rfl, ho⟩ := h
      exact Alike.emit ⟨output, rfl, ho⟩ (m.texts.display m.b)
    | printDebug =>
      obtain ⟨output, rfl, ho⟩ := h
      exact Alike.emit ⟨output, rfl, ho⟩ (m.texts.inspect m.b)
    | newLine =>
      obtain ⟨output, rfl, ho⟩ := h
      exact ⟨_, rfl, _, rfl, ho.write _⟩
    | flush =>
      obtain ⟨output, rfl, ho⟩ := h
      obtain ⟨-, -, hleft⟩ := ho.left.flush
      obtain ⟨-, -, hright⟩ := ho.right.flush
      have hok : (m.withOutput output).flush.2 = true := hright
      have hok' : m.flush.2 = true := hleft
      simp only [Machine.execute, hok, hok', if_true]
      exact ⟨_, rfl, output.flush.1, rfl, ho.flush⟩
    | _ => cases hw

theorem Alike.modifyCurrent (h : Alike m m') (g : Frame → Frame) :
    Alike (m.modifyCurrent g) (m'.modifyCurrent g) := by
  obtain ⟨output, rfl, ho⟩ := h
  refine ⟨output, modifyCurrent_withOutput g, ?_⟩
  rw [modifyCurrent_output]
  exact ho

theorem Alike.leave (h : Alike m m') : ∃ m₁', m'.leave = (m₁', m.leave.2) ∧ Alike m.leave.1 m₁' := by
  obtain ⟨output, rfl, ho⟩ := h
  refine ⟨_, leave_withOutput, output, rfl, ?_⟩
  have hself : m.leave = redirect m.output m.leave := @leave_withOutput m m.output
  have houtput : m.leave.1.output = m.output := congrArg (fun x => x.1.output) hself
  rw [houtput]
  exact ho

theorem Alike.step (h : Alike m m') {r : Except Error Status} (hs : step p m = (m₁, r)) :
    ∃ m₁', Machine.step p m' = (m₁', r) ∧ Alike m₁ m₁' := by
  obtain ⟨output, rfl, ho⟩ := h
  have hadvance : Alike m.advance (m.withOutput output).advance :=
    Alike.modifyCurrent ⟨output, rfl, ho⟩ _
  have hnull : Alike { m with b := .null } { m.withOutput output with b := .null } :=
    ⟨output, rfl, ho⟩
  cases stepped_of_step hs with
  | noCode hseg => exact ⟨_, Stepped.step_eq (.noCode hseg), output, rfl, ho⟩
  | ended hseg hi hc => exact ⟨_, Stepped.step_eq (.ended hseg hi hc), output, rfl, ho⟩
  | returned hseg hi hc hl =>
    obtain ⟨m₁', hl', halike⟩ := hnull.leave
    rw [hl] at hl' halike
    exact ⟨m₁', Stepped.step_eq (.returned hseg hi hc hl'), halike⟩
  | stuck hseg hi hc hl =>
    obtain ⟨m₁', hl', halike⟩ := hnull.leave
    rw [hl] at hl' halike
    exact ⟨m₁', Stepped.step_eq (.stuck hseg hi hc hl'), halike⟩
  | skipped hseg hi hk =>
    exact ⟨_, Stepped.step_eq (.skipped hseg hi hk), Alike.modifyCurrent ⟨output, rfl, ho⟩ _⟩
  | executed hseg hi hk he =>
    obtain ⟨m₁', he', halike⟩ := hadvance.execute _
    rw [he] at he' halike
    exact ⟨m₁', Stepped.step_eq (.executed hseg hi hk he'), halike⟩
  | failed hseg hi hk he =>
    obtain ⟨m₁', he', halike⟩ := hadvance.execute _
    rw [he] at he' halike
    exact ⟨m₁', Stepped.step_eq (.failed hseg hi hk he'), halike⟩

theorem Alike.reaches (h : Alike m m') {last : Machine} (hr : Reaches p m last) :
    ∃ last', Reaches p m' last' ∧ Alike last last' := by
  induction hr generalizing m' with
  | refl m => exact ⟨m', .refl m', h⟩
  | step hs hf _ ih =>
    obtain ⟨m₁', hs', h₁⟩ := h.step hs
    obtain ⟨last', hreaches, hlast⟩ := ih h₁
    exact ⟨last', .step hs' hf hreaches, hlast⟩

end
end Machine
end Birl
