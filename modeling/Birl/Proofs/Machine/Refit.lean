import Birl.Proofs.Machine.Termination

/-!
# What an operation does not use

Only the operations that print, flush or read a line use the output, and only a plugin
call uses the plugins. All others do the same whatever these are (`execute_refit`).
-/

namespace Birl

def Operation.writes : Operation → Bool
  | .readInput | .print | .printDebug | .newLine | .flush => true
  | _ => false

namespace Machine

/-- The machine with another output and other plugins. -/
def refit (m : Machine) (output : Output) (plugins : Array Plugin) : Machine :=
  { m with output, plugins }

def refitted {α : Type} (output : Output) (plugins : Array Plugin) (x : Machine × α) :
    Machine × α :=
  (x.1.refit output plugins, x.2)

section
variable {p : Program} {m : Machine} {output : Output} {plugins : Array Plugin}

theorem modifyCurrent_refit (g : Frame → Frame) :
    (m.refit output plugins).modifyCurrent g = (m.modifyCurrent g).refit output plugins := by
  have hcalls : (m.refit output plugins).calls = m.calls := rfl
  unfold modifyCurrent
  rw [hcalls]
  split <;> rfl

theorem setB_refit (r : StoreResult) :
    (m.refit output plugins).setB r = refitted output plugins (m.setB r) := by
  obtain ⟨r, texts⟩ := r
  cases r <;> rfl

theorem readSlot_refit (frame : Frame) (operand : Int) :
    (m.refit output plugins).readSlot frame operand =
      refitted output plugins (m.readSlot frame operand) := by
  have htexts : (m.refit output plugins).texts = m.texts := rfl
  unfold readSlot
  rw [htexts]
  split
  · rfl
  · split <;> rfl

theorem leave_refit :
    (m.refit output plugins).leave = refitted output plugins m.leave := by
  simp only [leave, refit, refitted, modifyCurrent, current]
  repeat' split
  all_goals simp_all

theorem execute_refit {op : Operation} (hwrites : op.writes = false)
    (hcall : ∀ index, op ≠ .callPlugin index) :
    execute p (m.refit output plugins) op = refitted output plugins (execute p m op) := by
  cases op with
  | readInput => cases hwrites
  | print => cases hwrites
  | printDebug => cases hwrites
  | newLine => cases hwrites
  | flush => cases hwrites
  | callPlugin index => exact absurd rfl (hcall index)
  | arith op => exact setB_refit _
  | toInteger => exact setB_refit _
  | toNumber => exact setB_refit _
  | toText => exact setB_refit _
  | readLocal operand => exact readSlot_refit _ operand
  | readGlobal operand => exact readSlot_refit _ operand
  | returnValue =>
    have hcalls : (m.refit output plugins).calls = m.calls := rfl
    simp only [execute, leave_refit, hcalls]
    split
    · rfl
    · rcases m.leave with ⟨m', r⟩
      cases r <;> rfl
  | compare =>
    have hcompare : (m.refit output plugins).texts.compare (m.refit output plugins).a
        (m.refit output plugins).b = m.texts.compare m.a m.b := rfl
    simp only [execute, hcompare, modifyCurrent_refit]
    split <;> rfl
  | executeIf requirement =>
    have hcurrent : (m.refit output plugins).current = m.current := rfl
    simp only [execute, hcurrent, modifyCurrent_refit]
    split <;> rfl
  | writeLocal operand =>
    have hwrite : (m.refit output plugins).writeSlot (m.refit output plugins).current operand =
        m.writeSlot m.current operand := rfl
    simp only [execute, hwrite, modifyCurrent_refit]
    split <;> rfl
  | writeGlobal operand =>
    have hwrite : (m.refit output plugins).writeSlot (m.refit output plugins).global operand =
        m.writeSlot m.global operand := rfl
    simp only [execute, hwrite]
    split <;> rfl
  | writeArgument operand =>
    simp only [execute, writeArgument, refit, refitted, fail, done, writeSlot]
    repeat' split
    all_goals simp_all
  | newFrame code =>
    have hdepth : (m.refit output plugins).depth = m.depth := rfl
    simp only [execute, pushFrame, hdepth]
    repeat' split
    all_goals rfl
  | startFrame =>
    simp only [execute, startFrame, refit, refitted, fail, done]
    repeat' split
    all_goals simp_all
  | assertKind kind =>
    have hassert : (m.refit output plugins).b = m.b := rfl
    simp only [execute, hassert]
    split <;> rfl
  | _ => rfl

theorem leave_unused : m.leave.1.output = m.output ∧ m.leave.1.plugins = m.plugins := by
  have hself : m.leave = refitted m.output m.plugins m.leave := leave_refit (m := m)
  exact ⟨congrArg (fun x => x.1.output) hself, congrArg (fun x => x.1.plugins) hself⟩

theorem execute_unused {op : Operation} (hwrites : op.writes = false)
    (hcall : ∀ index, op ≠ .callPlugin index) :
    (execute p m op).1.output = m.output ∧ (execute p m op).1.plugins = m.plugins := by
  have hself : execute p m op = refitted m.output m.plugins (execute p m op) :=
    execute_refit (m := m) hwrites hcall
  exact ⟨congrArg (fun x => x.1.output) hself, congrArg (fun x => x.1.plugins) hself⟩

end
end Machine
end Birl
