import Birl.Proofs.Machine.Sound

/-!
# Operations on registers

Most operations do nothing to the stack of frames: they work on the registers, the
machine's texts and the streams, and end Normal or fail (`execute_onRegisters`).
-/

namespace Birl

/-- The operations that work on registers, the machine's texts and the streams alone. -/
def Operation.onRegisters : Operation → Bool
  | loadA _ | loadB _ | heldToA | heldToB | swap | clear | arith _ => true
  | readLocal _ | readGlobal _ | assertKind _ => true
  | readInput | toInteger | toNumber | toText => true
  | print | printDebug | newLine | flush => true
  | _ => false

namespace Machine

section
variable {p : Program} {m : Machine} {op : Operation}

/-- The operation ends Normal or fails, and changes nothing but registers, the machine's
texts and the streams. -/
structure OnRegisters (m : Machine) (o : Outcome) : Prop where
  machine : ∃ a b held texts input output,
    o.1 = { m with a, b, held, texts, input, output } ∧ texts.WellFormed
  status : o.2 = .ok .normal ∨ ∃ fault, o.2 = .error fault

theorem onRegisters_done {a b held : Value} {texts : TextStore} {input : Input} {output : Output}
    (ht : texts.WellFormed) : OnRegisters m (done { m with a, b, held, texts, input, output }) :=
  ⟨⟨a, b, held, texts, input, output, rfl, ht⟩, .inl rfl⟩

theorem onRegisters_fail {a b held : Value} {texts : TextStore} {input : Input} {output : Output}
    (ht : texts.WellFormed) (fault : Fault) :
    OnRegisters m (fail { m with a, b, held, texts, input, output } fault) :=
  ⟨⟨a, b, held, texts, input, output, rfl, ht⟩, .inr ⟨fault, rfl⟩⟩

theorem onRegisters_setB {r : StoreResult} (hr : r.2.WellFormed) : OnRegisters m (m.setB r) := by
  obtain ⟨r, texts⟩ := r
  cases r with
  | ok v => exact onRegisters_done hr
  | error fault => exact onRegisters_fail hr fault

theorem onRegisters_readSlot (hs : m.Sound) (frame : Frame) (operand : Int) :
    OnRegisters m (m.readSlot frame operand) := by
  unfold readSlot
  split
  · exact onRegisters_fail hs.texts _
  · split
    · exact onRegisters_fail hs.texts _
    · rename_i hload
      exact onRegisters_done ((Frame.extends_load hload).wellFormed hs.texts)

theorem onRegisters_emit (hs : m.Sound) (t : Except Fault Text) : OnRegisters m (m.emit t) := by
  cases t with
  | ok t => exact onRegisters_done hs.texts
  | error fault => exact onRegisters_fail hs.texts fault

theorem onRegisters_readInput (hs : m.Sound) : OnRegisters m m.readInput := by
  unfold readInput
  simp only
  split
  · exact onRegisters_fail hs.texts _
  · rename_i t _
    exact onRegisters_done (hs.texts.intern (.text t.chomp))
  · rename_i t _
    exact onRegisters_done (hs.texts.intern (.text t.chomp))

theorem execute_onRegisters (hs : m.Sound) (h : op.onRegisters = true) :
    OnRegisters m (execute p m op) := by
  cases op with
  | loadA k => exact onRegisters_done (hs.texts.intern k)
  | loadB k => exact onRegisters_done (hs.texts.intern k)
  | heldToA => exact onRegisters_done hs.texts
  | heldToB => exact onRegisters_done hs.texts
  | swap => exact onRegisters_done hs.texts
  | clear => exact onRegisters_done hs.texts
  | arith op => exact onRegisters_setB (hs.texts.arithmetic op m.a m.b)
  | readLocal operand => exact onRegisters_readSlot hs _ operand
  | readGlobal operand => exact onRegisters_readSlot hs _ operand
  | assertKind kind =>
    simp only [execute]
    split
    · exact onRegisters_done hs.texts
    · exact onRegisters_fail hs.texts _
  | readInput => exact onRegisters_readInput hs
  | toInteger => exact onRegisters_setB (hs.texts.toInteger m.b)
  | toNumber => exact onRegisters_setB (hs.texts.toNumber m.b)
  | toText => exact onRegisters_setB (hs.texts.toText m.b)
  | print => exact onRegisters_emit hs _
  | printDebug => exact onRegisters_emit hs _
  | newLine => exact onRegisters_done hs.texts
  | flush =>
    simp only [execute]
    split
    · exact onRegisters_done (m := m) hs.texts
    · exact onRegisters_fail (m := m) hs.texts _
  | _ => cases h

end
end Machine
end Birl
