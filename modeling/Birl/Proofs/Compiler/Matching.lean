import Birl.Proofs.Compiler.Layout
import Birl.Proofs.Machine.Block
import Birl.Proofs.Machine.Sound

/-!
# Machines that stand where the compiler is

A machine `Matches` a compiler if it is in a frame of the kind that the compiler
emits code for. What only moves that frame on and changes registers, the machine's
texts and slots that no name stands for (`Kept`) leaves all visible names with
their values (`Layout.environment`).
-/

namespace Birl

open Machine
open TextStore (Apart)

-- ---------------------------------------------------------------------------
-- Compiler and machine
-- ---------------------------------------------------------------------------

def Symbol.frame (s : Symbol) (m : Machine) : Frame := if s.global then m.global else m.current

def Symbol.value? (s : Symbol) (m : Machine) : Option Constant := (s.frame m).constant? s.address

namespace Compiler

/-- The machine runs a frame of the kind that code is emitted for, and does not
skip. -/
structure Matches (c : Compiler) (m : Machine) : Prop where
  size : m.frameSize = c.frameSize
  skip : m.current.skip = 0
  place : c.inGlobal = (lastReady? m.calls).isNone

/-- The values of the visible names. -/
def environment (c : Compiler) (m : Machine) (name : Text) : Option Constant :=
  (c.resolve name).bind fun symbol => (symbol.frame m).constant? symbol.address

end Compiler

namespace Machine

theorem current_global {m : Machine} (h : (lastReady? m.calls).isNone = true) :
    m.current = m.global ∧ ∀ g, m.modifyCurrent g = { m with global := g m.global } := by
  have hnone : lastReady? m.calls = none := by simpa using h
  rcases m.current_cases with ⟨above, f, below, hcalls, -, hf, -⟩ | ⟨-, hcur, hmod⟩
  · have := List.find?_eq_none.mp hnone f (by simp [hcalls])
    simp [hf] at this
  · exact ⟨hcur, hmod⟩

theorem global_modifyCurrent {m : Machine} (h : (lastReady? m.calls).isNone = false)
    (g : Frame → Frame) : (m.modifyCurrent g).global = m.global := by
  rcases m.current_cases with ⟨above, f, below, -, -, -, -, hmod⟩ | ⟨hcalls, -⟩
  · rw [hmod]
  · have hnone : lastReady? m.calls = none := by
      refine List.find?_eq_none.mpr fun x hx => ?_
      simp [hcalls x hx]
    simp [hnone] at h

-- ---------------------------------------------------------------------------
-- What an expression leaves alone
-- ---------------------------------------------------------------------------

/-- The machine with another current frame, other registers and other texts. -/
def working (m : Machine) (frame : Frame) (a b held : Value) (texts : TextStore) : Machine :=
  { m.modifyCurrent (fun _ => frame) with a, b, held, texts }

/-- From `m` to `m'` nothing has changed but the registers, the machine's texts, and
the position and the slots from `base` on of the current frame. -/
structure Kept (base : Nat) (m m' : Machine) : Prop where
  sound : m'.Sound
  machine : m' = m.working m'.current m'.a m'.b m'.held m'.texts
  owner : m'.current.owner = m.current.owner
  comparison : m'.current.comparison = m.current.comparison
  ready : m'.current.ready = m.current.ready
  skip : m'.current.skip = m.current.skip
  slots : ∀ address < base, m'.current.constant? address = m.current.constant? address

section
variable {m m' m'' : Machine} {base : Nat} {frame frame' : Frame} {a b held a' b' held' : Value}
  {texts texts' : TextStore}

theorem current_working (h : frame.ready = m.current.ready) :
    (m.working frame a b held texts).current = frame :=
  current_modifyCurrent (g := fun _ => frame) h

theorem working_working (h : frame.ready = m.current.ready) :
    (m.working frame a b held texts).working frame' a' b' held' texts' =
      m.working frame' a' b' held' texts' := by
  have hregisters (m : Machine) : ({ m with a, b, held, texts } : Machine).modifyCurrent
      (fun _ => frame') = { m.modifyCurrent (fun _ => frame') with a, b, held, texts } := by
    unfold modifyCurrent
    split <;> simp_all
  unfold working
  rw [hregisters, modifyCurrent_modifyCurrent (g := fun _ => frame) h]

theorem Kept.refl (h : m.Sound) : Kept base m m := by
  refine ⟨h, ?_, rfl, rfl, rfl, rfl, fun _ _ => rfl⟩
  rw [working, modifyCurrent_self rfl]

theorem Kept.trans {base' : Nat} (h : Kept base m m') (h' : Kept base' m' m'') (hb : base ≤ base') :
    Kept base m m'' := by
  refine ⟨h'.sound, ?_, h'.owner.trans h.owner, h'.comparison.trans h.comparison,
    h'.ready.trans h.ready, h'.skip.trans h.skip, fun address ha => ?_⟩
  · calc m'' = m'.working m''.current m''.a m''.b m''.held m''.texts := h'.machine
      _ = (m.working m'.current m'.a m'.b m'.held m'.texts).working m''.current m''.a m''.b
            m''.held m''.texts :=
        congrArg (fun x => x.working m''.current m''.a m''.b m''.held m''.texts) h.machine
      _ = m.working m''.current m''.a m''.b m''.held m''.texts := working_working h.ready
  · rw [h'.slots address (by omega), h.slots address ha]

theorem Kept.mono {base' : Nat} (h : Kept base' m m') (hb : base ≤ base') : Kept base m m' :=
  ⟨h.sound, h.machine, h.owner, h.comparison, h.ready, h.skip,
    fun address ha => h.slots address (by omega)⟩

theorem Kept.frameSize (h : Kept base m m') : m'.frameSize = m.frameSize := by
  rw [h.machine]
  exact modifyCurrent_frameSize m _

theorem Kept.place (h : Kept base m m') :
    (lastReady? m'.calls).isNone = (lastReady? m.calls).isNone := by
  rw [h.machine]
  exact lastReady_modifyCurrent (g := fun _ => m'.current) h.ready

theorem Kept.global (h : Kept base m m') (hf : (lastReady? m.calls).isNone = false) :
    m'.global = m.global := by
  rw [h.machine]
  exact global_modifyCurrent hf _

end
end Machine

namespace Compiler

section
variable {c : Compiler} {m m' : Machine} {base : Nat}

theorem Matches.kept (hm : Matches c m) (h : Kept base m m') : Matches c m' :=
  ⟨h.frameSize.trans hm.size, h.skip.trans hm.skip, hm.place.trans h.place.symm⟩

/-- A variable below the slots that changed keeps its value. -/
theorem Matches.kept_value (hm : Matches c m) (h : Kept base m m') {symbol : Symbol}
    (hb : symbol.global = c.inGlobal → symbol.address < base)
    (hg : c.inGlobal = true → symbol.global = true) : symbol.value? m' = symbol.value? m := by
  unfold Symbol.value? Symbol.frame
  cases hin : c.inGlobal with
  | true =>
    have hcur := (current_global (hm.place.symm.trans hin)).1
    have hcur' := (current_global ((h.place.trans hm.place.symm).trans hin)).1
    have hsymbol := hg hin
    rw [if_pos hsymbol, if_pos hsymbol, ← hcur, ← hcur']
    exact h.slots _ (hb (hsymbol.trans hin.symm))
  | false =>
    cases hsymbol : symbol.global with
    | true =>
      rw [if_pos rfl, if_pos rfl, h.global (hm.place.symm.trans hin)]
    | false => exact h.slots _ (hb (hsymbol.trans hin.symm))

/-- Hidden slots are no names' slots. -/
theorem Layout.environment (hl : Layout c) (hm : Matches c m) (h : Kept base m m')
    (hb : c.next ≤ base) : c.environment m' = c.environment m := by
  funext name
  unfold Compiler.environment
  cases hr : c.resolve name with
  | none => rfl
  | some symbol =>
    obtain ⟨-, hnext, hglobal⟩ := hl.resolve hr
    exact hm.kept_value h (fun hin => Nat.lt_of_lt_of_le (hnext hin) hb) hglobal

end
end Compiler
end Birl
