import Birl.Proofs.Machine.Sound

/-!
# Checking code before it runs

Which registers hold something that can be used, and which frame is being built,
can be told from the operations alone: `Flow` is what is known at a place of the
code, and `Flow.next?` what an operation makes of it, or none where it may only be
used if more is known. Code that passes does not go wrong: in a machine that what
is known fits, no operation meets a missing text, an address out of range or a
broken stack (`execute_fine`).
-/

namespace Birl

-- ---------------------------------------------------------------------------
-- Faults
-- ---------------------------------------------------------------------------

/-- A fault that a correct program can meet. -/
def Fault.Harmless (fault : Fault) : Prop :=
  fault = .callStackOverflow ∨
    (fault.kind ≠ .frameOverflow ∧ fault.kind ≠ .storageMiss ∧ fault.kind ≠ .internal)

/-- The host function gives nothing back but values of the store that it leaves. -/
def Callback.GivesLive (call : Callback) : Prop :=
  ∀ (texts : TextStore) (args : List Value), texts.WellFormed → (∀ v ∈ args, texts.Live v) →
    ∀ v texts', call texts args = (.ok v, texts') → texts'.Live v

/-- The host function can fail by itself with this fault, for arguments that are in
the store it sees. -/
def Callback.FailsWith (call : Callback) (cause : Fault) : Prop :=
  ∃ (texts : TextStore) (args : List Value), texts.WellFormed ∧ (∀ v ∈ args, texts.Live v) ∧
    (call texts args).1 = .error cause

/-- A fault that a host function gave itself. -/
def Machine.HostFault (m : Machine) (fault : Fault) : Prop :=
  ∃ plugin ∈ m.plugins, ∃ cause, plugin.call.FailsWith cause ∧ fault = .within plugin.name cause

-- ---------------------------------------------------------------------------
-- What is known at a place of the code
-- ---------------------------------------------------------------------------

/-- Which registers can be used, no two of which share a text, and the frame that is
being built. -/
structure Flow where
  a : Bool := false
  b : Bool := false
  held : Bool := false
  building : Option FrameOwner := none

namespace Flow

def next? (σ : Flow) : Operation → Option Flow
  | .loadA _ => some { σ with a := true }
  | .loadB _ => some { σ with b := true }
  -- A value is moved, so that no two registers share its text.
  | .heldToA => if σ.held then some { σ with a := true, held := false } else none
  | .heldToB => if σ.held then some { σ with b := true, held := false } else none
  | .swap => some { σ with a := σ.b, b := σ.a }
  | .clear => some { σ with a := true, b := true, held := true }
  | .arith _ => if σ.a && σ.b then some { σ with a := false } else none
  | .compare => if σ.a && σ.b then some σ else none
  | .executeIf _ | .endIf => if σ.building = none then some {} else none
  | .readLocal _ | .readGlobal _ | .readInput => some { σ with held := true }
  | .writeLocal _ | .writeGlobal _ | .assertKind _ | .toInteger | .toNumber | .toText | .print
  | .printDebug => if σ.b then some σ else none
  | .writeArgument _ => if σ.b && σ.building.isSome then some σ else none
  | .newFrame code =>
    if σ.building = none then
      some { σ with building := some (if code = -1 then .plugin else .code code.toNat) }
    else none
  | .startFrame => if σ.building.isSome && σ.building != some .plugin then some {} else none
  | .callPlugin _ => if σ.building = some .plugin then some {} else none
  | .returnValue => if σ.b && σ.building.isNone then some {} else none
  | .newLine | .flush | .quit => some σ
  | .unknown _ => none

/-- What is known after operations. -/
def after? (σ : Flow) (ops : List Operation) : Option Flow := ops.foldlM next? σ

@[simp] theorem after?_nil (σ : Flow) : σ.after? [] = some σ := rfl

@[simp] theorem after?_cons (σ : Flow) (op : Operation) (ops : List Operation) :
    σ.after? (op :: ops) = (σ.next? op).bind (·.after? ops) := rfl

theorem after?_append (σ : Flow) (ops more : List Operation) :
    σ.after? (ops ++ more) = (σ.after? ops).bind (·.after? more) := by
  simp only [after?, List.foldlM_append]
  rfl

end Flow

-- ---------------------------------------------------------------------------
-- Registers
-- ---------------------------------------------------------------------------

inductive Register where
  | a
  | b
  | held
  deriving DecidableEq

/-- The register that stands in the place of another when two are exchanged. -/
def Register.exchange (r₁ r₂ r : Register) : Register :=
  if r = r₁ then r₂ else if r = r₂ then r₁ else r

theorem Register.exchange_exchange (r₁ r₂ r : Register) : exchange r₁ r₂ (exchange r₁ r₂ r) = r := by
  cases r₁ <;> cases r₂ <;> cases r <;> rfl

def Machine.register (m : Machine) : Register → Value
  | .a => m.a
  | .b => m.b
  | .held => m.held

namespace Flow

def live (σ : Flow) : Register → Bool
  | .a => σ.a
  | .b => σ.b
  | .held => σ.held

/-- What is known is true of the registers. -/
structure Fits (σ : Flow) (m : Machine) : Prop where
  live : ∀ r, σ.live r = true → m.texts.Live (m.register r)
  apart : ∀ r r', r ≠ r' → σ.live r = true → σ.live r' = true →
    TextStore.Apart (m.register r) (m.register r')

section
variable {σ σ' : Flow} {m m' : Machine}

theorem fits_empty (m : Machine) : Fits {} m := by
  constructor
  · intro r
    cases r <;> exact nofun
  · intro r r' _
    cases r <;> exact nofun

theorem fits_null (h : ∀ r, m.register r = .null) : Fits σ m := by
  constructor
  · intro r _
    rw [h]
    exact ⟨.null, rfl⟩
  · intro r r' _ _ _ id hid
    rw [h] at hid
    cases hid

theorem Fits.exchange (h : σ.Fits m) (r₁ r₂ : Register) (ht : m'.texts = m.texts)
    (hm : ∀ r, σ'.live r = true →
      σ.live (r₁.exchange r₂ r) = true ∧ m'.register r = m.register (r₁.exchange r₂ r)) :
    σ'.Fits m' := by
  constructor
  · intro r hr
    rw [ht, (hm r hr).2]
    exact h.live _ (hm r hr).1
  · intro r r' hne hr hr'
    rw [(hm r hr).2, (hm r' hr').2]
    refine h.apart _ _ (fun he => hne ?_) (hm r hr).1 (hm r' hr').1
    rw [← r₁.exchange_exchange r₂ r, he, r₁.exchange_exchange]

theorem Fits.same (h : σ.Fits m) (hr : m'.register = m.register) (ht : m'.texts = m.texts) :
    σ.Fits m' := by
  constructor
  · rw [hr, ht]
    exact h.live
  · rw [hr]
    exact h.apart

theorem Fits.grow (h : σ.Fits m) (hs : m.texts.WellFormed) (hr : m'.register = m.register)
    (ht : m.texts.Extends m'.texts) : σ.Fits m' := by
  constructor
  · intro r hr'
    rw [hr]
    exact ht.live hs (h.live r hr')
  · rw [hr]
    exact h.apart

theorem Fits.load (h : σ.Fits m) (hs : m.texts.WellFormed) (ht : m.texts.Extends m'.texts)
    (r : Register) (hother : ∀ r', r' ≠ r → σ'.live r' = σ.live r' ∧ m'.register r' = m.register r')
    {k : Constant} (hlive : m'.texts.constant? (m'.register r) = some k)
    (hfresh : ∀ id, m'.register r = .text id → id = m.texts.next) : σ'.Fits m' := by
  have happart {r' : Register} (hne : r' ≠ r) (hr' : σ'.live r' = true) :
      TextStore.Apart (m'.register r') (m'.register r) := by
    obtain ⟨hl, hv⟩ := hother r' hne
    rw [hv]
    exact TextStore.apart_of_fresh hs (h.live r' (hl ▸ hr')) hfresh
  constructor
  · intro r' hr'
    by_cases hne : r' = r
    · rw [hne]
      exact ⟨k, hlive⟩
    · obtain ⟨hl, hv⟩ := hother r' hne
      rw [hv]
      exact ht.live hs (h.live r' (hl ▸ hr'))
  · intro r₁ r₂ hne hr₁ hr₂
    by_cases h₁ : r₁ = r
    · subst h₁
      exact (happart hne.symm hr₂).symm
    · by_cases h₂ : r₂ = r
      · subst h₂
        exact happart h₁ hr₁
      · rw [(hother r₁ h₁).2, (hother r₂ h₂).2]
        exact h.apart r₁ r₂ hne ((hother r₁ h₁).1 ▸ hr₁) ((hother r₂ h₂).1 ▸ hr₂)

theorem Fits.intern (h : σ.Fits m) (hs : m.texts.WellFormed) (k : Constant) (r : Register)
    (hr : m'.register r = (m.texts.intern k).1) (ht : m'.texts = (m.texts.intern k).2)
    (hother : ∀ r', r' ≠ r → σ'.live r' = σ.live r' ∧ m'.register r' = m.register r') :
    σ'.Fits m' := by
  obtain ⟨hext, hconst, hfresh⟩ := TextStore.intern_ok m.texts k
  refine h.load hs (ht ▸ hext) r hother (k := k) ?_ ?_
  · rw [hr, ht, hconst]
  · rw [hr]
    exact hfresh

/-- A register that takes a value which is no text, while the texts of the others are
kept. -/
theorem Fits.convert (h : σ.Fits m) (hb : σ.b = true) {x : Value} {texts : TextStore}
    (hx : ∀ id, x ≠ .text id) (ht : ∀ i, m.b ≠ .text i → texts.find? i = m.texts.find? i) :
    σ.Fits { m with b := x, texts } := by
  have hlive : texts.Live x := by
    cases x with
    | text id => exact absurd rfl (hx id)
    | _ => exact ⟨_, rfl⟩
  have hother {r : Register} (hr : σ.live r = true) (hne : r ≠ .b) : texts.Live (m.register r) := by
    obtain ⟨k, hk⟩ := h.live r hr
    refine ⟨k, (TextStore.constant?_congr fun i hi => ht i fun he => ?_).trans hk⟩
    exact h.apart .b r (Ne.symm hne) hb hr i he hi
  constructor
  · intro r hr
    cases r with
    | a => exact hother hr nofun
    | b => exact hlive
    | held => exact hother hr nofun
  · intro r r' hne hr hr'
    match r, r' with
    | .a, .a | .b, .b | .held, .held => exact absurd rfl hne
    | .a, .held | .held, .a => exact h.apart _ _ hne hr hr'
    | .b, .a | .b, .held => exact fun i hi => absurd hi (hx i)
    | .a, .b | .held, .b => exact fun i _ hi => absurd hi (hx i)

end
end Flow

/-- What an operation refers to is there. -/
def Operation.InRange (p : Program) (plugins : Array Plugin) (size : Nat) : Operation → Prop
  | .readLocal operand | .writeLocal operand | .readGlobal operand | .writeGlobal operand
  | .writeArgument operand => 0 ≤ operand ∧ operand < size
  | .newFrame code => code = -1 ∨ p.hasCode code = true
  | .callPlugin index =>
    0 ≤ index ∧ ∃ plugin, plugins[index.toNat]? = some plugin ∧ plugin.params.length < size
  | _ => True

namespace Machine

def building (m : Machine) : Option FrameOwner :=
  m.calls.head?.bind fun frame => if frame.ready then none else some frame.owner

/-- An operation that succeeds leaves what is known true, and fails only in ways that
a correct program can fail. -/
def Fine (m : Machine) (σ : Flow) : Outcome → Prop
  | (m', .ok _) => σ.Fits m'
  | (_, .error fault) => fault.Harmless ∨ m.HostFault fault

section
variable {p : Program} {m m' : Machine} {σ σ' : Flow} {fault : Fault}

theorem fine_of_kind {kind : ErrorKind} (h : fault.kind = kind) (hf : kind ≠ .frameOverflow)
    (hs : kind ≠ .storageMiss) (hi : kind ≠ .internal) : m.Fine σ (m', .error fault) :=
  .inl (.inr (h ▸ ⟨hf, hs, hi⟩))

-- ---------------------------------------------------------------------------
-- Values
-- ---------------------------------------------------------------------------

theorem kind_of_apply {op : Arithmetic} {u v : Constant} {kind : ErrorKind}
    (h : op.apply u v = .error kind) : kind = .type ∨ kind = .divisionByZero := by
  unfold Arithmetic.apply at h
  split at h
  all_goals first
    | exact .inl (Except.error.inj h).symm
    | cases h
    | split at h <;> cases h
      simp

theorem Fine.arith (h : σ.Fits m) (hs : m.texts.WellFormed) (ha : σ.a = true) (hb : σ.b = true)
    (op : Arithmetic) : m.Fine { σ with a := false } (m.setB (m.texts.arithmetic op m.a m.b)) := by
  obtain ⟨u, hu⟩ := h.live .a ha
  obtain ⟨v, hv⟩ := h.live .b hb
  obtain ⟨-, hothers, hagrees⟩ : m.texts.Computes m.a m.b (op.apply u v)
      (m.texts.arithmetic op m.a m.b) :=
    TextStore.arithmetic_ok hs hu hv (h.apart .a .b nofun ha hb) op
  rcases hr : m.texts.arithmetic op m.a m.b with ⟨result, texts⟩
  rw [hr] at hothers hagrees
  cases hexpected : op.apply u v with
  | error kind =>
    simp only [hexpected] at hagrees
    obtain ⟨fault, rfl, hkind⟩ := hagrees
    rcases kind_of_apply hexpected with rfl | rfl
    · exact fine_of_kind hkind nofun nofun nofun
    · exact fine_of_kind hkind nofun nofun nofun
  | ok w =>
    simp only [hexpected] at hagrees
    obtain ⟨x, rfl, hx, htext⟩ := hagrees
    have happart (hh : σ.held = true) : TextStore.Apart x m.held := by
      intro i hi
      exact h.apart .a .held nofun ha hh i (htext i hi)
    show Flow.Fits { σ with a := false } { m with b := x, texts }
    constructor
    · intro r hr'
      cases r with
      | a => cases hr'
      | b => exact ⟨w, hx⟩
      | held =>
        obtain ⟨k, hk⟩ := h.live .held hr'
        refine ⟨k, (TextStore.constant?_congr fun i hi => hothers i ?_ ?_).trans hk⟩
        · intro he
          exact h.apart .a .held nofun ha hr' i he hi
        · intro he
          exact h.apart .b .held nofun hb hr' i he hi
    · intro r r' hne hr' hr''
      match r, r' with
      | .a, _ => cases hr'
      | _, .a => cases hr''
      | .b, .b => exact absurd rfl hne
      | .held, .held => exact absurd rfl hne
      | .b, .held => exact happart hr''
      | .held, .b => exact (happart hr').symm

theorem Fine.toInteger (h : σ.Fits m) (hs : m.texts.WellFormed) (hb : σ.b = true) :
    m.Fine σ (m.setB (m.texts.toInteger m.b)) := by
  obtain ⟨k, hk⟩ := h.live .b hb
  have hk : m.texts.constant? m.b = some k := hk
  cases hv : m.b with
  | null => exact fine_of_kind rfl nofun nofun nofun
  | int n => exact h.convert hb (x := .int n) nofun fun _ _ => rfl
  | number x =>
    simp only [TextStore.toInteger]
    split
    · exact h.convert hb nofun fun _ _ => rfl
    · exact fine_of_kind rfl nofun nofun nofun
  | text id =>
    rw [hv] at hk
    obtain ⟨t, ht, -⟩ := TextStore.constant?_text.mp hk
    obtain ⟨taken, htake, -, -, hfind⟩ := TextStore.take_ok hs ht
    simp only [TextStore.toInteger, htake]
    split
    · refine h.convert hb nofun fun i hi => ?_
      rw [hfind, if_neg fun e => hi (by rw [hv, e])]
    · exact fine_of_kind rfl nofun nofun nofun

theorem Fine.toNumber (h : σ.Fits m) (hs : m.texts.WellFormed) (hb : σ.b = true) :
    m.Fine σ (m.setB (m.texts.toNumber m.b)) := by
  obtain ⟨k, hk⟩ := h.live .b hb
  have hk : m.texts.constant? m.b = some k := hk
  cases hv : m.b with
  | null => exact fine_of_kind rfl nofun nofun nofun
  | int n => exact h.convert hb (x := .number (.ofInt64 n)) nofun fun _ _ => rfl
  | number x => exact h.convert hb (x := .number x) nofun fun _ _ => rfl
  | text id =>
    rw [hv] at hk
    obtain ⟨t, ht, -⟩ := TextStore.constant?_text.mp hk
    obtain ⟨taken, htake, -, -, hfind⟩ := TextStore.take_ok hs ht
    simp only [TextStore.toNumber, htake]
    split
    · refine h.convert hb nofun fun i hi => ?_
      rw [hfind, if_neg fun e => hi (by rw [hv, e])]
    · exact fine_of_kind rfl nofun nofun nofun

theorem Fine.toText (h : σ.Fits m) (hs : m.texts.WellFormed) :
    m.Fine σ (m.setB (m.texts.toText m.b)) := by
  have hfresh (t : Text) : σ.Fits
      { m with b := (m.texts.intern (.text t)).1, texts := (m.texts.intern (.text t)).2 } := by
    refine h.intern hs (.text t) .b rfl rfl fun r hr => ⟨rfl, ?_⟩
    cases r with
    | b => exact absurd rfl hr
    | _ => rfl
  cases hv : m.b with
  | text id =>
    refine h.same ?_ rfl
    funext r
    cases r with
    | b => exact hv.symm
    | _ => rfl
  | _ => exact hfresh _

theorem Fine.assertKind (h : σ.Fits m) (hb : σ.b = true) (kind : ParameterKind) :
    m.Fine σ (execute p m (.assertKind kind)) := by
  have hplain {v : Value} (hv : ∀ id, v ≠ .text id) : σ.Fits { m with b := v } :=
    h.convert hb hv fun _ _ => rfl
  have htext {id : Nat} (hv : m.b = .text id) : σ.Fits { m with b := .text id } := by
    refine h.same (funext fun r => ?_) rfl
    cases r with
    | b => exact hv.symm
    | _ => rfl
  simp only [execute]
  split
  · rename_i v hv
    unfold Value.assertKind at hv
    split at hv <;> cases hv
    · exact hplain (by rintro _ ⟨⟩)
    · exact hplain (by rintro _ ⟨⟩)
    · exact hplain (by rintro _ ⟨⟩)
    · exact htext ‹_›
  · rename_i fault hfault
    unfold Value.assertKind at hfault
    split at hfault <;> cases hfault
    exact @fine_of_kind _ _ _ _ .type rfl (by decide) (by decide) (by decide)

theorem register_modifyCurrent (m : Machine) (g : Frame → Frame) :
    (m.modifyCurrent g).register = m.register := by
  funext r
  cases r with
  | a => exact modifyCurrent_a m g
  | b => exact modifyCurrent_b m g
  | held => exact modifyCurrent_held m g

theorem get_ok {texts : TextStore} {id : Nat} (h : texts.Live (.text id)) :
    ∃ t, texts.get id = .ok t := by
  obtain ⟨k, hk⟩ := h
  obtain ⟨t, ht, -⟩ := TextStore.constant?_text.mp hk
  exact ⟨t, by simp [TextStore.get, ht]⟩

theorem compare_ok {texts : TextStore} {v w : Value} (hv : texts.Live v) (hw : texts.Live w) :
    ∃ comparison, texts.compare v w = .ok comparison := by
  unfold TextStore.compare
  split
  all_goals first | exact ⟨_, rfl⟩ | skip
  obtain ⟨x, hx⟩ := get_ok hv
  obtain ⟨y, hy⟩ := get_ok hw
  exact ⟨_, by simp [hx, hy, bind, Except.bind]; rfl⟩

theorem display_ok {texts : TextStore} {v : Value} (h : texts.Live v) :
    ∃ t, texts.display v = .ok t := by
  cases v with
  | text id => exact get_ok h
  | _ => exact ⟨_, rfl⟩

theorem inspect_ok {texts : TextStore} {v : Value} (h : texts.Live v) :
    ∃ t, texts.inspect v = .ok t := by
  cases v with
  | text id =>
    obtain ⟨t, ht⟩ := get_ok h
    exact ⟨_, by simp [TextStore.inspect, ht, Except.map]; rfl⟩
  | _ => exact ⟨_, rfl⟩

theorem Fine.emit (h : σ.Fits m) {t : Except Fault Text} (ht : ∃ text, t = .ok text) :
    m.Fine σ (m.emit t) := by
  obtain ⟨text, rfl⟩ := ht
  exact h.same rfl rfl

-- ---------------------------------------------------------------------------
-- Slots
-- ---------------------------------------------------------------------------

theorem Fine.readSlot (h : σ.Fits m) (hs : m.Sound) {frame : Frame} {operand : Int}
    (hf : frame.Sound m.frameSize) (ho : 0 ≤ operand ∧ operand < m.frameSize) :
    m.Fine { σ with held := true } (m.readSlot frame operand) := by
  obtain ⟨address, rfl⟩ := Int.eq_ofNat_of_zero_le ho.1
  obtain ⟨k, v, texts, -, hload, hext, hconst, hfresh⟩ := hf.load_ok address m.texts
  rw [Machine.readSlot, hf.address (by omega)]
  simp only [hload]
  refine h.load hs.texts hext .held (fun r hr => ?_) hconst hfresh
  cases r with
  | held => exact absurd rfl hr
  | _ => exact ⟨rfl, rfl⟩

theorem writeSlot_ok (h : σ.Fits m) (hb : σ.b = true) {frame : Frame} {operand : Int}
    (hf : frame.Sound m.frameSize) (ho : 0 ≤ operand ∧ operand < m.frameSize) :
    ∃ frame', m.writeSlot frame operand = .ok frame' := by
  obtain ⟨address, rfl⟩ := Int.eq_ofNat_of_zero_le ho.1
  obtain ⟨k, hk⟩ := h.live .b hb
  obtain ⟨frame', hstore, -⟩ := hf.store_ok (show address < m.frameSize by omega) hk
  refine ⟨frame', ?_⟩
  rw [Machine.writeSlot, hf.address (by omega)]
  exact hstore

-- ---------------------------------------------------------------------------
-- Calls
-- ---------------------------------------------------------------------------

theorem Sound.storeResult_ok (h : m.Sound) {v : Value} (hv : m.texts.Live v) :
    ∃ frame, m.current.store 0 v m.texts = .ok frame := by
  obtain ⟨k, hk⟩ := hv
  have hsize := h.size
  obtain ⟨frame, hstore, -⟩ := h.current.store_ok (show 0 < m.frameSize by omega) hk
  exact ⟨frame, hstore⟩

theorem leave_ok (h : m.Sound) (hb : m.texts.Live m.b) (hbuild : m.building = none) :
    ∃ m', m.leave = (m', .ok ()) := by
  unfold leave
  split
  · exact ⟨m, rfl⟩
  · rename_i frame rest hc
    have hready : frame.ready = true := by
      simpa [building, hc] using hbuild
    obtain ⟨caller, hstore⟩ := (h.pop hc).storeResult_ok hb
    simp only [hready, if_true, hstore]
    exact ⟨_, rfl⟩

theorem loadArguments_ok {frame : Frame} {size : Nat} (hf : frame.Sound size) {texts : TextStore}
    (ht : texts.WellFormed) (address count : Nat) :
    ∃ args texts', loadArguments frame texts address count = (.ok args, texts') ∧
      ∀ v ∈ args, texts'.Live v := by
  induction count generalizing texts address with
  | zero => exact ⟨[], texts, rfl, nofun⟩
  | succ count ih =>
    obtain ⟨k, v, texts₁, -, hload, hext, hv, -⟩ := hf.load_ok address texts
    obtain ⟨args, texts', hargs, hlive⟩ := ih (hext.wellFormed ht) (address + 1)
    have hrest := extends_loadArguments frame texts₁ (address + 1) count
    rw [hargs] at hrest
    refine ⟨v :: args, texts', by simp [loadArguments, hload, hargs, Except.map], ?_⟩
    intro w hw
    rcases List.mem_cons.mp hw with rfl | hw
    · exact hrest.live (hext.wellFormed ht) ⟨k, hv⟩
    · exact hlive w hw

theorem calls_of_building {owner : FrameOwner} (h : m.building = some owner) :
    ∃ frame rest, m.calls = frame :: rest ∧ frame.ready = false ∧ frame.owner = owner := by
  unfold building at h
  cases hc : m.calls with
  | nil => simp [hc] at h
  | cons frame rest =>
    cases hr : frame.ready with
    | true => simp [hc, hr] at h
    | false =>
      refine ⟨frame, rest, rfl, hr, ?_⟩
      simpa [hc, hr] using h

/-- A plugin is called with arguments and gives a result, or fails by itself. -/
theorem Fine.callPlugin (h : m.Sound) (hp : ∀ plugin ∈ m.plugins, plugin.call.GivesLive)
    (hb : m.building = some .plugin) {index : Int} {plugin : Plugin}
    (hi : m.plugin? index = some plugin) : m.Fine {} (m.callPlugin index) := by
  obtain ⟨frame, rest, hc, hready, howner⟩ := calls_of_building hb
  have hmem := mem_plugins_of_plugin? hi
  obtain ⟨args, texts, hargs, hlive⟩ := loadArguments_ok (h.top hc) h.texts 1 plugin.params.length
  have hload := extends_loadArguments frame m.texts 1 plugin.params.length
  rw [hargs] at hload
  have hwf := hload.wellFormed h.texts
  have hcall := h.plugins plugin hmem texts args
  simp only [Machine.callPlugin, hi, hc, howner, hready, hargs]
  rcases hresult : plugin.call texts args with ⟨result, texts'⟩
  rw [hresult] at hcall
  cases result with
  | error cause =>
    exact .inr ⟨plugin, hmem, cause, ⟨texts, args, hwf, hlive, congrArg Prod.fst hresult⟩, rfl⟩
  | ok v =>
    have hv : texts'.Live v := hp plugin hmem texts args hwf hlive v texts' hresult
    have hcalled : ({ m with calls := rest, texts := texts' } : Machine).Sound :=
      (h.pop hc).of_eq rfl (fun _ hf => hf) rfl (hcall.wellFormed hwf)
    obtain ⟨caller, hstore⟩ := hcalled.storeResult_ok hv
    simp only [hstore]
    exact Flow.fits_empty _

theorem plugin?_inRange {index : Int}
    (h : Operation.InRange p m.plugins m.frameSize (.callPlugin index)) :
    ∃ plugin, m.plugin? index = some plugin := by
  obtain ⟨hi, plugin, hplugin, -⟩ := h
  exact ⟨plugin, by simp [plugin?, hi, hplugin]⟩

theorem Fine.pushFrame {code : Int} (h : σ.Fits m) (hc : code = -1 ∨ p.hasCode code = true)
    (building : Option FrameOwner) : m.Fine { σ with building } (pushFrame p m code) := by
  have hfits (calls : List Frame) : Flow.Fits { σ with building } { m with calls } :=
    ⟨h.live, h.apart⟩
  unfold Machine.pushFrame
  split
  · exact .inl (.inl rfl)
  · split
    · exact hfits _
    · rename_i hcode
      rw [if_pos (hc.resolve_left hcode)]
      exact hfits _

theorem Fine.writeArgument {operand : Int} (h : σ.Fits m) (hs : m.Sound) (hb : σ.b = true)
    (hbuild : m.building.isSome = true) (ho : 0 ≤ operand ∧ operand < m.frameSize) :
    m.Fine σ (m.writeArgument operand) := by
  obtain ⟨owner, howner⟩ := Option.isSome_iff_exists.mp hbuild
  obtain ⟨frame, rest, hc, hready, -⟩ := calls_of_building howner
  obtain ⟨frame', hwrite⟩ := writeSlot_ok h hb (hs.top hc) ho
  simp only [Machine.writeArgument, hc, hready, hwrite]
  exact h.same rfl rfl

theorem Fine.readInput (h : σ.Fits m) (hs : m.Sound) : m.Fine { σ with held := true } m.readInput := by
  unfold Machine.readInput
  simp only
  split
  · exact fine_of_kind rfl nofun nofun nofun
  all_goals
    refine h.intern hs.texts (.text _) .held rfl rfl fun r hr => ?_
    cases r with
    | held => exact absurd rfl hr
    | _ => exact ⟨rfl, rfl⟩

-- ---------------------------------------------------------------------------
-- All operations
-- ---------------------------------------------------------------------------

/-- No operation that passes goes wrong. -/
theorem execute_fine {op : Operation} (h : m.Sound)
    (hp : ∀ plugin ∈ m.plugins, plugin.call.GivesLive) (hop : op.InRange p m.plugins m.frameSize)
    (hf : σ.Fits m) (hb : m.building = σ.building) (hσ : σ.next? op = some σ') :
    m.Fine σ' (execute p m op) := by
  cases op with
  | loadA k =>
    cases hσ
    refine hf.intern h.texts k .a rfl rfl fun r hr => ?_
    cases r with
    | a => exact absurd rfl hr
    | _ => exact ⟨rfl, rfl⟩
  | loadB k =>
    cases hσ
    refine hf.intern h.texts k .b rfl rfl fun r hr => ?_
    cases r with
    | b => exact absurd rfl hr
    | _ => exact ⟨rfl, rfl⟩
  | heldToA =>
    obtain ⟨hh, he⟩ := Option.ite_none_right_eq_some.mp hσ
    cases he
    refine hf.exchange .a .held rfl fun r hr => ?_
    cases r with
    | a => exact ⟨hh, rfl⟩
    | b => exact ⟨hr, rfl⟩
    | held => cases hr
  | heldToB =>
    obtain ⟨hh, he⟩ := Option.ite_none_right_eq_some.mp hσ
    cases he
    refine hf.exchange .b .held rfl fun r hr => ?_
    cases r with
    | a => exact ⟨hr, rfl⟩
    | b => exact ⟨hh, rfl⟩
    | held => cases hr
  | swap =>
    cases hσ
    refine hf.exchange .a .b rfl fun r hr => ?_
    cases r with
    | a => exact ⟨hr, rfl⟩
    | b => exact ⟨hr, rfl⟩
    | held => exact ⟨hr, rfl⟩
  | clear =>
    cases hσ
    refine Flow.fits_null fun r => ?_
    cases r <;> rfl
  | arith op =>
    obtain ⟨hab, he⟩ := Option.ite_none_right_eq_some.mp hσ
    obtain ⟨ha, hb⟩ := Bool.and_eq_true_iff.mp hab
    cases he
    exact Fine.arith hf h.texts ha hb op
  | compare =>
    obtain ⟨hab, he⟩ := Option.ite_none_right_eq_some.mp hσ
    obtain ⟨ha, hb⟩ := Bool.and_eq_true_iff.mp hab
    cases he
    obtain ⟨comparison, hcompare⟩ := compare_ok (hf.live .a ha) (hf.live .b hb)
    have hcompare : m.texts.compare m.a m.b = .ok comparison := hcompare
    simp only [execute, hcompare]
    exact hf.same (register_modifyCurrent _ _) (modifyCurrent_texts _ _)
  | executeIf requirement =>
    cases (Option.ite_none_right_eq_some.mp hσ).2
    simp only [execute]
    split <;> exact Flow.fits_empty _
  | endIf =>
    cases (Option.ite_none_right_eq_some.mp hσ).2
    exact Flow.fits_empty _
  | readLocal operand =>
    cases hσ
    exact Fine.readSlot hf h h.current hop
  | readGlobal operand =>
    cases hσ
    exact Fine.readSlot hf h h.global hop
  | writeLocal operand =>
    obtain ⟨hb, he⟩ := Option.ite_none_right_eq_some.mp hσ
    cases he
    obtain ⟨frame, hwrite⟩ := writeSlot_ok hf hb h.current hop
    simp only [execute, hwrite]
    exact hf.same (register_modifyCurrent _ _) (modifyCurrent_texts _ _)
  | writeGlobal operand =>
    obtain ⟨hb, he⟩ := Option.ite_none_right_eq_some.mp hσ
    cases he
    obtain ⟨global, hwrite⟩ := writeSlot_ok hf hb h.global hop
    simp only [execute, hwrite]
    exact hf.same rfl rfl
  | writeArgument operand =>
    obtain ⟨hbb, he⟩ := Option.ite_none_right_eq_some.mp hσ
    obtain ⟨hreg, hbuild⟩ := Bool.and_eq_true_iff.mp hbb
    cases he
    exact Fine.writeArgument hf h hreg (hb ▸ hbuild) hop
  | newFrame code =>
    cases (Option.ite_none_right_eq_some.mp hσ).2
    exact Fine.pushFrame hf hop _
  | assertKind kind =>
    obtain ⟨hb, he⟩ := Option.ite_none_right_eq_some.mp hσ
    cases he
    exact Fine.assertKind hf hb kind
  | startFrame =>
    obtain ⟨hbuild, he⟩ := Option.ite_none_right_eq_some.mp hσ
    obtain ⟨hsome, hne⟩ := Bool.and_eq_true_iff.mp hbuild
    cases he
    obtain ⟨owner, howner⟩ := Option.isSome_iff_exists.mp hsome
    obtain ⟨frame, rest, hc, hready, hframe⟩ := calls_of_building (hb.trans howner)
    have hplugin : frame.owner ≠ .plugin := by
      rintro he
      simp [howner, ← hframe, he] at hne
    simp only [execute, Machine.startFrame, hc, hready]
    simp only [hplugin, decide_false, Bool.or_self, Bool.false_eq_true, if_false]
    exact Flow.fits_empty _
  | callPlugin index =>
    obtain ⟨hbuild, he⟩ := Option.ite_none_right_eq_some.mp hσ
    cases he
    obtain ⟨plugin, hplugin⟩ := plugin?_inRange hop
    exact Fine.callPlugin h hp (hb.trans hbuild) hplugin
  | returnValue =>
    obtain ⟨hbb, he⟩ := Option.ite_none_right_eq_some.mp hσ
    obtain ⟨hreg, hbuild⟩ := Bool.and_eq_true_iff.mp hbb
    cases he
    simp only [execute]
    split
    · exact Flow.fits_empty _
    · obtain ⟨m', hleave⟩ := leave_ok h (hf.live .b hreg) (hb.trans (by simpa using hbuild))
      simp only [hleave]
      exact Flow.fits_empty _
  | readInput =>
    cases hσ
    exact Fine.readInput hf h
  | toInteger =>
    obtain ⟨hb, he⟩ := Option.ite_none_right_eq_some.mp hσ
    cases he
    exact Fine.toInteger hf h.texts hb
  | toNumber =>
    obtain ⟨hb, he⟩ := Option.ite_none_right_eq_some.mp hσ
    cases he
    exact Fine.toNumber hf h.texts hb
  | toText =>
    cases (Option.ite_none_right_eq_some.mp hσ).2
    exact Fine.toText hf h.texts
  | print =>
    obtain ⟨hb, he⟩ := Option.ite_none_right_eq_some.mp hσ
    cases he
    exact Fine.emit hf (display_ok (hf.live .b hb))
  | printDebug =>
    obtain ⟨hb, he⟩ := Option.ite_none_right_eq_some.mp hσ
    cases he
    exact Fine.emit hf (inspect_ok (hf.live .b hb))
  | newLine =>
    cases hσ
    exact hf.same rfl rfl
  | flush =>
    cases hσ
    simp only [execute]
    split
    · exact hf.same rfl rfl
    · exact fine_of_kind rfl (by decide) (by decide) (by decide)
  | quit =>
    cases hσ
    exact hf
  | unknown code => cases hσ

end
end Machine
end Birl
