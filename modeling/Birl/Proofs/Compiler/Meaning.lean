import Birl.Proofs.Compiler.Matching

/-!
# The meaning of compiled expressions

Running the code of an expression in a machine that matches the compiler leaves
the value of its tree in register `b`, or fails with the first error of the tree
(`Compiles.runs`). The parts of the code are taken one by one: loading an operand,
applying an operation to it, keeping a value in a hidden slot and folding it in
again. Each part is run from a machine that stands before its code (`Poised`), and
leaves one that stands before what comes next.
-/

namespace Birl

open Machine
open TextStore (Apart)

namespace Machine

-- ---------------------------------------------------------------------------
-- Runs through straight code
-- ---------------------------------------------------------------------------

/-- So many Normal steps move the current frame on by as many instructions. -/
structure Goes (p : Program) (base n : Nat) (m m' : Machine) : Prop where
  steps : NormalSteps p n m m'
  pc : m'.current.pc = m.current.pc + n
  kept : Kept base m m'

/-- The next instructions of the current frame, `n` of them, leave a value in
register `b`, or one of them fails with an error of a given class. -/
def Runs (p : Program) (base n : Nat) (m : Machine) : Except ErrorKind Constant → Prop
  | .ok v => ∃ m', Goes p base n m m' ∧ m'.texts.constant? m'.b = some v
  | .error kind => ∃ i m' m'' e, i < n ∧ NormalSteps p i m m' ∧ step p m' = (m'', .error e) ∧
      e.kind = kind ∧ Kept base m m''

section
variable {p : Program} {m m' m'' : Machine} {base base' n n' : Nat} {op : Operation}
  {ops more : List Operation} {r r' : Except ErrorKind Constant}

theorem Goes.refl (h : m.Sound) : Goes p base 0 m m := ⟨.refl, rfl, .refl h⟩

theorem Goes.trans (h : Goes p base n m m') (h' : Goes p base' n' m' m'') (hb : base ≤ base') :
    Goes p base (n + n') m m'' := by
  refine ⟨h.steps.trans h'.steps, ?_, h.kept.trans h'.kept hb⟩
  rw [h'.pc, h.pc, Nat.add_assoc]

theorem Goes.mono (h : Goes p base' n m m') (hb : base ≤ base') : Goes p base n m m' :=
  ⟨h.steps, h.pc, h.kept.mono hb⟩

theorem Goes.ahead (h : Goes p base ops.length m m') (ha : Ahead p m (ops ++ more)) :
    Ahead p m' more :=
  ha.drop h.kept.owner h.pc

theorem Goes.ahead_one (h : Goes p base 1 m m') (ha : Ahead p m (op :: more)) : Ahead p m' more :=
  @Ahead.drop p m [op] more m' ha h.kept.owner h.pc

theorem Goes.runs (h : Goes p base n m m') (hr : Runs p base' n' m' r) (hb : base ≤ base') :
    Runs p base (n + n') m r := by
  cases r with
  | ok v =>
    obtain ⟨m'', hgoes, hv⟩ := hr
    exact ⟨m'', h.trans hgoes hb, hv⟩
  | error kind =>
    obtain ⟨i, m₁, m₂, e, hi, hsteps, hstep, hkind, hkept⟩ := hr
    exact ⟨n + i, m₁, m₂, e, by omega, h.steps.trans hsteps, hstep, hkind, h.kept.trans hkept hb⟩

/-- What follows a run goes on from its value; an error is the error of the whole. -/
theorem Runs.next (h : Runs p base n m r) (hb : base' ≤ base)
    (hok : ∀ v m', r = .ok v → Goes p base n m m' → m'.texts.constant? m'.b = some v →
      Runs p base' n' m' r')
    (herr : ∀ kind, r = .error kind → r' = .error kind) : Runs p base' (n + n') m r' := by
  cases r with
  | ok v =>
    obtain ⟨m', hgoes, hv⟩ := h
    exact (hgoes.mono hb).runs (hok v m' rfl hgoes hv) (Nat.le_refl _)
  | error kind =>
    obtain ⟨i, m₁, m₂, e, hi, hsteps, hstep, hkind, hkept⟩ := h
    rw [herr kind rfl]
    exact ⟨i, m₁, m₂, e, by omega, hsteps, hstep, hkind, hkept.mono hb⟩

theorem goes_one (ha : Ahead p m (op :: ops)) (hk : m.current.skip = 0)
    (he : execute p m.advance op = (m', .ok .normal)) (hpc : m'.current.pc = m.current.pc + 1)
    (hkept : Kept base m m') : Goes p base 1 m m' := by
  exact ⟨.step (ha.step_ok hk he) .refl, hpc, hkept⟩

-- ---------------------------------------------------------------------------
-- Registers
-- ---------------------------------------------------------------------------

@[simp] theorem advance_a (m : Machine) : m.advance.a = m.a := modifyCurrent_a m _

@[simp] theorem advance_b (m : Machine) : m.advance.b = m.b := modifyCurrent_b m _

@[simp] theorem advance_held (m : Machine) : m.advance.held = m.held := modifyCurrent_held m _

@[simp] theorem advance_texts (m : Machine) : m.advance.texts = m.texts := modifyCurrent_texts m _

@[simp] theorem advance_frameSize (m : Machine) : m.advance.frameSize = m.frameSize :=
  modifyCurrent_frameSize m _

theorem kept_registers (h : m.Sound) {a b held : Value} {texts : TextStore}
    (ht : texts.WellFormed) : Kept base m { m.advance with a, b, held, texts } := by
  have hcur : ({ m.advance with a, b, held, texts } : Machine).current =
      { m.current with pc := m.current.pc + 1 } := m.current_advance
  refine ⟨h.advance.of_eq rfl (fun _ hf => hf) rfl ht, ?_, ?_, ?_, ?_, ?_, fun address _ => ?_⟩
  · rw [hcur]
    have hadv : m.advance = m.modifyCurrent fun _ => { m.current with pc := m.current.pc + 1 } :=
      modifyCurrent_congr rfl
    rw [hadv]
    rfl
  all_goals rw [hcur]
  rfl

theorem goes_registers (h : m.Sound) (ha : Ahead p m (op :: ops)) (hk : m.current.skip = 0)
    {a b held : Value} {texts : TextStore} (ht : texts.WellFormed)
    (he : execute p m.advance op = ({ m.advance with a, b, held, texts }, .ok .normal)) :
    Goes p base 1 m { m.advance with a, b, held, texts } := by
  refine goes_one ha hk he ?_ (kept_registers h ht)
  have hcur : ({ m.advance with a, b, held, texts } : Machine).current =
      { m.current with pc := m.current.pc + 1 } := m.current_advance
  rw [hcur]

theorem goes_swap (base : Nat) (h : m.Sound) (ha : Ahead p m (.swap :: ops)) (hk : m.current.skip = 0) :
    ∃ m', Goes p base 1 m m' ∧ m'.a = m.b ∧ m'.texts = m.texts := by
  refine ⟨{ m.advance with a := m.b, b := m.a, held := m.held, texts := m.texts },
    goes_registers h ha hk h.texts ?_, rfl, rfl⟩
  simp [execute, done]

theorem goes_heldToA (base : Nat) (h : m.Sound) (ha : Ahead p m (.heldToA :: ops)) (hk : m.current.skip = 0) :
    ∃ m', Goes p base 1 m m' ∧ m'.a = m.held ∧ m'.b = m.b ∧ m'.texts = m.texts := by
  refine ⟨{ m.advance with a := m.held, b := m.b, held := m.held, texts := m.texts },
    goes_registers h ha hk h.texts ?_, rfl, rfl, rfl⟩
  simp [execute, done]

theorem goes_heldToB (base : Nat) (h : m.Sound) (ha : Ahead p m (.heldToB :: ops)) (hk : m.current.skip = 0) :
    ∃ m', Goes p base 1 m m' ∧ m'.a = m.a ∧ m'.b = m.held ∧ m'.texts = m.texts := by
  refine ⟨{ m.advance with a := m.a, b := m.held, held := m.held, texts := m.texts },
    goes_registers h ha hk h.texts ?_, rfl, rfl, rfl⟩
  simp [execute, done]

theorem goes_loadB (base : Nat) (h : m.Sound) {k : Constant} (ha : Ahead p m (.loadB k :: ops))
    (hk : m.current.skip = 0) :
    ∃ m', Goes p base 1 m m' ∧ m'.a = m.a ∧ m.texts.Extends m'.texts ∧
      m'.texts.constant? m'.b = some k ∧ ∀ id, m'.b = .text id → id = m.texts.next := by
  obtain ⟨hext, hconst, hfresh⟩ := TextStore.intern_ok m.texts k
  refine ⟨{ m.advance with
    a := m.a, b := (m.texts.intern k).1, held := m.held, texts := (m.texts.intern k).2 },
    goes_registers h ha hk (hext.wellFormed h.texts) ?_, rfl, hext, hconst, hfresh⟩
  simp [execute, intern, done]

/-- Applying an operation to the two registers. -/
theorem runs_arith (base : Nat) (h : m.Sound) {op : Arithmetic} (ha : Ahead p m (.arith op :: ops))
    (hk : m.current.skip = 0) {u v : Constant} (hu : m.texts.constant? m.a = some u)
    (hv : m.texts.constant? m.b = some v) (hab : Apart m.a m.b) :
    Runs p base 1 m (op.apply u v) := by
  have hcomputes := TextStore.arithmetic_ok h.texts hu hv hab op
  have hexec : execute p m.advance (.arith op) =
      m.advance.setB (m.texts.arithmetic op m.a m.b) := by simp [execute]
  obtain ⟨hwf, -, hagrees⟩ := hcomputes
  rcases hr : m.texts.arithmetic op m.a m.b with ⟨result, texts⟩
  rw [hr] at hwf hagrees hexec
  cases hexpected : op.apply u v with
  | ok w =>
    simp only [hexpected] at hagrees
    obtain ⟨x, rfl, hx, -⟩ := hagrees
    refine ⟨{ m.advance with a := m.a, b := x, held := m.held, texts },
      goes_registers h ha hk hwf ?_, hx⟩
    simp [hexec, setB, done]
  | error kind =>
    simp only [hexpected] at hagrees
    obtain ⟨fault, rfl, hfault⟩ := hagrees
    have hfail : execute p m.advance (.arith op) =
        ({ m.advance with a := m.a, b := m.b, held := m.held, texts }, .error fault) := by
      simp [hexec, setB, fail]
    obtain ⟨line, function, hstep⟩ := ha.step_error hk hfail
    exact ⟨0, m, _, _, Nat.one_pos, .refl, hstep, hfault, kept_registers h hwf⟩

-- ---------------------------------------------------------------------------
-- Slots
-- ---------------------------------------------------------------------------

theorem frame_advance (symbol : Symbol) (m : Machine) :
    (symbol.frame m.advance).slots = (symbol.frame m).slots ∧
      (symbol.frame m.advance).texts = (symbol.frame m).texts := by
  have hglobal : m.advance.global.slots = m.global.slots ∧
      m.advance.global.texts = m.global.texts := by
    rcases m.current_cases with ⟨_, _, _, -, -, -, -, hmod⟩ | ⟨-, -, hmod⟩
    · rw [advance, hmod]
      exact ⟨rfl, rfl⟩
    · rw [advance, hmod]
      exact ⟨rfl, rfl⟩
  unfold Symbol.frame
  split
  · exact hglobal
  · rw [current_advance]
    exact ⟨rfl, rfl⟩

theorem Sound.frame (h : m.Sound) (symbol : Symbol) : (symbol.frame m).Sound m.frameSize := by
  unfold Symbol.frame
  split
  · exact h.global
  · exact h.current

theorem goes_read (base : Nat) (h : m.Sound) {symbol : Symbol} (ha : Ahead p m (symbol.read :: ops))
    (hk : m.current.skip = 0) (haddr : symbol.address < m.frameSize) :
    ∃ m' k, (symbol.frame m).constant? symbol.address = some k ∧ Goes p base 1 m m' ∧
      m'.a = m.a ∧ m'.b = m.b ∧ m.texts.Extends m'.texts ∧ m'.texts.constant? m'.held = some k ∧
      ∀ id, m'.held = .text id → id = m.texts.next := by
  obtain ⟨hslots, htexts⟩ := frame_advance symbol m
  have hframe : (symbol.frame m.advance).Sound m.frameSize := (h.frame symbol).congr hslots htexts
  obtain ⟨k, v, texts, hk', hload, hext, hv, hfresh⟩ := hframe.load_ok symbol.address m.texts
  have hconst : (symbol.frame m).constant? symbol.address = some k := by
    simpa [Frame.constant?, Frame.slot, hslots, htexts] using hk'
  have hexec : execute p m.advance symbol.read =
      ({ m.advance with a := m.a, b := m.b, held := v, texts }, .ok .normal) := by
    have hread : execute p m.advance symbol.read =
        m.advance.readSlot (symbol.frame m.advance) symbol.address := by
      unfold Symbol.read Symbol.frame
      split <;> rfl
    rw [hread, readSlot, hframe.address haddr]
    simp [hload, done]
  exact ⟨_, k, hconst, goes_registers h ha hk (hext.wellFormed h.texts) hexec, rfl, rfl, hext, hv,
    hfresh⟩

end
end Machine

namespace Compiler

section
variable {p : Program} {c : Compiler} {m m' : Machine} {base n : Nat} {ops : List Operation}

theorem Matches.frame_hidden (hm : Matches c m) (slot : Nat) : (c.hidden slot).frame m = m.current := by
  unfold Symbol.frame hidden
  cases hin : c.inGlobal with
  | true => exact (current_global (hm.place.symm.trans hin)).1.symm
  | false => rfl

theorem Matches.goes_write (hm : Matches c m) (h : m.Sound) {slot : Nat}
    (ha : Ahead p m ((c.hidden slot).write :: ops)) (hs : slot < c.frameSize) {v : Constant}
    (hv : m.texts.constant? m.b = some v) :
    ∃ m', Goes p slot 1 m m' ∧ m'.current.constant? slot = some v ∧ m'.b = m.b ∧
      m'.texts = m.texts := by
  have hadv : m.advance.current = { m.current with pc := m.current.pc + 1 } := m.current_advance
  have hsound : m.advance.current.Sound m.frameSize := by
    rw [hadv]
    exact h.current.congr rfl rfl
  have hslot : slot < m.frameSize := hm.size ▸ hs
  obtain ⟨frame, hstore, hframe, hconst, hsame⟩ := hsound.store_ok hslot hv
  have hready : frame.ready = m.advance.current.ready := by rw [hsame]
  -- Writing a slot of the global frame is writing one of the current frame here.
  have hexec : execute p m.advance (c.hidden slot).write =
      (m.advance.modifyCurrent fun _ => frame, .ok .normal) := by
    have hwrite : m.advance.writeSlot m.advance.current slot = .ok frame := by
      simp only [writeSlot, hsound.address hslot, bind, Except.bind, advance_b, advance_texts]
      exact hstore
    unfold Symbol.write hidden
    cases hin : c.inGlobal with
    | true =>
      have hplace : (lastReady? m.advance.calls).isNone = true := by
        rw [advance, lastReady_modifyCurrent rfl, ← hm.place, hin]
      obtain ⟨hglobal, hmod⟩ := current_global hplace
      rw [hglobal] at hwrite
      simp [execute, hwrite, hmod, done]
    | false => simp [execute, hwrite, done]
  have hcur : (m.advance.modifyCurrent fun _ => frame).current = frame :=
    current_modifyCurrent (g := fun _ => frame) hready
  have hmachine : (m.advance.modifyCurrent fun _ => frame) = m.modifyCurrent fun _ => frame := by
    rw [advance, modifyCurrent_modifyCurrent rfl]
  have hold (address : Nat) : m.advance.current.constant? address = m.current.constant? address := by
    rw [hadv]
    rfl
  refine ⟨_, goes_one ha hm.skip hexec ?_ ⟨?_, ?_, ?_, ?_, ?_, ?_, fun address ha => ?_⟩, ?_, ?_, ?_⟩
  · rw [hcur, hsame, hadv]
  · exact h.advance.modifyCurrent (by simpa using hframe)
  · rw [hcur, hmachine]
    rfl
  · rw [hcur, hsame, hadv]
  · rw [hcur, hsame, hadv]
  · rw [hcur, hsame, hadv]
  · rw [hcur, hsame, hadv]
  · rw [hcur, hconst, if_neg (by omega), hold]
  · rw [hcur, hconst, if_pos rfl]
  · simp
  · simp

-- ---------------------------------------------------------------------------
-- Before a piece of code
-- ---------------------------------------------------------------------------

variable {env : Text → Option Constant}

/-- The machine is where the compiler left off, with these values of the visible names,
and about to meet these operations. -/
structure Poised (env : Text → Option Constant) (p : Program) (c : Compiler) (m : Machine)
    (ops : List Operation) : Prop where
  sound : m.Sound
  machine : Matches c m
  environment : c.environment m = env
  ahead : Ahead p m ops

theorem Poised.kept {more : List Operation} (h : Poised env p c m ops) (hc : Layout c)
    (hb : c.next ≤ base) (hk : Kept base m m') (ha : Ahead p m' more) : Poised env p c m' more :=
  ⟨hk.sound, h.machine.kept hk, (hc.environment h.machine hk hb).trans h.environment, ha⟩

theorem Poised.goes {more : List Operation} (h : Poised env p c m (ops ++ more)) (hc : Layout c)
    (hb : c.next ≤ base) (hg : Goes p base ops.length m m') : Poised env p c m' more :=
  h.kept hc hb hg.kept (hg.ahead h.ahead)

theorem Poised.goes_one {op : Operation} (h : Poised env p c m (op :: ops)) (hc : Layout c)
    (hb : c.next ≤ base) (hg : Goes p base 1 m m') : Poised env p c m' ops :=
  h.kept hc hb hg.kept (hg.ahead_one h.ahead)

theorem Poised.first {more rest : List Operation} (h : Poised env p c m (ops ++ more ++ rest)) :
    Poised env p c m (ops ++ (more ++ rest)) := by
  rwa [List.append_assoc] at h

/-- Of code in two parts the second goes on from the value of the first; an error of the
first is the error of the whole. -/
theorem Poised.next {more rest : List Operation} {base' : Nat} {r r' : Except ErrorKind Constant}
    (h : Poised env p c m (ops ++ more ++ rest)) (hc : Layout c) (hn : c.next ≤ base)
    (hb : base' ≤ base) (hr : Runs p base ops.length m r)
    (hok : ∀ v m', r = .ok v → Kept base m m' → Poised env p c m' (more ++ rest) →
      m'.texts.constant? m'.b = some v → Runs p base' more.length m' r')
    (herr : ∀ kind, r = .error kind → r' = .error kind) : Runs p base' (ops ++ more).length m r' := by
  rw [List.length_append]
  refine Runs.next hr hb (fun v m' hv hgoes hconst => ?_) herr
  exact hok v m' hv hgoes.kept (h.first.goes hc hn hgoes) hconst

-- ---------------------------------------------------------------------------
-- Parts of the code
-- ---------------------------------------------------------------------------

/-- Loading an operand leaves its value in register `b`, under an id of its own if
it is a text. -/
theorem Loads.goes {node : Node} {load : List Operation} (hl : Loads c node load) (base : Nat)
    (hc : Layout c) (h : Poised env p c m (load ++ ops)) :
    ∃ t v m', node.tree? = some t ∧ t.eval env = .ok v ∧
      Goes p base load.length m m' ∧ m'.a = m.a ∧ m.texts.Extends m'.texts ∧
      m'.texts.constant? m'.b = some v ∧ ∀ id, m'.b = .text id → id = m.texts.next := by
  obtain ⟨hs, hm, rfl, ha⟩ := h
  cases hl with
  | literal k =>
    obtain ⟨m', hgoes, hsame, hext, hconst, hfresh⟩ := goes_loadB base hs ha hm.skip
    exact ⟨.literal k, k, m', rfl, rfl, hgoes, hsame, hext, hconst, hfresh⟩
  | @named name symbol hr =>
    have haddr : symbol.address < m.frameSize := hm.size ▸ (hc.resolve hr).1
    obtain ⟨m₁, k, hk, hread, ha₁, -, hext, hconst, hfresh⟩ := goes_read base hs ha hm.skip haddr
    have hm₁ := hm.kept hread.kept
    obtain ⟨m₂, hheld, ha₂, hb₂, htexts⟩ :=
      goes_heldToB base hread.kept.sound (hread.ahead_one ha) hm₁.skip
    refine ⟨.named name, k, m₂, rfl, ?_, hread.trans hheld (Nat.le_refl base), ha₂.trans ha₁, ?_, ?_, ?_⟩
    · simp [Tree.eval, Compiler.environment, hr, hk]
    · rw [htexts]
      exact hext
    · rw [htexts, hb₂, hconst]
    · rw [hb₂]
      exact hfresh

theorem Loads.runs_apply {node : Node} {load : List Operation} {op : Arithmetic}
    (hl : Loads c node load) (hb : c.next ≤ base) (hc : Layout c)
    (h : Poised env p c m (.swap :: load ++ op.operator.operations ++ ops)) {v : Constant}
    (hv : m.texts.constant? m.b = some v) :
    ∃ t w, node.tree? = some t ∧ t.eval env = .ok w ∧
      Runs p base (.swap :: load ++ op.operator.operations).length m (op.apply v w) := by
  have hops : op.operator.operations = [.arith op] := by cases op <;> rfl
  rw [hops] at h ⊢
  simp only [List.cons_append, List.append_assoc] at h
  obtain ⟨m₁, hswap, ha₁, ht₁⟩ := goes_swap base h.sound h.ahead h.machine.skip
  have h₁ := h.goes_one hc hb hswap
  obtain ⟨t, w, m₂, ht, hw, hload, ha₂, hext, hconst, hfresh⟩ := hl.goes base hc h₁
  have h₂ := h₁.goes hc hb hload
  have hv₁ : m₁.texts.constant? m₁.a = some v := by rw [ha₁, ht₁, hv]
  have hv₂ : m₂.texts.constant? m₂.a = some v := by
    rw [ha₂]
    exact hext.constant? h₁.sound.texts hv₁
  have happly := runs_arith base h₂.sound h₂.ahead h₂.machine.skip hv₂ hconst
    (TextStore.apart_of_fresh h₁.sound.texts ⟨v, ha₂ ▸ hv₁⟩ hfresh)
  have hgoes := hswap.trans hload (Nat.le_refl base)
  have hruns := hgoes.runs happly (Nat.le_refl base)
  refine ⟨t, w, ht, hw, ?_⟩
  simpa [Nat.add_comm, Nat.add_left_comm] using hruns

theorem Poised.runs_fold {slot : Nat} {op : Arithmetic}
    (h : Poised env p c m (c.foldInto slot op.operator ++ ops)) (hs : slot < c.frameSize)
    {u v : Constant} (hu : m.current.constant? slot = some u)
    (hv : m.texts.constant? m.b = some v) :
    Runs p base (c.foldInto slot op.operator).length m (op.apply u v) := by
  obtain ⟨hsound, hm, -, ha⟩ := h
  have hops : op.operator.operations = [.arith op] := by cases op <;> rfl
  simp only [foldInto, hops, List.cons_append, List.nil_append] at ha ⊢
  have haddr : (c.hidden slot).address < m.frameSize := hm.size ▸ hs
  obtain ⟨m₁, k, hk, hread, -, hb₁, hext, hconst, hfresh⟩ := goes_read base hsound ha hm.skip haddr
  rw [hm.frame_hidden] at hk
  have hku : k = u := Option.some.inj (hk.symm.trans hu)
  subst hku
  have hm₁ := hm.kept hread.kept
  have hahead₁ := hread.ahead_one ha
  obtain ⟨m₂, hheld, ha₂, hb₂, ht₂⟩ := goes_heldToA base hread.kept.sound hahead₁ hm₁.skip
  have hv₁ : m₁.texts.constant? m₁.b = some v := by
    rw [hb₁]
    exact hext.constant? hsound.texts hv
  have hapart : Apart m₂.a m₂.b := by
    rw [ha₂, hb₂, hb₁]
    exact (TextStore.apart_of_fresh hsound.texts ⟨v, hv⟩ hfresh).symm
  have happly := runs_arith base hheld.kept.sound (hheld.ahead_one hahead₁)
    (hm₁.kept hheld.kept).skip (by rw [ha₂, ht₂]; exact hconst) (by rw [hb₂, ht₂]; exact hv₁) hapart
  exact (hread.trans hheld (Nat.le_refl base)).runs happly (Nat.le_refl base)

/-- The left operand of an operation waits in a hidden slot while the right one is
computed in the slots above. -/
theorem Poised.runs_deferred {slot : Nat} {op : Arithmetic} {right : List Operation}
    {r : Except ErrorKind Constant}
    (h : Poised env p c m ((c.hidden slot).write :: right ++ c.foldInto slot op.operator ++ ops))
    (hc : Layout c) (hn : c.next ≤ slot) (hs : slot < c.frameSize) {v : Constant}
    (hv : m.texts.constant? m.b = some v)
    (hr : ∀ m', Poised env p c m' (right ++ (c.foldInto slot op.operator ++ ops)) →
      Runs p (slot + 1) right.length m' r) :
    Runs p slot ((c.hidden slot).write :: right ++ c.foldInto slot op.operator).length m
      (r >>= op.apply v) := by
  simp only [List.cons_append] at h ⊢
  obtain ⟨m₁, hwrite, hslot, -, -⟩ := h.machine.goes_write h.sound h.ahead hs hv
  have h₁ := h.goes_one hc hn hwrite
  have hfolded : Runs p slot (right ++ c.foldInto slot op.operator).length m₁ (r >>= op.apply v) := by
    refine h₁.next hc (Nat.le_succ_of_le hn) (Nat.le_succ slot) (hr m₁ h₁.first)
      (fun w m₂ hw hkept h₂ hb => ?_) fun kind hk => ?_
    · have hwaits : m₂.current.constant? slot = some v :=
        (hkept.slots slot (Nat.lt_succ_self slot)).trans hslot
      rw [hw]
      exact h₂.runs_fold hs hwaits hb
    · rw [hk]
      rfl
  rw [List.length_cons, Nat.add_comm]
  exact hwrite.runs hfolded (Nat.le_refl slot)

-- ---------------------------------------------------------------------------
-- Whole expressions
-- ---------------------------------------------------------------------------

/-- The sum so far waits in the accumulator. -/
def SumStands (env : Text → Option Constant) (s : Progress) (next : Nat) (m : Machine) : Left → Prop
  | none => s.low = none
  | some (l, op) => s.low = some op.operator ∧ s.hasAccumulator = true ∧
      ∃ u, l.eval env = .ok u ∧ m.current.constant? next = some u

/-- The term so far is in register `b`. -/
def TermStands (env : Text → Option Constant) (s : Progress) (m : Machine) : Reading → Prop
  | .before none => s.expectValue = true ∧ s.pending = none
  | .before (some (t, op)) => s.expectValue = true ∧ s.pending = some op.operator ∧
      ∃ v, t.eval env = .ok v ∧ m.texts.constant? m.b = some v
  | .after t => s.expectValue = false ∧ s.pending = none ∧
      ∃ v, t.eval env = .ok v ∧ m.texts.constant? m.b = some v

theorem SumStands.fine {s : Progress} {next : Nat} {sum : Left} (h : SumStands env s next m sum) :
    sum.Fine env := by
  rintro l op rfl
  obtain ⟨-, -, u, hu, -⟩ := h
  exact ⟨u, hu⟩

/-- The accumulator lies below the slots of the groups of its level. -/
theorem SumStands.kept {s s' : Progress} {next : Nat} {sum : Left} (h : SumStands env s next m sum)
    (hk : Kept (s.free next) m m') (hlow : s'.low = s.low)
    (hacc : s'.hasAccumulator = s.hasAccumulator) : SumStands env s' next m' sum := by
  match sum with
  | none => exact hlow.trans h
  | some (l, op) =>
    obtain ⟨hop, hs, u, hu, hslot⟩ := h
    refine ⟨hlow.trans hop, hacc.trans hs, u, hu, ?_⟩
    rw [hk.slots next (by simp [Progress.free, hs]), hslot]

theorem Progress.le_free (s : Progress) (next : Nat) : next ≤ s.free next := by
  unfold Progress.free
  split <;> omega

theorem Poised.runs_settle {s : Progress} {next : Nat} {sum : Left}
    (h : Poised env p c m (s.settle c next ++ ops))
    (hacc : s.hasAccumulator = true → next < c.frameSize) (hsum : SumStands env s next m sum)
    {t : Tree} {v : Constant} (ht : t.eval env = .ok v) (hv : m.texts.constant? m.b = some v) :
    Runs p base (s.settle c next).length m ((sum.join t).eval env) := by
  match sum with
  | none =>
    have hlow : s.low = none := hsum
    simp only [Progress.settle, hlow, Option.elim_none, List.length_nil, Left.join, ht]
    exact ⟨m, .refl h.sound, hv⟩
  | some (l, op) =>
    obtain ⟨hlow, hs, u, hu, hslot⟩ := hsum
    have hvalue : (Left.join (some (l, op)) t).eval env = op.apply u v := by
      simp [Left.join, Tree.eval, hu, ht]
    simp only [Progress.settle, hlow, Option.elim_some] at h ⊢
    rw [hvalue]
    exact h.runs_fold (hacc hs) hslot hv

theorem TermStands.start {s : Progress} {state : Reading} (h : TermStands env s m state)
    (he : s.expectValue = true) (hp : s.pending = none) : state = .before none := by
  match state with
  | .before none => rfl
  | .before (some (_, _)) =>
    obtain ⟨-, hop, -⟩ := h
    rw [hp] at hop
    cases hop
  | .after _ =>
    obtain ⟨hvalue, -⟩ := h
    rw [he] at hvalue
    cases hvalue

theorem TermStands.product {s : Progress} {state : Reading} {op : Operator}
    (h : TermStands env s m state) (he : s.expectValue = true) (hp : s.pending = some op) :
    ∃ l a v, state = .before (some (l, a)) ∧ op = a.operator ∧ l.eval env = .ok v ∧
      m.texts.constant? m.b = some v := by
  match state with
  | .before none =>
    obtain ⟨-, hnone⟩ := h
    rw [hp] at hnone
    cases hnone
  | .before (some (l, a)) =>
    obtain ⟨-, hop, v, hl, hv⟩ := h
    rw [hp] at hop
    exact ⟨l, a, v, rfl, Option.some.inj hop, hl, hv⟩
  | .after _ =>
    obtain ⟨hvalue, -⟩ := h
    rw [he] at hvalue
    cases hvalue

theorem TermStands.value {s : Progress} {state : Reading} (h : TermStands env s m state)
    (he : s.expectValue = false) :
    ∃ l v, state = .after l ∧ s.pending = none ∧ l.eval env = .ok v ∧
      m.texts.constant? m.b = some v := by
  match state with
  | .before none =>
    obtain ⟨hvalue, -⟩ := h
    rw [he] at hvalue
    cases hvalue
  | .before (some (_, _)) =>
    obtain ⟨hvalue, -⟩ := h
    rw [he] at hvalue
    cases hvalue
  | .after l =>
    obtain ⟨-, hp, v, hl, hv⟩ := h
    exact ⟨l, v, rfl, hp, hl, hv⟩

/-- Running the code of the rest of a level gives the value of the tree that is
read from what stands so far and the rest. -/
theorem Compiles.runs {next : Nat} {s : Progress} {nodes : List Node} {code : List Operation}
    (h : Compiles c next s nodes code) (hc : Layout c) (hn : c.next ≤ next)
    (hacc : s.hasAccumulator = true → next < c.frameSize) {sum : Left} {state : Reading} {t : Tree}
    (hread : read sum state nodes = some t) (hs : m.Sound) (hm : Matches c m)
    (henv : c.environment m = env) (ha : Ahead p m (code ++ ops))
    (hsum : SumStands env s next m sum) (hterm : TermStands env s m state) :
    Runs p next code.length m (t.eval env) := by
  have h₀ : Poised env p c m (code ++ ops) := ⟨hs, hm, henv, ha⟩
  clear hs hm henv ha
  have hstart {limit : Nat} (h : ({} : Progress).hasAccumulator = true) : limit < c.frameSize :=
    absurd h Bool.false_ne_true
  induction h generalizing m sum state t ops with
  | finish he =>
    obtain ⟨l, v, rfl, -, hl, hv⟩ := hterm.value he
    rw [read] at hread
    cases hread
    exact h₀.runs_settle hacc hsum hl hv
  | @group next s rest inner after group more he hp hsplit _ _ ihg ihm =>
    obtain rfl := hterm.start he hp
    obtain ⟨g, hgroup, hrest⟩ := read_group hsplit hread
    have hfree := s.le_free next
    have hn' := Nat.le_trans hn hfree
    refine h₀.next hc hn' hfree (ihg hn' hstart hgroup rfl ⟨rfl, rfl⟩ h₀.first)
      (fun v m' hg hkept hmore hv => ?_) fun kind hg => ?_
    · exact ihm hn hacc hrest (hsum.kept hkept rfl rfl) ⟨rfl, hp, v, hg, hv⟩ hmore
    · exact read_fails hrest hsum.fine hg
  | @factorGroup next s op rest inner after group more he hp hsplit hf _ _ ihg ihm =>
    obtain ⟨l, a, v, rfl, rfl, hl, hv⟩ := hterm.product he hp
    obtain ⟨g, hgroup, hrest⟩ := read_group hsplit hread
    have hfree := s.le_free next
    have hn' := Nat.le_trans hn hfree
    have hproduct := h₀.first.runs_deferred hc hn' hf hv fun m' h' =>
      ihg (Nat.le_succ_of_le hn') hstart hgroup rfl ⟨rfl, rfl⟩ h'
    have hvalue : (Tree.apply a l g).eval env = g.eval env >>= a.apply v := by
      rw [Tree.eval, hl]
      cases g.eval env <;> rfl
    refine h₀.next hc hn' hfree hproduct (fun w m' hw hkept hmore hv => ?_) fun kind hw => ?_
    · exact ihm hn hacc hrest (hsum.kept hkept rfl rfl) ⟨rfl, rfl, w, hvalue.trans hw, hv⟩ hmore
    · exact read_fails hrest hsum.fine (hvalue.trans hw)
  | @high next s op rest more he ho _ ih =>
    obtain ⟨l, v, rfl, -, hl, hv⟩ := hterm.value he
    obtain ⟨a, rfl, hif⟩ := read_operator hread
    rw [Arithmetic.isHigh_operator] at ho
    rw [if_pos ho] at hif
    exact ih hn hacc hif (hsum.kept (.refl h₀.sound) rfl rfl) ⟨rfl, rfl, v, hl, hv⟩ h₀
  | @atOnce next s op node rest load more he ho _ _ hsimple hload _ ih =>
    obtain ⟨l, v, rfl, hp, hl, hv⟩ := hterm.value he
    obtain ⟨a, rfl, hif⟩ := read_operator hread
    rw [Arithmetic.isHigh_operator] at ho
    rw [if_neg (by simp [ho])] at hif
    rw [List.append_assoc (s.settle c next), List.append_assoc (s.settle c next)] at h₀ ⊢
    refine h₀.next hc hn (Nat.le_refl next) (h₀.first.runs_settle hacc hsum hl hv)
      (fun u m₁ hu _ h₁ hb₁ => ?_) fun kind hk => ?_
    · obtain ⟨r, w, hr, hw, hruns⟩ := hload.runs_apply hn hc h₁.first hb₁
      rw [read_operand hr, Left.join, read_simple hsimple] at hif
      have hvalue : (Tree.apply a (sum.join l) r).eval env = a.apply u w := by
        simp [Tree.eval, hu, hw]
      refine h₁.next hc hn (Nat.le_refl next) hruns (fun x m₂ hx _ h₂ hb₂ => ?_) fun kind hk => ?_
      · exact ih hn hacc hif rfl ⟨rfl, hp, x, hvalue.trans hx, hb₂⟩ h₂
      · exact read_fails hif (by rintro _ _ ⟨⟩) (hvalue.trans hk)
    · exact read_fails_sum hif ⟨_, a, rfl, hk⟩
  | @deferred next s op rest more he ho _ _ _ hf _ ih =>
    obtain ⟨l, v, rfl, hp, hl, hv⟩ := hterm.value he
    obtain ⟨a, rfl, hif⟩ := read_operator hread
    rw [Arithmetic.isHigh_operator] at ho
    rw [if_neg (by simp [ho])] at hif
    have hnext : next < c.frameSize := hf.elim hacc id
    refine h₀.next hc hn (Nat.le_refl next) (h₀.first.runs_settle hacc hsum hl hv)
      (fun u m₁ hu _ h₁ hb₁ => ?_) fun kind hk => ?_
    · obtain ⟨m₂, hwrite, hslot, -, -⟩ := h₁.machine.goes_write h₁.sound h₁.ahead hnext hb₁
      have hrest := ih hn (fun _ => hnext) hif ⟨rfl, rfl, u, hu, hslot⟩ ⟨rfl, hp⟩
        (h₁.goes_one hc hn hwrite)
      rw [List.length_cons, Nat.add_comm]
      exact hwrite.runs hrest (Nat.le_refl next)
    · exact read_fails_sum hif ⟨_, a, rfl, hk⟩
  | @operand next s node rest load more he hp hload _ ih =>
    obtain rfl := hterm.start he hp
    have hfree := s.le_free next
    obtain ⟨r, v, m₁, hr, hv, hgoes, -, -, hb₁, -⟩ := hload.goes (s.free next) hc h₀.first
    rw [read_operand hr] at hread
    have hrest := ih hn hacc hread (hsum.kept hgoes.kept rfl rfl) ⟨rfl, hp, v, hv, hb₁⟩
      (h₀.first.goes hc (Nat.le_trans hn hfree) hgoes)
    rw [List.length_append]
    exact (hgoes.mono hfree).runs hrest (Nat.le_refl next)
  | @factor next s op node rest load more he hp hload _ ih =>
    obtain ⟨l, a, v, rfl, rfl, hl, hv⟩ := hterm.product he hp
    have hfree := s.le_free next
    have hn' := Nat.le_trans hn hfree
    obtain ⟨r, w, hr, hw, hruns⟩ := hload.runs_apply hn' hc h₀.first hv
    rw [read_operand hr] at hread
    have hvalue : (Tree.apply a l r).eval env = a.apply v w := by simp [Tree.eval, hl, hw]
    refine h₀.next hc hn' hfree hruns (fun x m₁ hx hkept h₁ hb₁ => ?_) fun kind hk => ?_
    · exact ih hn hacc hread (hsum.kept hkept rfl rfl) ⟨rfl, rfl, x, hvalue.trans hx, hb₁⟩ h₁
    · exact read_fails hread hsum.fine (hvalue.trans hk)

-- ---------------------------------------------------------------------------
-- Accepted expressions have a tree
-- ---------------------------------------------------------------------------

theorem Loads.tree {node : Node} {load : List Operation} (h : Loads c node load) :
    ∃ t, node.tree? = some t := by
  cases h with
  | literal k => exact ⟨_, rfl⟩
  | named _ => exact ⟨_, rfl⟩

/-- What is compiled can be read, unless it has an operator that stands for no
operation. -/
theorem Compiles.reads {next : Nat} {s : Progress} {nodes : List Node} {code : List Operation}
    (h : Compiles c next s nodes code) (hu : .operator .unknown ∉ nodes) (sum : Left)
    {state : Reading} (hstate : state.expectsValue = s.expectValue) :
    ∃ t, read sum state nodes = some t := by
  have hlow {op : Operator} {rest : List Node} (hu : Node.operator .unknown ∉ .operator op :: rest)
      (ho : op.isHigh = false) (hopen : op ≠ .openParen) (hclose : op ≠ .closeParen) :
      ∃ a : Arithmetic, op = a.operator ∧ a.isHigh = false := by
    cases op with
    | plus => exact ⟨.add, rfl, rfl⟩
    | minus => exact ⟨.sub, rfl, rfl⟩
    | unknown => simp at hu
    | openParen => exact absurd rfl hopen
    | closeParen => exact absurd rfl hclose
    | _ => cases ho
  have hgroup {rest inner after : List Node} (hs : splitGroup 0 rest = some (inner, after))
      (hu : Node.operator .unknown ∉ .operator .openParen :: rest) :
      Node.operator .unknown ∉ inner ∧ Node.operator .unknown ∉ after := by
    rw [splitGroup_eq hs] at hu
    simp at hu
    exact hu
  induction h generalizing sum state with
  | finish he =>
    obtain ⟨l, rfl⟩ := Reading.eq_after (hstate.trans he)
    exact ⟨_, by rw [read]⟩
  | @group _ _ _ inner _ _ _ he _ hsplit _ _ ihg ihm =>
    obtain ⟨left, rfl⟩ := Reading.eq_before (hstate.trans he)
    obtain ⟨hinner, hafter⟩ := hgroup hsplit hu
    obtain ⟨g, hg⟩ : ∃ g, read none (.before none) inner = some g := ihg hinner none rfl
    rw [read_paren hsplit hg]
    exact ihm hafter sum rfl
  | @factorGroup _ _ _ _ inner _ _ _ he _ hsplit _ _ _ ihg ihm =>
    obtain ⟨left, rfl⟩ := Reading.eq_before (hstate.trans he)
    obtain ⟨hinner, hafter⟩ := hgroup hsplit hu
    obtain ⟨g, hg⟩ : ∃ g, read none (.before none) inner = some g := ihg hinner none rfl
    rw [read_paren hsplit hg]
    exact ihm hafter sum rfl
  | @high _ _ op _ _ he ho _ ih =>
    obtain ⟨l, rfl⟩ := Reading.eq_after (hstate.trans he)
    obtain ⟨a, rfl, ha⟩ : ∃ a : Arithmetic, op = a.operator ∧ a.isHigh = true := by
      cases op with
      | times => exact ⟨.mul, rfl, rfl⟩
      | divide => exact ⟨.div, rfl, rfl⟩
      | _ => cases ho
    rw [read_arithmetic, if_pos ha]
    exact ih (List.not_mem_of_not_mem_cons hu) sum rfl
  | atOnce he ho hopen hclose hsimple hload _ ih =>
    obtain ⟨l, rfl⟩ := Reading.eq_after (hstate.trans he)
    obtain ⟨a, rfl, ha⟩ := hlow hu ho hopen hclose
    obtain ⟨r, hr⟩ := hload.tree
    have hrest := List.not_mem_of_not_mem_cons (List.not_mem_of_not_mem_cons hu)
    rw [read_arithmetic, if_neg (by simp [ha]), read_operand hr]
    exact ih hrest _ rfl
  | deferred he ho hopen hclose _ _ _ ih =>
    obtain ⟨l, rfl⟩ := Reading.eq_after (hstate.trans he)
    obtain ⟨a, rfl, ha⟩ := hlow hu ho hopen hclose
    rw [read_arithmetic, if_neg (by simp [ha])]
    exact ih (List.not_mem_of_not_mem_cons hu) _ rfl
  | operand he _ hload _ ih =>
    obtain ⟨left, rfl⟩ := Reading.eq_before (hstate.trans he)
    obtain ⟨r, hr⟩ := hload.tree
    rw [read_operand hr]
    exact ih (List.not_mem_of_not_mem_cons hu) sum rfl
  | factor he _ hload _ ih =>
    obtain ⟨left, rfl⟩ := Reading.eq_before (hstate.trans he)
    obtain ⟨r, hr⟩ := hload.tree
    rw [read_operand hr]
    exact ih (List.not_mem_of_not_mem_cons hu) sum rfl

end
end Compiler

-- ---------------------------------------------------------------------------
-- The whole
-- ---------------------------------------------------------------------------

/-- An expression that the compiler accepts has one tree, and its code computes the
value of that tree, or fails with the first error that is met there. -/
theorem expression_meaning {p : Program} {c : Compiler} {m : Machine} {next : Nat} {e : Expression}
    {code : List Operation} (hc : c.Reachable) (hn : c.next ≤ next)
    (hu : Node.operator .unknown ∉ e) (he : c.expression next e = .ok code) (hr : m.Reachable)
    (hm : c.Matches m) (ha : Ahead p m code) :
    ∃ tree, Derives .sum e tree ∧ (∀ tree', Derives .sum e tree' → tree' = tree) ∧
      Runs p next code.length m (tree.eval (c.environment m)) := by
  have hcompiles := Compiler.compiles_of_expression he
  obtain ⟨tree, hread⟩ : ∃ tree, read none (.before none) e = some tree := hcompiles.reads hu none rfl
  have hderives := read_iff.mp hread
  refine ⟨tree, hderives, fun tree' h => h.unique hderives, ?_⟩
  have hahead : Ahead p m (code ++ []) := by rwa [List.append_nil]
  exact hcompiles.runs hc.layout hn nofun hread hr.sound hm rfl hahead rfl ⟨rfl, rfl⟩

def sumAndProduct : Program :=
  ⟨#[⟨"", [.loadB (.int 2), .writeGlobal 1, .loadB (.int 3), .swap, .loadB (.int 4), .arith .mul,
    .readGlobal 1, .heldToA, .arith .add].map (⟨·, 1⟩) |>.toArray⟩]⟩

theorem expression_meaning_sumAndProduct :
    ∃ m', Goes sumAndProduct 1 9 (.new 8) m' ∧ m'.texts.constant? m'.b = some (.int 14) := by
  have hcode : (Compiler.new 8).expression 1 [.value (.int 2), .operator .plus, .value (.int 3),
      .operator .times, .value (.int 4)] = .ok
        [.loadB (.int 2), .writeGlobal 1, .loadB (.int 3), .swap, .loadB (.int 4), .arith .mul,
          .readGlobal 1, .heldToA, .arith .add] := by
    simp [Compiler.expression, Compiler.compileFrom]
    rfl
  have hahead : Ahead sumAndProduct (.new 8) [.loadB (.int 2), .writeGlobal 1, .loadB (.int 3), .swap,
      .loadB (.int 4), .arith .mul, .readGlobal 1, .heldToA, .arith .add] :=
    ⟨_, rfl, List.prefix_rfl⟩
  obtain ⟨tree, -, hunique, hruns⟩ := expression_meaning (.new 8) (Nat.le_refl 1) (by decide) hcode
    (.new 8) ⟨rfl, rfl, rfl⟩ hahead
  have hproduct : Derives .term [.value (.int 3), .operator .times, .value (.int 4)]
      (.apply .mul (.literal (.int 3)) (.literal (.int 4))) :=
    @Derives.product [_] [_] _ _ .mul (.factor (.literal _)) rfl (.literal _)
  have htree := hunique _ (@Derives.sum [_] _ _ _ .add (.term (.factor (.literal _))) rfl hproduct)
  subst htree
  exact hruns

end Birl
