import Birl.Machine.Run
import Birl.Proofs.Machine.Finite
import Birl.Proofs.Machine.Safety

/-!
# Machines on arbitrary code

Nothing is asked of the code here: any operations with any operands, in segments
that may grow between two steps. Every frame of a machine that comes about
(`Driven`) is `Frame.Intact`, the global one stays at the bottom and the depth stays
bounded.

The machine's own operations are total: they read Null from a slot that is not there
and leave nothing when only the global frame is left. The checked operations below
give no answer at such a place, so that they agree with the machine
(`arbitrary_code_safe`) says that no step ever comes to one.
-/

namespace Birl

-- ---------------------------------------------------------------------------
-- Checked operations
-- ---------------------------------------------------------------------------

namespace Frame

def load? (f : Frame) (address : Nat) (outer : TextStore) :
    Option (Except Fault (Value × TextStore)) :=
  if address < f.slots.size then some (f.load address outer) else none

def store? (f : Frame) (address : Nat) (v : Value) (outer : TextStore) :
    Option (Except Fault Frame) :=
  if address < f.slots.size then some (f.store address v outer) else none

end Frame

namespace Machine

def readSlot? (m : Machine) (frame : Frame) (operand : Int) : Option Outcome :=
  match frame.address operand with
  | .error fault => some (fail m fault)
  | .ok address =>
    (frame.load? address m.texts).map fun
      | .error fault => fail m fault
      | .ok (v, texts) => done { m with held := v, texts }

def writeSlot? (m : Machine) (frame : Frame) (operand : Int) : Option (Except Fault Frame) :=
  match frame.address operand with
  | .error fault => some (.error fault)
  | .ok address => frame.store? address m.b m.texts

/-- The global frame is never left. -/
def leave? (m : Machine) : Option (Machine × Except Fault Unit) :=
  match m.calls with
  | [] => none
  | frame :: rest =>
    if frame.ready then
      let m := { m with calls := rest }
      (m.current.store? 0 m.b m.texts).map fun
        | .ok caller => (m.modifyCurrent fun _ => caller, .ok ())
        | .error fault => (m, .error fault)
    else some (m, .error .returnUnderConstruction)

def loadArguments? (frame : Frame) (texts : TextStore) (address : Nat) :
    (count : Nat) → Option (Except Fault (List Value) × TextStore)
  | 0 => some (.ok [], texts)
  | count + 1 =>
    match frame.load? address texts with
    | none => none
    | some (.error fault) => some (.error fault, texts)
    | some (.ok (v, texts)) =>
      (loadArguments? frame texts (address + 1) count).map fun (rest, texts) =>
        (rest.map (v :: ·), texts)

/-- What an operation on the frame under construction gives if there is none. The global
frame would be taken for one if it could not run. -/
def noneBuilt? (m : Machine) (fault : Fault) : Option Outcome :=
  if m.global.ready then some (fail m fault) else none

def callPlugin? (m : Machine) (index : Int) : Option Outcome :=
  match m.plugin? index with
  | none => some (fail m (.unknownPlugin index))
  | some plugin =>
    match m.calls with
    | [] => m.noneBuilt? .pluginWithoutFrame
    | frame :: rest =>
      if frame.owner ≠ .plugin || frame.ready then some (fail m .pluginWithoutFrame)
      else
        let m := { m with calls := rest }
        match loadArguments? frame m.texts 1 plugin.params.length with
        | none => none
        | some (.error fault, texts) => some (fail { m with texts } fault)
        | some (.ok args, texts) =>
          match plugin.call texts args with
          | (.error fault, texts) => some (fail { m with texts } (.within plugin.name fault))
          | (.ok v, texts) =>
            let m := { m with texts }
            (m.current.store? 0 v m.texts).map fun
              | .ok caller => done (m.modifyCurrent fun _ => caller)
              | .error fault => fail m fault

def startFrame? (m : Machine) : Option Outcome :=
  match m.calls with
  | [] => m.noneBuilt? .noFrameUnderConstruction
  | _ :: _ => some m.startFrame

def writeArgument? (m : Machine) (operand : Int) : Option Outcome :=
  match m.calls with
  | [] => m.noneBuilt? .noFrameUnderConstruction
  | frame :: rest =>
    if frame.ready then some (fail m .noFrameUnderConstruction)
    else
      (m.writeSlot? frame operand).map fun
        | .ok frame => done { m with calls := frame :: rest }
        | .error fault => fail m fault

def execute? (p : Program) (m : Machine) : Operation → Option Outcome
  | .readLocal operand => m.readSlot? m.current operand
  | .readGlobal operand => m.readSlot? m.global operand
  | .writeLocal operand =>
    (m.writeSlot? m.current operand).map fun
      | .ok frame => done (m.modifyCurrent fun _ => frame)
      | .error fault => fail m fault
  | .writeGlobal operand =>
    (m.writeSlot? m.global operand).map fun
      | .ok global => done { m with global }
      | .error fault => fail m fault
  | .writeArgument operand => m.writeArgument? operand
  | .startFrame => m.startFrame?
  | .callPlugin index => m.callPlugin? index
  | .returnValue =>
    if m.calls.isEmpty then some (m, .ok .halt)
    else
      m.leave?.map fun
        | (m, .ok ()) => (m, .ok .returned)
        | (m, .error fault) => fail m fault
  | op => some (execute p m op)

/-- The number of skipped blocks never goes below zero. -/
def skipAfter? (skip : Nat) : Operation → Option Nat
  | .executeIf _ => some (skip + 1)
  | .endIf => if 0 < skip then some (skip - 1) else none
  | _ => some skip

def step? (p : Program) (m : Machine) : Option (Machine × Except Error Status) :=
  match m.segment? p with
  | none => some (m, .error (.plain (.noCode (codeId m.current))))
  | some segment =>
    match segment.code[m.current.pc]? with
    | none =>
      if m.calls.isEmpty then some (m, .ok .halt)
      else
        ({ m with b := .null } : Machine).leave?.map fun
          | (m, .ok ()) => (m, .ok .returned)
          | (m, .error fault) => (m, .error (.runtime 0 segment.name fault))
    | some instruction =>
      let skip := m.current.skip
      let m := m.modifyCurrent fun frame => { frame with pc := frame.pc + 1 }
      if skip > 0 then
        (skipAfter? skip instruction.op).map fun skip =>
          (m.modifyCurrent fun frame => { frame with skip }, .ok .normal)
      else
        (execute? p m instruction.op).map fun
          | (m, .ok status) => (m, .ok status)
          | (m, .error fault) => (m, .error (.runtime instruction.line segment.name fault))

def runFor? (p : Program) : (steps : Nat) → Machine → Option (Machine × Except Error Status)
  | 0, m => some (m, .ok .normal)
  | steps + 1, m =>
    match step? p m with
    | none => none
    | some (m, .ok status) => if status.isFinal then some (m, .ok status) else runFor? p steps m
    | some (m, .error e) => some (m, .error e)

def run? (p : Program) (m : Machine) : Option (Machine × Except Error Status) :=
  (runFor? p (stepBound p) m).map fun (m, result) => (m.flush.1, result)

/-- The global frame goes on behind the code that it runs, which has to be there. -/
def recover? (p : Program) (m : Machine) : Option Machine :=
  match m.global.owner with
  | .plugin => none
  | .code id =>
    (p.segment? id).map fun segment =>
      { m.recover p with global := { m.global with pc := segment.code.size, skip := 0 } }

def setGlobal? (m : Machine) (address : Int) (v : Value) : Option (Except Fault Machine) :=
  match m.globalAddress address with
  | .error fault => some (.error fault)
  | .ok address =>
    (m.global.store? address v m.texts).map fun result => result.map fun global => { m with global }

def getGlobal? (m : Machine) (address : Int) : Option (Except Fault (Value × Machine)) :=
  match m.globalAddress address with
  | .error fault => some (.error fault)
  | .ok address =>
    (m.global.load? address m.texts).map fun result =>
      result.map fun (v, texts) => (v, { m with texts })

end Machine

-- ---------------------------------------------------------------------------
-- Where frames are
-- ---------------------------------------------------------------------------

/-- A frame has code and is within it, unless it holds the arguments of a plugin; such
a frame does not run. -/
structure Control.Within (p : Program) (c : Control) : Prop where
  code : ∀ id, c.owner = .code id → ∃ s, p.segment? id = some s ∧ c.pc ≤ s.code.size
  plugin : c.owner = .plugin → c.ready = false

theorem Control.Within.extend {p p' : Program} {c : Control} (h : c.Within p) (hp : p.Extends p') :
    c.Within p' := by
  refine ⟨?_, h.plugin⟩
  intro id ho
  obtain ⟨s, hs, hpc⟩ := h.code id ho
  obtain ⟨more, hs'⟩ := hp id s hs
  refine ⟨_, hs', Nat.le_trans hpc ?_⟩
  simp [← Array.length_toList]

namespace Machine

section
variable {p p' : Program} {m m' : Machine}

theorem mem_stack_modifyCurrent {g : Frame → Frame} {c : Control}
    (h : c ∈ (m.modifyCurrent g).stack) : c ∈ m.stack ∨ c = (g m.current).control := by
  obtain ⟨above, below, hframes, -, -, hmod⟩ := m.frames_current
  simp only [stack, hmod, hframes, List.map_append, List.map_cons, List.mem_append,
    List.mem_cons] at h ⊢
  rcases h with h | h | h
  · exact .inl (.inl h)
  · exact .inr h
  · exact .inl (.inr (.inr h))

theorem mem_stack_current (m : Machine) : m.current.control ∈ m.stack :=
  List.mem_map_of_mem m.mem_frames_current

theorem Effect.within {last : Comparison} {op : Operation} {s s' : List Control}
    (h : Effect p last op s s') (hs : ∀ c ∈ s, c.Within p) : ∀ c ∈ s', c.Within p := by
  cases h with
  | keep => exact hs
  | skip =>
    intro c hc
    have howner := map_modifyRunning (f := fun c : Control => (c.owner, c.pc, c.ready))
      (g := fun c => { c with skip := 1 }) (fun _ => rfl) s
    obtain ⟨c', hc', he⟩ := List.mem_map.mp (howner ▸ List.mem_map_of_mem hc)
    simp only [Prod.mk.injEq] at he
    obtain ⟨ho, hpc, hr⟩ := he
    exact ⟨ho ▸ hpc ▸ (hs c' hc').code, ho ▸ hr ▸ (hs c' hc').plugin⟩
  | @push code owner s hd ho =>
    refine List.forall_mem_cons.mpr ⟨⟨?_, fun _ => rfl⟩, hs⟩
    rintro id rfl
    rcases ho with ⟨-, ho⟩ | ⟨hcode, ho⟩
    · cases ho
    · cases ho
      have hnat : ((code.toNat : Nat) : Int) = code := by
        simp only [Program.hasCode, Bool.and_eq_true, decide_eq_true_eq] at hcode
        exact Int.toNat_of_nonneg hcode.1
      obtain ⟨s, hs⟩ := (p.hasCode_iff code.toNat).mp (hnat ▸ hcode)
      exact ⟨s, hs, Nat.zero_le _⟩
  | start hr ho hne =>
    obtain ⟨hc, hrest⟩ := List.forall_mem_cons.mp hs
    exact List.forall_mem_cons.mpr ⟨⟨hc.code, fun h => absurd h ho⟩, hrest⟩
  | leave => exact (List.forall_mem_cons.mp hs).2
  | halt => exact hs
  | call => exact (List.forall_mem_cons.mp hs).2

theorem within_modifyCurrent (h : ∀ c ∈ m.stack, c.Within p) {segment : Segment}
    {instruction : Instruction} (hs : m.segment? p = some segment)
    (hi : segment.code[m.current.pc]? = some instruction) {g : Frame → Frame}
    (ho : (g m.current).owner = m.current.owner) (hr : (g m.current).ready = m.current.ready)
    (hpc : (g m.current).pc = m.current.pc + 1) : ∀ c ∈ (m.modifyCurrent g).stack, c.Within p := by
  intro c hc
  rcases mem_stack_modifyCurrent hc with hc | rfl
  · exact h c hc
  · constructor
    · intro id howner
      have howner : m.current.owner = .code id := ho.symm.trans howner
      have hseg : p.segment? id = some segment := by simpa [segment?, howner] using hs
      refine ⟨segment, hseg, ?_⟩
      show (g m.current).pc ≤ segment.code.size
      rw [hpc]
      exact (Array.getElem?_eq_some_iff.mp hi).1
    · intro howner
      exact hr.trans ((h _ m.mem_stack_current).plugin (ho.symm.trans howner))

theorem step_within (h : ∀ c ∈ m.stack, c.Within p) : ∀ c ∈ (step p m).1.stack, c.Within p := by
  refine step_induct (P := fun m' => ∀ c ∈ m'.stack, c.Within p) h ?_ ?_ ?_
  · exact fun c hc => h c ((mayPop_leave { m with b := .null }).subset hc)
  · exact fun hs hi => within_modifyCurrent h hs hi rfl rfl rfl
  · intro _ instruction hs hi
    have hadvance : ∀ c ∈ m.advance.stack, c.Within p := within_modifyCurrent h hs hi rfl rfl rfl
    rcases he : execute p m.advance instruction.op with ⟨m', fault | status⟩
    · exact fun c hc => hadvance c ((stack_failed he).subset hc)
    · exact (execute_effect he).within hadvance

-- ---------------------------------------------------------------------------
-- What every machine keeps
-- ---------------------------------------------------------------------------

/-- What holds of a machine whatever code it runs. -/
structure Intact (p : Program) (m : Machine) : Prop where
  sound : m.Sound
  rooted : m.Rooted
  depth : m.depth ≤ maxCallDepth
  within : ∀ c ∈ m.stack, c.Within p
  arguments : ∀ plugin ∈ m.plugins, plugin.params.length + 1 ≤ m.frameSize

theorem intact_new (hp : p.hasCode globalCode = true) (requested : Int) :
    Intact p (.new requested) := by
  refine ⟨sound_new requested, ⟨rfl, rfl⟩, by simp [depth, Machine.new, maxCallDepth], ?_,
    by simp [Machine.new]⟩
  obtain ⟨s, hs⟩ := (p.hasCode_iff globalCode).mp hp
  intro c hc
  rw [List.mem_singleton.mp (show c ∈ [(Machine.new requested).global.control] from hc)]
  constructor
  · rintro id ⟨⟩
    exact ⟨s, hs, Nat.zero_le _⟩
  · rintro ⟨⟩

theorem Intact.extend (h : Intact p m) (hp : p.Extends p') : Intact p' m :=
  ⟨h.sound, h.rooted, h.depth, fun c hc => (h.within c hc).extend hp, h.arguments⟩

theorem Intact.of_stack (h : Intact p m) (hs : m'.Sound) (hm : m'.stack = m.stack)
    (hg : m'.global.control = m.global.control)
    (hp : ∀ plugin ∈ m'.plugins, plugin.params.length + 1 ≤ m'.frameSize) : Intact p m' :=
  ⟨hs, h.rooted.of_control hg, by rw [← length_stack, hm, length_stack]; exact h.depth,
    hm ▸ h.within, hp⟩

theorem Intact.step (h : Intact p m) : Intact p (m.step p).1 := by
  refine ⟨step_sound p h.sound, h.rooted.step p, ?_, step_within h.within, ?_⟩
  · exact Nat.le_trans (depth_step p m) (Nat.max_le.mpr ⟨h.depth, Nat.le_refl _⟩)
  · obtain ⟨hplugins, hsize⟩ : (Machine.step p m).1.plugins = m.plugins ∧
        (Machine.step p m).1.frameSize = m.frameSize := step_setup (Prod.eta _).symm
    rw [hplugins, hsize]
    exact h.arguments

theorem Intact.runFor (h : Intact p m) (steps : Nat) : Intact p (runFor p steps m).1 := by
  induction steps generalizing m with
  | zero => exact h
  | succ steps ih =>
    have hstep := h.step
    unfold Machine.runFor
    split
    · rename_i hs
      rw [hs] at hstep
      split
      · exact hstep
      · exact ih hstep
    · rename_i hs
      rw [hs] at hstep
      exact hstep

theorem Intact.streams (h : Intact p m) (input : Input) (output : Output) :
    Intact p { m with input, output } :=
  h.of_stack (h.sound.of_eq rfl (fun _ hf => hf) rfl h.sound.texts) rfl rfl h.arguments

theorem Intact.run (h : Intact p m) : Intact p (m.run p).1 := by
  rcases hrun : m.run p with ⟨m', r⟩
  obtain ⟨m₁, hfor, rfl⟩ := runFor_of_run hrun
  have hran := h.runFor (stepBound p)
  rw [hfor] at hran
  exact hran.streams _ _

theorem Intact.recover (h : Intact p m) : Intact p (m.recover p) := by
  refine ⟨h.sound.recover p, h.rooted, by simp [Machine.depth, Machine.recover, maxCallDepth], ?_,
    h.arguments⟩
  intro c hc
  rw [List.mem_singleton.mp (show c ∈ [(m.recover p).global.control] from hc)]
  constructor
  · intro id ho
    obtain ⟨s, hs, -⟩ := (h.within m.global.control (by simp [stack, frames])).code id ho
    refine ⟨s, hs, ?_⟩
    cases h.rooted.1.symm.trans ho
    show p.globalLength ≤ s.code.size
    simp [Program.globalLength, hs]
  · intro ho
    cases h.rooted.1.symm.trans ho

theorem Intact.setGlobal {address : Int} {v : Value} (h : Intact p m)
    (hs : m.setGlobal address v = .ok m') : Intact p m' := by
  obtain ⟨global, rfl, hcontrol⟩ := setGlobal_ok hs
  exact h.of_stack (h.sound.setGlobal hs) (by simp [stack, frames, hcontrol]) hcontrol h.arguments

theorem Intact.getGlobal {address : Int} {v : Value} (h : Intact p m)
    (hg : m.getGlobal address = .ok (v, m')) : Intact p m' := by
  obtain ⟨texts, rfl, -⟩ := getGlobal_ok hg
  exact h.of_stack (h.sound.getGlobal hg) rfl rfl h.arguments

theorem Intact.addPlugin {plugin : Plugin} (h : Intact p m) (hcall : plugin.call.OnlyAdds)
    (hargs : plugin.params.length + 1 ≤ m.frameSize) : Intact p (m.addPlugin plugin).2 := by
  refine h.of_stack (h.sound.addPlugin hcall) rfl rfl ?_
  intro plugin' hmem
  rcases Array.mem_push.mp hmem with hmem | rfl
  · exact h.arguments plugin' hmem
  · exact hargs

-- ---------------------------------------------------------------------------
-- The checked operations agree
-- ---------------------------------------------------------------------------

theorem address_lt {frame : Frame} {operand : Int} {a : Nat} (h : frame.address operand = .ok a) :
    a < frame.slots.size := by
  unfold Frame.address at h
  split at h
  · cases h
    omega
  · cases h

theorem readSlot?_eq (m : Machine) (frame : Frame) (operand : Int) :
    m.readSlot? frame operand = some (m.readSlot frame operand) := by
  unfold readSlot? readSlot
  cases ha : frame.address operand with
  | error fault => rfl
  | ok a =>
    simp only [Frame.load?, if_pos (address_lt ha)]
    rfl

theorem writeSlot?_eq (m : Machine) (frame : Frame) (operand : Int) :
    m.writeSlot? frame operand = some (m.writeSlot frame operand) := by
  unfold writeSlot? writeSlot
  cases ha : frame.address operand with
  | error fault => rfl
  | ok a =>
    simp only [Frame.store?, if_pos (address_lt ha)]
    rfl

theorem Sound.store?_eq (h : m.Sound) (v : Value) :
    m.current.store? 0 v m.texts = some (m.current.store 0 v m.texts) := by
  refine if_pos ?_
  have hsize := h.size
  rw [h.current.size]
  omega

theorem leave?_eq (h : m.Sound) (hc : m.calls ≠ []) : m.leave? = some m.leave := by
  unfold leave? leave
  cases hcalls : m.calls with
  | nil => exact absurd hcalls hc
  | cons frame rest =>
    simp only [(h.pop hcalls).store?_eq]
    split <;> rfl

theorem loadArguments?_eq {frame : Frame} {address count : Nat}
    (h : address + count ≤ frame.slots.size) (texts : TextStore) :
    loadArguments? frame texts address count = some (loadArguments frame texts address count) := by
  induction count generalizing address texts with
  | zero => rfl
  | succ count ih =>
    unfold loadArguments? loadArguments
    have hlt : address < frame.slots.size := by omega
    rw [Frame.load?, if_pos hlt]
    cases frame.load address texts with
    | error fault => rfl
    | ok loaded =>
      have hnext : address + 1 + count ≤ frame.slots.size := by omega
      simp only [ih hnext]
      rfl

theorem noneBuilt?_eq (h : m.Rooted) (fault : Fault) : m.noneBuilt? fault = some (fail m fault) :=
  if_pos h.2

theorem callPlugin?_eq (h : Intact p m) (index : Int) :
    m.callPlugin? index = some (m.callPlugin index) := by
  unfold callPlugin? callPlugin
  cases hplugin : m.plugin? index with
  | none => rfl
  | some plugin =>
    cases hcalls : m.calls with
    | nil => exact noneBuilt?_eq h.rooted _
    | cons frame rest =>
      simp only
      split
      · rfl
      · have hargs : 1 + plugin.params.length ≤ frame.slots.size := by
          have hparams := h.arguments plugin (mem_plugins_of_plugin? hplugin)
          rw [(h.sound.top hcalls).size]
          omega
        have hload := extends_loadArguments frame m.texts 1 plugin.params.length
        rw [loadArguments?_eq hargs]
        generalize loadArguments frame m.texts 1 plugin.params.length = loaded at hload ⊢
        obtain ⟨loaded, texts⟩ := loaded
        cases loaded with
        | error fault => rfl
        | ok args =>
          have hcall := h.sound.plugins plugin (mem_plugins_of_plugin? hplugin) texts args
          simp only
          generalize plugin.call texts args = result at hcall ⊢
          obtain ⟨result, texts'⟩ := result
          cases result with
          | error fault => rfl
          | ok v =>
            have hcalled : ({ m with calls := rest, texts := texts' } : Machine).Sound :=
              (h.sound.pop hcalls).of_eq rfl (fun _ hf => hf) rfl
                ((hload.trans hcall).wellFormed h.sound.texts)
            simp only [hcalled.store?_eq]
            rfl

theorem startFrame?_eq (h : m.Rooted) : m.startFrame? = some m.startFrame := by
  unfold startFrame? startFrame
  cases hcalls : m.calls with
  | nil => exact noneBuilt?_eq h _
  | cons frame rest => rfl

theorem writeArgument?_eq (h : m.Rooted) (operand : Int) :
    m.writeArgument? operand = some (m.writeArgument operand) := by
  unfold writeArgument? writeArgument
  cases hcalls : m.calls with
  | nil => exact noneBuilt?_eq h _
  | cons frame rest =>
    simp only [writeSlot?_eq, Option.map_some]
    split <;> rfl

theorem execute?_eq (h : Intact p m) (op : Operation) : execute? p m op = some (execute p m op) := by
  cases op with
  | readLocal operand => exact readSlot?_eq m _ operand
  | readGlobal operand => exact readSlot?_eq m _ operand
  | writeLocal operand =>
    simp only [execute?, writeSlot?_eq]
    rfl
  | writeGlobal operand =>
    simp only [execute?, writeSlot?_eq]
    rfl
  | writeArgument operand => exact writeArgument?_eq h.rooted operand
  | startFrame => exact startFrame?_eq h.rooted
  | callPlugin index => exact callPlugin?_eq h index
  | returnValue =>
    simp only [execute?, execute]
    split
    · rfl
    · rename_i hc
      rw [leave?_eq h.sound (by simpa using hc)]
      rfl
  | _ => rfl

theorem skipAfter?_eq {skip : Nat} (h : 0 < skip) (op : Operation) :
    skipAfter? skip op = some (skipAfter skip op) := by
  cases op with
  | endIf => exact if_pos h
  | _ => rfl

theorem Intact.step?_eq (h : Intact p m) : m.step? p = some (m.step p) := by
  unfold Machine.step? Machine.step
  cases hs : m.segment? p with
  | none => rfl
  | some segment =>
    simp only
    cases hi : segment.code[m.current.pc]? with
    | none =>
      simp only
      split
      · rfl
      · rename_i hc
        have hnull : ({ m with b := .null } : Machine).Sound :=
          h.sound.of_eq rfl (fun _ hf => hf) rfl h.sound.texts
        rw [leave?_eq hnull (by simpa using hc)]
        rfl
    | some instruction =>
      have hadvance : Intact p m.advance :=
        ⟨h.sound.advance, h.rooted.modifyCurrent rfl rfl, depth_modifyCurrent m _ ▸ h.depth,
          within_modifyCurrent h.within hs hi rfl rfl rfl, by simpa [advance] using h.arguments⟩
      simp only
      split
      · rename_i hk
        rw [skipAfter?_eq hk]
        rfl
      · rw [show m.modifyCurrent _ = m.advance from rfl, execute?_eq hadvance]
        rfl

theorem Intact.runFor?_eq (h : Intact p m) (steps : Nat) :
    runFor? p steps m = some (Machine.runFor p steps m) := by
  induction steps generalizing m with
  | zero => rfl
  | succ steps ih =>
    have hstep := h.step
    unfold runFor? Machine.runFor
    rw [h.step?_eq]
    generalize Machine.step p m = outcome at hstep ⊢
    obtain ⟨m', r⟩ := outcome
    cases r with
    | error e => rfl
    | ok status =>
      simp only [ih hstep]
      split <;> rfl

theorem Intact.run?_eq (h : Intact p m) : m.run? p = some (m.run p) := by
  rw [run?, Machine.run, h.runFor?_eq, Option.map_some]

theorem Intact.recover?_eq (h : Intact p m) : m.recover? p = some (m.recover p) := by
  have howner : m.global.owner = .code globalCode := h.rooted.1
  obtain ⟨s, hs, -⟩ := (h.within m.global.control (by simp [stack, frames])).code _ howner
  have hlength : p.globalLength = s.code.size := by simp [Program.globalLength, hs]
  simp [recover?, Machine.recover, howner, hs, hlength]

theorem globalAddress_lt {address : Int} {a : Nat} (h : m.Sound)
    (ha : m.globalAddress address = .ok a) : a < m.global.slots.size := by
  unfold globalAddress at ha
  split at ha
  · cases ha
    rw [h.global.size]
    omega
  · cases ha

theorem setGlobal?_eq (h : m.Sound) (address : Int) (v : Value) :
    m.setGlobal? address v = some (m.setGlobal address v) := by
  unfold setGlobal? Machine.setGlobal
  cases ha : m.globalAddress address with
  | error fault => rfl
  | ok a =>
    simp only [Frame.store?, if_pos (globalAddress_lt h ha)]
    rfl

theorem getGlobal?_eq (h : m.Sound) (address : Int) :
    m.getGlobal? address = some (m.getGlobal address) := by
  unfold getGlobal? Machine.getGlobal
  cases ha : m.globalAddress address with
  | error fault => rfl
  | ok a =>
    simp only [Frame.load?, if_pos (globalAddress_lt h ha)]
    rfl

end

-- ---------------------------------------------------------------------------
-- Machines that come about
-- ---------------------------------------------------------------------------

/-- The programs, with global code at least, and the machines that come about by steps,
runs and recoveries, whether they fail or not, and by what a host may do in between: read and
write globals, create texts, register functions that only add texts and whose arguments
fit, set the streams, and let the program grow. -/
inductive Driven (requested : Int) : Program → Machine → Prop
  | new {p : Program} (hp : p.hasCode globalCode = true) : Driven requested p (.new requested)
  | step {p : Program} {m : Machine} (h : Driven requested p m) : Driven requested p (m.step p).1
  | run {p : Program} {m : Machine} (h : Driven requested p m) : Driven requested p (m.run p).1
  | recover {p : Program} {m : Machine} (h : Driven requested p m) :
      Driven requested p (m.recover p)
  | setGlobal {p : Program} {m m' : Machine} {address : Int} {v : Value}
      (h : Driven requested p m) (hs : m.setGlobal address v = .ok m') : Driven requested p m'
  | getGlobal {p : Program} {m m' : Machine} {address : Int} {v : Value}
      (h : Driven requested p m) (hg : m.getGlobal address = .ok (v, m')) : Driven requested p m'
  | intern {p : Program} {m : Machine} (k : Constant) (h : Driven requested p m) :
      Driven requested p (m.intern k).2
  | addPlugin {p : Program} {m : Machine} {plugin : Plugin} (h : Driven requested p m)
      (hcall : plugin.call.OnlyAdds) (hargs : plugin.params.length + 1 ≤ m.frameSize) :
      Driven requested p (m.addPlugin plugin).2
  | streams {p : Program} {m : Machine} (input : Input) (output : Output)
      (h : Driven requested p m) : Driven requested p { m with input, output }
  | grow {p p' : Program} {m : Machine} (h : Driven requested p m) (hp : p.Extends p') :
      Driven requested p' m

section
variable {requested : Int} {p : Program} {m : Machine}

theorem Driven.intact (h : Driven requested p m) : Intact p m := by
  induction h with
  | new hp => exact intact_new hp requested
  | step _ ih => exact ih.step
  | run _ ih => exact ih.run
  | recover _ ih => exact ih.recover
  | setGlobal _ hs ih => exact ih.setGlobal hs
  | getGlobal _ hg ih => exact ih.getGlobal hg
  | intern k _ ih =>
    exact ih.of_stack (ih.sound.of_eq rfl (fun _ hf => hf) rfl (ih.sound.texts.intern k)) rfl rfl
      ih.arguments
  | addPlugin _ hcall hargs ih => exact ih.addPlugin hcall hargs
  | streams input output _ ih => exact ih.streams input output
  | grow _ hp ih => exact ih.extend hp

theorem frameSize_runFor (p : Program) (steps : Nat) (m : Machine) :
    (runFor p steps m).1.frameSize = m.frameSize := by
  induction steps generalizing m with
  | zero => rfl
  | succ steps ih =>
    unfold runFor
    split
    · rename_i hs
      rw [← (step_setup hs).2]
      split
      · rfl
      · exact ih _
    · rename_i hs
      exact (step_setup hs).2

theorem Driven.frameSize_eq (h : Driven requested p m) : m.frameSize = frameSizeFor requested := by
  induction h with
  | new => rfl
  | @step p m _ ih => exact (step_setup (Prod.eta (Machine.step p m)).symm).2.trans ih
  | @run p m _ ih =>
    rcases hrun : m.run p with ⟨m', r⟩
    obtain ⟨m₁, hfor, rfl⟩ := runFor_of_run hrun
    rw [← ih, ← frameSize_runFor p (stepBound p) m, hfor]
    rfl
  | setGlobal _ hs ih =>
    obtain ⟨global, rfl, -⟩ := setGlobal_ok hs
    exact ih
  | getGlobal _ hg ih =>
    obtain ⟨texts, rfl, -⟩ := getGlobal_ok hg
    exact ih
  | _ => assumption

end

/-- What holds of every frame: its slots, the texts that they hold, and where it is. -/
structure FrameIntact (p : Program) (size : Nat) (f : Frame) : Prop where
  size : f.slots.size = size
  texts : ∀ (a id : Nat), f.slots[a]? = some (.text id) → ∃ t, f.texts.find? id = some t
  code : f.ready = true → ∃ id s, f.owner = .code id ∧ p.segment? id = some s ∧ f.pc ≤ s.code.size
  plugin : f.owner = .plugin → f.ready = false

theorem Intact.frame {p : Program} {m : Machine} (h : Intact p m) {f : Frame} (hf : f ∈ m.frames) :
    FrameIntact p m.frameSize f := by
  have hsound := h.sound.frames f hf
  have hwithin : f.control.Within p := h.within f.control (List.mem_map_of_mem hf)
  refine ⟨hsound.size, ?_, ?_, hwithin.plugin⟩
  · intro a id hslot
    obtain ⟨k, hk⟩ := hsound.live a
    rw [Frame.slot, hslot] at hk
    obtain ⟨t, ht, -⟩ := TextStore.constant?_text.mp hk
    exact ⟨t, ht⟩
  · intro hready
    cases ho : f.owner with
    | plugin =>
      cases hready.symm.trans (hwithin.plugin ho)
    | code id =>
      obtain ⟨s, hs, hpc⟩ := hwithin.code id ho
      exact ⟨id, s, rfl, hs, hpc⟩

/-- The machine on arbitrary code: the frame at the bottom is that of the global code and
can run, the depth is bounded, every frame is intact, and every step, run, recovery and access
to a global has an answer that rests on nothing out of range. -/
theorem arbitrary_code_safe {requested : Int} {p : Program} {m : Machine}
    (h : Driven requested p m) :
    (m.frames.getLast? = some m.global ∧ m.global.owner = .code globalCode ∧
      m.global.ready = true) ∧
    (m.frames.length = m.depth ∧ 1 ≤ m.depth ∧ m.depth ≤ maxCallDepth) ∧
    (∀ f ∈ m.frames, FrameIntact p (frameSizeFor requested) f) ∧
    m.step? p = some (m.step p) ∧ m.run? p = some (m.run p) ∧
    m.recover? p = some (m.recover p) ∧
    (∀ address v, m.setGlobal? address v = some (m.setGlobal address v)) ∧
    ∀ address, m.getGlobal? address = some (m.getGlobal address) := by
  have hi := h.intact
  refine ⟨⟨by simp [frames], hi.rooted⟩, ⟨by simp [frames, depth], by simp [depth], hi.depth⟩, ?_,
    hi.step?_eq, hi.run?_eq, hi.recover?_eq, setGlobal?_eq hi.sound, getGlobal?_eq hi.sound⟩
  intro f hf
  rw [← h.frameSize_eq]
  exact hi.frame hf

/-- Code that returns while the arguments of a plugin are being built, names a slot and a
plugin that are not there, and closes a block that was never opened. -/
def crooked : Program :=
  (Program.empty.append globalCode [⟨.newFrame entryCode, 1⟩, ⟨.startFrame, 2⟩]).append entryCode
    [⟨.endIf, 3⟩, ⟨.newFrame (-1), 4⟩, ⟨.returnValue, 5⟩, ⟨.writeArgument 2, 6⟩, ⟨.callPlugin 7, 7⟩]

def crookedMachine : Machine :=
  let m := ((Machine.new 2).addPlugin { name := "MUDO", call := fun texts _ => (.ok .null, texts) }).2
  ((((m.step crooked).1.step crooked).1.step crooked).1.step crooked).1

theorem arbitrary_code_safe_crooked :
    crookedMachine.depth = 3 ∧ crookedMachine.top.owner = .plugin ∧
    (crookedMachine.step crooked).2.toBool = false ∧
    (crookedMachine.step crooked).1.depth = 3 ∧
    crookedMachine.step? crooked = some (crookedMachine.step crooked) ∧
    ∀ f ∈ crookedMachine.frames, FrameIntact crooked 2 f := by
  have hdriven : Driven 2 crooked crookedMachine :=
    .step (.step (.step (.step (.addPlugin (.new rfl) (fun _ _ => .refl) (by decide)))))
  obtain ⟨-, -, hframes, hstep, -⟩ := arbitrary_code_safe hdriven
  exact ⟨by decide, by decide, by decide, by decide, hstep, hframes⟩

end Machine
end Birl
