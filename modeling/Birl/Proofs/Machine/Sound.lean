import Birl.Proofs.Machine.Arithmetic
import Birl.Proofs.Machine.Stack

/-!
# Sound machines

In a sound machine every frame has as many slots as the machine says, every slot
of every frame stands for a plain value, and the machine's own texts are well
formed. Any step on any code keeps this, whether it succeeds or fails
(`step_sound`), as long as host functions do nothing to the texts but add to them;
so every reachable machine is sound.
-/

namespace Birl

/-- The host function reads texts and creates new ones. -/
def Callback.OnlyAdds (call : Callback) : Prop :=
  ∀ (texts : TextStore) (args : List Value), texts.Extends (call texts args).2

namespace Frame

section
variable {f f' : Frame} {size a : Nat} {v : Value} {outer outer' : TextStore}

theorem Sound.store_sound (h : f.Sound size) (ha : a < size) (hs : f.store a v outer = .ok f') :
    f'.Sound size := by
  have hlive : ∃ k, outer.constant? v = some k := by
    cases v with
    | text id =>
      cases hf : outer.find? id with
      | some t => exact ⟨.text t, TextStore.constant?_text.mpr ⟨t, hf, rfl⟩⟩
      | none => simp [Frame.store, TextStore.get, hf] at hs
    | _ => exact ⟨_, rfl⟩
  obtain ⟨k, hk⟩ := hlive
  obtain ⟨f'', hf'', hsound, -⟩ := h.store_ok ha hk
  rw [hf''] at hs
  cases hs
  exact hsound

theorem Sound.address_lt {operand : Int} (h : f.Sound size) (ha : f.address operand = .ok a) :
    a < size := by
  unfold Frame.address at ha
  split at ha
  · cases ha
    have := h.size
    omega
  · cases ha

theorem extends_load (h : f.load a outer = .ok (v, outer')) : outer.Extends outer' := by
  unfold load at h
  split at h
  · split at h
    · cases h
      exact TextStore.Extends.refl.add _
    · cases h
  · cases h
    exact .refl

end
end Frame

namespace Machine

structure Sound (m : Machine) : Prop where
  texts : m.texts.WellFormed
  size : 2 ≤ m.frameSize
  frames : ∀ f ∈ m.frames, f.Sound m.frameSize
  plugins : ∀ plugin ∈ m.plugins, plugin.call.OnlyAdds

section
variable {p : Program} {m : Machine}

theorem mem_frames_current (m : Machine) : m.current ∈ m.frames := by
  obtain ⟨above, below, hframes, -⟩ := m.frames_current
  rw [hframes]
  simp

theorem Sound.current (h : m.Sound) : m.current.Sound m.frameSize := h.frames _ m.mem_frames_current

theorem Sound.global (h : m.Sound) : m.global.Sound m.frameSize :=
  h.frames _ (by simp [Machine.frames])

/-- Soundness is about frames, texts and plugins only. -/
theorem Sound.of_eq {m' : Machine} (h : m.Sound) (hs : m'.frameSize = m.frameSize)
    (hf : ∀ f ∈ m'.frames, f ∈ m.frames) (hp : m'.plugins = m.plugins)
    (ht : m'.texts.WellFormed) : m'.Sound :=
  ⟨ht, hs ▸ h.size, fun f hm => hs ▸ h.frames f (hf f hm), hp ▸ h.plugins⟩

theorem Sound.modifyCurrent {g : Frame → Frame} (h : m.Sound)
    (hg : (g m.current).Sound m.frameSize) : (m.modifyCurrent g).Sound := by
  obtain ⟨above, below, hframes, -, -, hmod⟩ := m.frames_current
  refine ⟨by simpa using h.texts, by simpa using h.size, fun f hf => ?_, by simpa using h.plugins⟩
  rw [modifyCurrent_frameSize]
  rw [hmod] at hf
  have hall := h.frames
  rw [hframes] at hall
  rcases List.mem_append.mp hf with hf | hf
  · exact hall f (by simp [hf])
  · rcases List.mem_cons.mp hf with rfl | hf
    · exact hg
    · exact hall f (by simp [hf])

theorem Sound.moveCurrent {g : Frame → Frame} (h : m.Sound)
    (hs : (g m.current).slots = m.current.slots) (ht : (g m.current).texts = m.current.texts) :
    (m.modifyCurrent g).Sound :=
  h.modifyCurrent (h.current.congr hs ht)

-- ---------------------------------------------------------------------------
-- Operations
-- ---------------------------------------------------------------------------

theorem Sound.setB {r : StoreResult} (h : m.Sound) (hr : r.2.WellFormed) : (m.setB r).1.Sound := by
  obtain ⟨r, texts⟩ := r
  cases r with
  | ok v => exact h.of_eq rfl (fun _ hf => hf) rfl hr
  | error fault => exact h.of_eq rfl (fun _ hf => hf) rfl hr

theorem Sound.readSlot (h : m.Sound) (frame : Frame) (operand : Int) :
    (m.readSlot frame operand).1.Sound := by
  unfold Machine.readSlot
  split
  · exact h
  · split
    · exact h
    · rename_i hload
      exact h.of_eq rfl (fun _ hf => hf) rfl ((Frame.extends_load hload).wellFormed h.texts)

theorem Sound.writeSlot {frame frame' : Frame} {operand : Int} (hf : frame.Sound m.frameSize)
    (hw : m.writeSlot frame operand = .ok frame') : frame'.Sound m.frameSize := by
  unfold Machine.writeSlot at hw
  cases ha : frame.address operand with
  | error fault => simp [ha, bind, Except.bind] at hw
  | ok address =>
    simp only [ha, bind, Except.bind] at hw
    exact hf.store_sound (hf.address_lt ha) hw

theorem Sound.pop {frame : Frame} {rest : List Frame} (h : m.Sound) (hc : m.calls = frame :: rest) :
    ({ m with calls := rest } : Machine).Sound := by
  refine h.of_eq rfl (fun f hf => ?_) rfl h.texts
  simp only [Machine.frames, hc]
  simp only [Machine.frames] at hf
  simp only [List.cons_append, List.mem_cons, hf, or_true]

theorem Sound.push {frame : Frame} (h : m.Sound) (hf : frame.Sound m.frameSize) :
    ({ m with calls := frame :: m.calls } : Machine).Sound := by
  refine ⟨h.texts, h.size, fun f hm => ?_, h.plugins⟩
  rcases List.mem_cons.mp (show f ∈ frame :: m.frames from hm) with rfl | hm
  · exact hf
  · exact h.frames f hm

theorem Sound.replaceTop {frame frame' : Frame} {rest : List Frame} (h : m.Sound)
    (hc : m.calls = frame :: rest) (hf : frame'.Sound m.frameSize) :
    ({ m with calls := frame' :: rest } : Machine).Sound :=
  (h.pop hc).push hf

theorem Sound.top {frame : Frame} {rest : List Frame} (h : m.Sound) (hc : m.calls = frame :: rest) :
    frame.Sound m.frameSize :=
  h.frames frame (by simp [Machine.frames, hc])

theorem Sound.storeResult {v : Value} {frame : Frame} (h : m.Sound)
    (hs : m.current.store 0 v m.texts = .ok frame) : (m.modifyCurrent fun _ => frame).Sound :=
  h.modifyCurrent (h.current.store_sound (by have := h.size; omega) hs)

theorem Sound.leave (h : m.Sound) : m.leave.1.Sound := by
  unfold Machine.leave
  split
  · exact h
  · rename_i frame rest hc
    split
    · have hrest := h.pop hc
      simp only
      split
      · rename_i caller hs
        exact hrest.storeResult hs
      · exact hrest
    · exact h

theorem extends_loadArguments (frame : Frame) (texts : TextStore) (address count : Nat) :
    texts.Extends (loadArguments frame texts address count).2 := by
  induction count generalizing texts address with
  | zero => exact .refl
  | succ count ih =>
    unfold loadArguments
    split
    · exact .refl
    · rename_i hload
      exact (Frame.extends_load hload).trans (ih _ _)

theorem mem_plugins_of_plugin? {index : Int} {plugin : Plugin} (h : m.plugin? index = some plugin) :
    plugin ∈ m.plugins := by
  unfold plugin? at h
  split at h
  · exact Array.mem_of_getElem? h
  · cases h

theorem Sound.callPlugin (h : m.Sound) (index : Int) : (m.callPlugin index).1.Sound := by
  unfold Machine.callPlugin
  split
  · exact h
  · rename_i plugin hplugin
    split
    · exact h
    · rename_i frame rest hc
      split
      · exact h
      · have hrest := h.pop hc
        have hload := extends_loadArguments frame m.texts 1 plugin.params.length
        have hadds := h.plugins plugin (mem_plugins_of_plugin? hplugin)
        simp only
        split
        · rename_i hargs
          rw [hargs] at hload
          exact hrest.of_eq rfl (fun _ hf => hf) rfl (hload.wellFormed h.texts)
        · rename_i args texts hargs
          rw [hargs] at hload
          have hcall := hadds texts args
          split
          · rename_i hresult
            rw [hresult] at hcall
            exact hrest.of_eq rfl (fun _ hf => hf) rfl ((hload.trans hcall).wellFormed h.texts)
          · rename_i texts' hresult
            rw [hresult] at hcall
            have hcalled : ({ m with calls := rest, texts := texts' } : Machine).Sound :=
              hrest.of_eq rfl (fun _ hf => hf) rfl ((hload.trans hcall).wellFormed h.texts)
            split
            · rename_i hs
              exact hcalled.storeResult hs
            · exact hcalled

theorem Sound.pushFrame (h : m.Sound) (code : Int) : (pushFrame p m code).1.Sound := by
  unfold Machine.pushFrame
  split
  · exact h
  · split
    · exact h.push (Frame.sound_new _ _)
    · split
      · exact h.push (Frame.sound_new _ _)
      · exact h

theorem Sound.startFrame (h : m.Sound) : m.startFrame.1.Sound := by
  unfold Machine.startFrame
  split
  · exact h
  · rename_i frame rest hc
    split
    · exact h
    · exact h.replaceTop hc ((h.top hc).congr rfl rfl)

theorem Sound.writeArgument (h : m.Sound) (operand : Int) : (m.writeArgument operand).1.Sound := by
  unfold Machine.writeArgument
  split
  · exact h
  · rename_i frame rest hc
    split
    · exact h
    · split
      · rename_i hw
        exact h.replaceTop hc (Sound.writeSlot (h.top hc) hw)
      · exact h

theorem Sound.readInput (h : m.Sound) : m.readInput.1.Sound := by
  unfold Machine.readInput
  simp only
  split
  · exact h.of_eq rfl (fun _ hf => hf) rfl h.texts
  all_goals
    rename_i t _
    exact h.of_eq rfl (fun _ hf => hf) rfl (h.texts.intern (.text t.chomp))

theorem Sound.emit (h : m.Sound) (t : Except Fault Text) : (m.emit t).1.Sound := by
  cases t with
  | ok t => exact h.of_eq rfl (fun _ hf => hf) rfl h.texts
  | error fault => exact h

theorem Sound.execute (h : m.Sound) (op : Operation) : (execute p m op).1.Sound := by
  have hsame {m' : Machine} (hs : m'.frameSize = m.frameSize) (hg : m'.global = m.global)
      (hc : m'.calls = m.calls) (hp : m'.plugins = m.plugins) (ht : m'.texts.WellFormed) :
      m'.Sound :=
    h.of_eq hs (fun f hf => by rwa [frames_eq hg hc] at hf) hp ht
  cases op with
  | loadA k => exact hsame rfl rfl rfl rfl (h.texts.intern k)
  | loadB k => exact hsame rfl rfl rfl rfl (h.texts.intern k)
  | arith op => exact h.setB (h.texts.arithmetic op _ _)
  | toInteger => exact h.setB (h.texts.toInteger _)
  | toNumber => exact h.setB (h.texts.toNumber _)
  | toText => exact h.setB (h.texts.toText _)
  | compare =>
    simp only [Machine.execute]
    split
    · exact h.moveCurrent rfl rfl
    · exact h
  | executeIf requirement =>
    simp only [Machine.execute]
    split
    · exact h
    · exact h.moveCurrent rfl rfl
  | readLocal operand => exact h.readSlot _ operand
  | readGlobal operand => exact h.readSlot _ operand
  | writeLocal operand =>
    simp only [Machine.execute]
    split
    · rename_i hw
      exact h.modifyCurrent (Sound.writeSlot h.current hw)
    · exact h
  | writeGlobal operand =>
    simp only [Machine.execute]
    split
    · rename_i global hw
      refine ⟨h.texts, h.size, fun f hf => ?_, h.plugins⟩
      rcases List.mem_append.mp hf with hf | hf
      · exact h.frames f (List.mem_append_left _ hf)
      · rw [List.mem_singleton.mp hf]
        exact Sound.writeSlot h.global hw
    · exact h
  | writeArgument operand => exact h.writeArgument operand
  | newFrame code => exact h.pushFrame code
  | assertKind kind =>
    simp only [Machine.execute]
    split
    · exact hsame rfl rfl rfl rfl h.texts
    · exact h
  | startFrame => exact h.startFrame
  | callPlugin index => exact h.callPlugin index
  | returnValue =>
    simp only [Machine.execute]
    split
    · exact h
    · have hleave := h.leave
      split
      · rename_i hl
        rwa [hl] at hleave
      · rename_i hl
        rwa [hl] at hleave
  | readInput => exact h.readInput
  | print => exact h.emit _
  | printDebug => exact h.emit _
  | flush =>
    simp only [Machine.execute]
    split <;> exact hsame rfl rfl rfl rfl h.texts
  | _ => exact hsame rfl rfl rfl rfl h.texts

theorem Sound.advance (h : m.Sound) : m.advance.Sound := h.moveCurrent rfl rfl

theorem step_sound (p : Program) (h : m.Sound) : (step p m).1.Sound := by
  have hnull : ({ m with b := .null } : Machine).Sound := h.of_eq rfl (fun _ hf => hf) rfl h.texts
  refine step_induct h hnull.leave ?_ ?_
  · exact fun _ _ => h.moveCurrent rfl rfl
  · exact fun _ _ => h.advance.execute _

-- ---------------------------------------------------------------------------
-- What no step changes
-- ---------------------------------------------------------------------------

theorem leave_setup (m : Machine) :
    m.leave.1.plugins = m.plugins ∧ m.leave.1.frameSize = m.frameSize := by
  unfold leave
  split
  · exact ⟨rfl, rfl⟩
  · split
    · simp only
      split <;> simp
    · exact ⟨rfl, rfl⟩

theorem execute_setup (p : Program) (m : Machine) (op : Operation) :
    (Machine.execute p m op).1.plugins = m.plugins ∧
      (Machine.execute p m op).1.frameSize = m.frameSize := by
  have hleave := m.leave_setup
  cases op with
  | returnValue =>
    simp only [Machine.execute]
    split
    · exact ⟨rfl, rfl⟩
    · split
      all_goals
        rename_i hl
        rw [hl] at hleave
        exact hleave
  | flush =>
    simp only [Machine.execute]
    split <;> exact ⟨rfl, rfl⟩
  | callPlugin index =>
    simp only [Machine.execute, Machine.callPlugin]
    repeat' split
    all_goals simp [fail, done]
  | _ =>
    simp only [Machine.execute, Machine.setB, Machine.readSlot, Machine.writeArgument,
      Machine.pushFrame, Machine.startFrame, Machine.readInput, Machine.emit, Machine.intern]
    repeat' split
    all_goals simp [fail, done]

theorem step_setup {m' : Machine} {r : Except Error Status} (h : step p m = (m', r)) :
    m'.plugins = m.plugins ∧ m'.frameSize = m.frameSize := by
  have hsteps : (step p m).1.plugins = m.plugins ∧ (step p m).1.frameSize = m.frameSize := by
    refine step_induct (P := fun m' => m'.plugins = m.plugins ∧ m'.frameSize = m.frameSize)
      ⟨rfl, rfl⟩ (leave_setup _) ?_ ?_
    · exact fun _ _ => ⟨modifyCurrent_plugins m _, modifyCurrent_frameSize m _⟩
    · intro _ instruction _ _
      simpa [Machine.advance] using execute_setup p m.advance instruction.op
  rwa [h] at hsteps

-- ---------------------------------------------------------------------------
-- Reachable machines
-- ---------------------------------------------------------------------------

/-- The machines that come about by steps on any programs and by what the host does
in between. -/
inductive Reachable : Machine → Prop
  | new (requestedFrameSize : Int) : Reachable (.new requestedFrameSize)
  | step {m : Machine} (p : Program) (h : Reachable m) : Reachable (step p m).1
  | recover {m : Machine} (p : Program) (h : Reachable m) : Reachable (m.recover p)
  | setGlobal {m m' : Machine} {address : Int} {v : Value} (h : Reachable m)
      (hs : m.setGlobal address v = .ok m') : Reachable m'
  | getGlobal {m m' : Machine} {address : Int} {v : Value} (h : Reachable m)
      (hg : m.getGlobal address = .ok (v, m')) : Reachable m'
  | intern {m : Machine} (k : Constant) (h : Reachable m) : Reachable (m.intern k).2
  | addPlugin {m : Machine} {plugin : Plugin} (h : Reachable m) (hp : plugin.call.OnlyAdds) :
      Reachable (m.addPlugin plugin).2
  | streams {m : Machine} (input : Input) (output : Output) (h : Reachable m) :
      Reachable { m with input, output }

theorem sound_new (requested : Int) : (Machine.new requested).Sound := by
  refine ⟨TextStore.wellFormed_empty, two_le_frameSizeFor requested, fun f hf => ?_, by simp [Machine.new]⟩
  have hf : f = (Machine.new requested).global := by simpa [Machine.new, Machine.frames] using hf
  rw [hf]
  exact (Frame.sound_new (.code globalCode) (frameSizeFor requested)).congr rfl rfl

theorem Sound.recover (p : Program) (h : m.Sound) : (m.recover p).Sound := by
  refine ⟨h.texts, h.size, fun f hf => ?_, h.plugins⟩
  rw [List.mem_singleton.mp (show f ∈ [(m.recover p).global] from hf)]
  exact h.global.congr rfl rfl

theorem Sound.setGlobal {m' : Machine} {address : Int} {v : Value} (h : m.Sound)
    (hs : m.setGlobal address v = .ok m') : m'.Sound := by
  unfold Machine.setGlobal globalAddress at hs
  split at hs
  · rename_i ha
    cases hstore : m.global.store address.toNat v m.texts with
    | error fault => simp [hstore, bind, Except.bind] at hs
    | ok global =>
      simp only [hstore, bind, Except.bind, pure, Except.pure, Except.ok.injEq] at hs
      subst hs
      refine ⟨h.texts, h.size, fun f hf => ?_, h.plugins⟩
      rcases List.mem_append.mp hf with hf | hf
      · exact h.frames f (List.mem_append_left _ hf)
      · rw [List.mem_singleton.mp hf]
        exact h.global.store_sound (by omega) hstore
  · cases hs

theorem getGlobal_ok {m' : Machine} {address : Int} {v : Value}
    (hg : m.getGlobal address = .ok (v, m')) :
    ∃ texts, m' = { m with texts } ∧ m.texts.Extends texts := by
  unfold Machine.getGlobal globalAddress at hg
  split at hg
  · cases hload : m.global.load address.toNat m.texts with
    | error fault => simp [hload, bind, Except.bind] at hg
    | ok loaded =>
      obtain ⟨w, texts⟩ := loaded
      simp only [hload, bind, Except.bind, pure, Except.pure, Except.ok.injEq, Prod.mk.injEq] at hg
      obtain ⟨rfl, rfl⟩ := hg
      exact ⟨texts, rfl, Frame.extends_load hload⟩
  · cases hg

theorem Sound.getGlobal {m' : Machine} {address : Int} {v : Value} (h : m.Sound)
    (hg : m.getGlobal address = .ok (v, m')) : m'.Sound := by
  obtain ⟨texts, rfl, hext⟩ := getGlobal_ok hg
  exact h.of_eq rfl (fun _ hf => hf) rfl (hext.wellFormed h.texts)

theorem Sound.addPlugin {plugin : Plugin} (h : m.Sound) (hp : plugin.call.OnlyAdds) :
    (m.addPlugin plugin).2.Sound := by
  refine ⟨h.texts, h.size, h.frames, fun plugin' hm => ?_⟩
  rcases Array.mem_push.mp hm with hm | rfl
  · exact h.plugins plugin' hm
  · exact hp

theorem Reachable.sound (h : Reachable m) : m.Sound := by
  induction h with
  | new requested => exact sound_new requested
  | step p _ ih => exact step_sound p ih
  | recover p _ ih => exact ih.recover p
  | setGlobal _ hs ih => exact ih.setGlobal hs
  | getGlobal _ hg ih => exact ih.getGlobal hg
  | intern k _ ih => exact ih.of_eq rfl (fun _ hf => hf) rfl (ih.texts.intern k)
  | addPlugin _ hp ih => exact ih.addPlugin hp
  | streams input output _ ih => exact ih.of_eq rfl (fun _ hf => hf) rfl ih.texts

end
end Machine
end Birl
