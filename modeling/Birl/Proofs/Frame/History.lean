import Birl.Proofs.Frame
import Birl.Proofs.TextStore.History

/-!
# What happens to a frame

Values come to the slots of a new frame from a store outside it and are read back into that
store, which is called for other things in between. The texts in the slots live in the
frame's own store, each under an id of its own, so the slots are variables of their own: a
slot stands for the last value that was stored in it, and nothing else that is done changes
what it stands for (`slots_independent`).
-/

namespace Birl.Frame

open TextStore (Call Reply)

/-- What is done with a frame of so many slots, or with the store outside it. -/
inductive Action (size : Nat) where
  | store (slot : Fin size) (v : Value)
  | load (slot : Fin size)
  | outer (c : Call)
  deriving DecidableEq, Repr

inductive Outcome where
  | stored
  | loaded (v : Value)
  | replied (r : Reply)
  deriving DecidableEq, Repr

/-- A frame and the store that its values come from and go to. -/
structure Scene where
  frame : Frame
  outer : TextStore := {}
  deriving DecidableEq, Repr

/-- A load of the slot, into whatever store, gives a value that stands for the constant there. -/
def Reads (f : Frame) (a : Nat) (k : Constant) : Prop :=
  ∀ outer : TextStore, ∃ v outer', f.load a outer = .ok (v, outer') ∧ outer'.constant? v = some k

section
variable {f : Frame} {size a : Nat} {k : Constant}

theorem Sound.reads_iff (h : f.Sound size) : f.Reads a k ↔ f.constant? a = some k := by
  constructor
  · intro hreads
    obtain ⟨l, hl⟩ := h.constant a
    obtain ⟨v, outer', hload, hv⟩ := hreads {}
    rw [load_of_constant hl] at hload
    obtain ⟨-, hintern, -⟩ := TextStore.intern_ok {} l
    rw [Except.ok.inj hload, hv] at hintern
    rw [hl, hintern]
  · intro hk outer
    exact ⟨_, _, load_of_constant hk outer, (TextStore.intern_ok outer k).2.1⟩

end

namespace Scene

variable {size : Nat}

def act (s : Scene) : Action size → Except Fault Outcome × Scene
  | .store slot v =>
    match s.frame.store slot v s.outer with
    | .ok frame => (.ok .stored, { s with frame })
    | .error fault => (.error fault, s)
  | .load slot =>
    match s.frame.load slot s.outer with
    | .ok (v, outer) => (.ok (.loaded v), { s with outer })
    | .error fault => (.error fault, s)
  | .outer c => ((s.outer.call c).1.map .replied, { s with outer := (s.outer.call c).2 })

/-- The slots stand for something and own their texts, and the store outside is in order. -/
structure Sound (size : Nat) (s : Scene) : Prop where
  frame : s.frame.Sound size
  outer : s.outer.WellFormed

/-- The ways in which an action comes out. -/
inductive Acts (s : Scene) : Action size → Except Fault Outcome → Scene → Prop
  | stored {slot : Fin size} {v : Value} {frame : Frame} {k : Constant}
      (value : s.outer.constant? v = some k) (sound : frame.Sound size)
      (constants : ∀ b, frame.constant? b = if b = slot then some k else s.frame.constant? b) :
      Acts s (.store slot v) (.ok .stored) { s with frame }
  | dead {slot : Fin size} {v : Value} (fault : Fault) (value : s.outer.constant? v = none) :
      Acts s (.store slot v) (.error fault) s
  | loaded {slot : Fin size} (k : Constant) :
      Acts s (.load slot) (.ok (.loaded (s.outer.intern k).1)) { s with outer := (s.outer.intern k).2 }
  | outer (c : Call) :
      Acts s (.outer c) ((s.outer.call c).1.map .replied) { s with outer := (s.outer.call c).2 }

section
variable {s s' : Scene} {x : Action size} {r : Except Fault Outcome}

theorem acts_act (hs : s.Sound size) (x : Action size) : Acts s x (s.act x).1 (s.act x).2 := by
  cases x with
  | store slot v =>
    cases hv : s.outer.constant? v with
    | some k =>
      obtain ⟨frame, hstore, hsound, hconstants, -⟩ := hs.frame.store_ok slot.isLt hv
      simp only [act, hstore]
      exact .stored hv hsound hconstants
    | none =>
      obtain ⟨fault, hstore⟩ := store_dead (f := s.frame) (a := slot) hv
      simp only [act, hstore]
      exact .dead fault hv
  | load slot =>
    obtain ⟨k, hk⟩ := hs.frame.constant slot
    simp only [act, load_of_constant hk]
    exact .loaded k
  | outer c => exact .outer c

theorem Acts.sound (h : Acts s x r s') (hs : s.Sound size) : s'.Sound size := by
  cases h with
  | stored _ hsound => exact ⟨hsound, hs.outer⟩
  | dead => exact hs
  | loaded k => exact ⟨hs.frame, (TextStore.intern_ok s.outer k).1.wellFormed hs.outer⟩
  | outer c => exact ⟨hs.frame, (TextStore.answers_call hs.outer c).wellFormed hs.outer⟩

theorem Acts.kept (h : Acts s x r s') {a : Fin size} (ha : ∀ v, (x, r) ≠ (.store a v, .ok .stored)) :
    s'.frame.constant? a = s.frame.constant? a := by
  cases h with
  | @stored slot v frame k _ _ hconstants =>
    have hne : (a : Nat) ≠ slot := by
      intro heq
      obtain rfl := Fin.ext heq
      exact ha v rfl
    rw [hconstants, if_neg hne]
  | dead | loaded | outer => rfl

theorem sound_after (hs : s.Sound size) (actions : List (Action size)) :
    (Trace.after act s actions).Sound size :=
  Trace.induct act (P := fun _ (s : Scene) => s.Sound size) hs
    (fun _ _ x hs => (acts_act hs x).sound hs) actions

theorem kept_after (hs : s.Sound size) {a : Fin size} (actions : List (Action size))
    (ha : ∀ v, (.store a v, .ok .stored) ∉ Trace.log act s actions) :
    (Trace.after act s actions).frame.constant? a = s.frame.constant? a := by
  induction actions generalizing s with
  | nil => rfl
  | cons x rest ih =>
    have hacts := acts_act hs x
    have hnow := hacts.kept fun v heq => ha v (heq ▸ .head _)
    exact (ih (hacts.sound hs) fun v hmem => ha v (.tail _ hmem)).trans hnow

end

/-- The ids that the store outside has given out, to those who call it and for loads. -/
def issued (log : List (Action size × Except Fault Outcome)) : List Nat :=
  log.filterMap fun
    | (.load _, .ok (.loaded (.text id))) => some id
    | (.outer (.add _), .ok (.replied (.id id))) => some id
    | _ => none

theorem issued_outer (c : Call) (answer : Except Fault Reply) :
    issued [((.outer c : Action size), answer.map .replied)] = TextStore.given [(c, answer)] := by
  cases c with
  | use => rfl
  | add t =>
    cases answer with
    | error => rfl
    | ok reply => cases reply <;> rfl

theorem Acts.range {s s' : Scene} {x : Action size} {r : Except Fault Outcome} (h : Acts s x r s')
    (hs : s.Sound size) :
    List.range s'.outer.next = List.range s.outer.next ++ issued [(x, r)] := by
  cases h with
  | stored | dead => exact (List.append_nil _).symm
  | loaded k =>
    cases k with
    | text t => exact List.range_succ
    | _ => exact (List.append_nil _).symm
  | outer c =>
    rw [issued_outer]
    exact (TextStore.answers_call hs.outer c).range

/-- The slots of the frame are variables of their own, and the store outside has given out
the ids. -/
structure Independent (size : Nat) (ids : List Nat) (s : Scene) : Prop where
  distinct : ∀ (a b : Fin size) i j, a ≠ b → s.frame.slot a = .text i →
    s.frame.slot b = .text j → i ≠ j
  alive : ∀ (a : Fin size) i, s.frame.slot a = .text i → ∃ t, s.frame.texts.get i = .ok t
  loads : ∀ a : Fin size, ∃ k, s.frame.Reads a k
  stores : ∀ (a : Fin size) v frame, s.frame.store a v s.outer = .ok frame →
    ∃ k, s.outer.constant? v = some k ∧ frame.Reads a k ∧
      ∀ (b : Fin size) l, b ≠ a → s.frame.Reads b l → frame.Reads b l
  /-- A store fails where the value is a missing text, and then nothing has changed. -/
  refuses : ∀ (a : Fin size) v fault, s.frame.store a v s.outer = .error fault →
    s.outer.constant? v = none ∧ s.act (.store a v) = (.error fault, s)
  fresh : ∀ (a : Fin size) id outer, s.frame.load a s.outer = .ok (.text id, outer) →
    id ∉ ids ∧ s.outer.find? id = none
  /-- Whatever is done next, a slot that nothing is stored in stands for what it did. -/
  kept : ∀ (a : Fin size) k later, s.frame.Reads a k →
    (∀ v, (.store a v, .ok .stored) ∉ Trace.log act s later) →
    (Trace.after act s later).frame.Reads a k

theorem Sound.independent {s : Scene} (hs : s.Sound size) :
    s.Independent size (List.range s.outer.next) where
  distinct a b i j hne ha hb := by
    rintro rfl
    exact hs.frame.apart a b (Fin.val_ne_of_ne hne) i ha hb
  alive a i ha := by
    obtain ⟨k, hk⟩ := hs.frame.live a
    rw [ha] at hk
    obtain ⟨t, ht, -⟩ := TextStore.constant?_text.mp hk
    exact ⟨t, by simp [TextStore.get, ht]⟩
  loads a := by
    obtain ⟨k, hk⟩ := hs.frame.constant a
    exact ⟨k, hs.frame.reads_iff.mpr hk⟩
  stores a v frame hstore := by
    cases hv : s.outer.constant? v with
    | none =>
      obtain ⟨fault, hdead⟩ := store_dead (f := s.frame) (a := a) hv
      rw [hdead] at hstore
      cases hstore
    | some k =>
      obtain ⟨frame', hstore', hsound, hconstants, -⟩ := hs.frame.store_ok a.isLt hv
      obtain rfl : frame' = frame := Except.ok.inj (hstore'.symm.trans hstore)
      refine ⟨k, rfl, hsound.reads_iff.mpr ?_, fun b l hne hreads => hsound.reads_iff.mpr ?_⟩
      · rw [hconstants, if_pos rfl]
      · rw [hconstants, if_neg (Fin.val_ne_of_ne hne), ← hs.frame.reads_iff]
        exact hreads
  refuses a v fault hstore := by
    refine ⟨?_, by simp only [act, hstore]⟩
    cases hv : s.outer.constant? v with
    | none => rfl
    | some k =>
      obtain ⟨frame, hstore', -⟩ := hs.frame.store_ok a.isLt hv
      rw [hstore'] at hstore
      cases hstore
  fresh a id outer hload := by
    obtain ⟨k, v, outer', -, hload', -, -, hid⟩ := hs.frame.load_ok a s.outer
    obtain ⟨rfl, -⟩ := Prod.mk.inj (Except.ok.inj (hload'.symm.trans hload))
    obtain rfl := hid id rfl
    refine ⟨by simp, ?_⟩
    cases hf : s.outer.find? s.outer.next with
    | none => rfl
    | some t => exact absurd (hs.outer.find_lt hf) (Nat.lt_irrefl _)
  kept a k later hreads hlater := by
    rw [(sound_after hs later).frame.reads_iff, kept_after hs later hlater, ← hs.frame.reads_iff]
    exact hreads

def new (owner : FrameOwner) (size : Nat) : Scene := { frame := .new owner size }

theorem sound_new (owner : FrameOwner) (size : Nat) : (new owner size).Sound size :=
  ⟨Frame.sound_new owner size, TextStore.wellFormed_empty⟩

theorem issued_log (owner : FrameOwner) (actions : List (Action size)) :
    issued (Trace.log act (new owner size) actions) =
      List.range (Trace.after act (new owner size) actions).outer.next := by
  refine (Trace.induct act (P := fun log (s : Scene) => s.Sound size ∧
    issued log = List.range s.outer.next) ⟨sound_new owner size, rfl⟩ ?_ actions).2
  rintro log s x ⟨hs, hissued⟩
  have hacts := acts_act hs x
  refine ⟨hacts.sound hs, ?_⟩
  rw [hacts.range hs, ← hissued]
  exact List.filterMap_append

end Scene

-- ---------------------------------------------------------------------------
-- The history of a new frame
-- ---------------------------------------------------------------------------

section
variable {size : Nat}

/-- What is done with a new frame and a new store outside it, and how it comes out. -/
abbrev history (owner : FrameOwner) (actions : List (Action size)) :
    List (Action size × Except Fault Outcome) :=
  Trace.log Scene.act (Scene.new owner size) actions

abbrev reached (owner : FrameOwner) (actions : List (Action size)) : Scene :=
  Trace.after Scene.act (Scene.new owner size) actions

/-- After anything that was done with a new frame and the store outside it: the texts in the
slots have ids of their own in the frame's store, and every slot can be loaded; a store that
succeeds makes the slot stand for what the value stood for and keeps all other slots, and one
that fails keeps everything; the id that a load gives was never given out by the store
outside; and nothing that is done later changes what a slot stands for, but a successful
store in it. -/
theorem slots_independent (owner : FrameOwner) (actions : List (Action size)) :
    (reached owner actions).Independent size (Scene.issued (history owner actions)) := by
  rw [Scene.issued_log]
  exact (Scene.sound_after (Scene.sound_new owner size) actions).independent

/-- A text goes to two slots. Then one takes an Integer, and the other is to take the text
again, after that was taken. -/
def alternating : List (Action 3) :=
  [.outer (.add "ola"), .store 1 (.text 0), .store 2 (.text 0), .store 1 (.int 7),
    .outer (.use 0 .take), .store 2 (.text 0)]

theorem slots_independent_alternating :
    (reached .plugin (alternating.take 3)).frame.Reads 2 (.text "ola") ∧
      Trace.log Scene.act (reached .plugin (alternating.take 3)) (alternating.drop 3) =
        [(.store 1 (.int 7), .ok .stored), (.outer (.use 0 .take), .ok (.replied (.text "ola"))),
          (.store 2 (.text 0), .error (.missingText 0))] ∧
      (Trace.after Scene.act (reached .plugin (alternating.take 3))
        (alternating.drop 3)).frame.Reads 2 (.text "ola") := by
  have hlog : Trace.log Scene.act (reached .plugin (alternating.take 3)) (alternating.drop 3) =
      [(.store 1 (.int 7), .ok .stored), (.outer (.use 0 .take), .ok (.replied (.text "ola"))),
        (.store 2 (.text 0), .error (.missingText 0))] := rfl
  obtain ⟨k, hk, hreads, -⟩ :=
    (slots_independent .plugin (alternating.take 2)).stores 2 (.text 0) _ rfl
  obtain rfl : .text "ola" = k := Option.some.inj hk
  refine ⟨hreads, hlog, (slots_independent .plugin (alternating.take 3)).kept 2 _ _ hreads ?_⟩
  intro v hstored
  rw [hlog] at hstored
  simp at hstored

end

end Birl.Frame
