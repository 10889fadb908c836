import Birl.Machine
import Birl.Proofs.TextStore

/-!
# Laws of frames

In a sound frame every slot stands for a plain value and no two slots share a
text. Writing a slot with a value that stands for something makes the slot stand
for the same and keeps every other slot (`Sound.store_ok`); reading a slot always
succeeds and gives a new value with the meaning of the slot (`Sound.load_ok`).
-/

namespace Birl

theorem two_le_frameSizeFor (requested : Int) : 2 ≤ frameSizeFor requested := by
  unfold frameSizeFor
  split
  · decide
  · omega

namespace Frame

open TextStore (Live Apart Extends)

theorem slot_setSlot (f : Frame) {a : Nat} (ha : a < f.slots.size) (v : Value) (b : Nat) :
    (f.setSlot a v).slot b = if b = a then v else f.slot b := by
  simp only [slot, setSlot, Array.getElem?_setIfInBounds]
  by_cases h : a = b
  · subst h
    simp [ha]
  · simp [h, Ne.symm h]

def constant? (f : Frame) (address : Nat) : Option Constant := f.texts.constant? (f.slot address)

/-- A frame of `size` slots, each of which stands for something and owns its text. -/
structure Sound (size : Nat) (f : Frame) : Prop where
  size : f.slots.size = size
  texts : f.texts.WellFormed
  live : ∀ a, f.texts.Live (f.slot a)
  apart : ∀ a b, a ≠ b → Apart (f.slot a) (f.slot b)

theorem slot_new (owner : FrameOwner) (size a : Nat) : (new owner size).slot a = .null := by
  simp only [slot, new, Array.getElem?_replicate]
  split <;> rfl

theorem sound_new (owner : FrameOwner) (size : Nat) : (new owner size).Sound size := by
  refine ⟨by simp [new], TextStore.wellFormed_empty, fun a => ?_, fun a b _ id h => ?_⟩
  · rw [slot_new]
    exact ⟨_, rfl⟩
  · simp [slot_new] at h

section
variable {f : Frame} {size : Nat}

theorem Sound.congr {f' : Frame} (h : f.Sound size) (hs : f'.slots = f.slots)
    (ht : f'.texts = f.texts) : f'.Sound size := by
  have hslot (a : Nat) : f'.slot a = f.slot a := by simp [slot, hs]
  refine ⟨by rw [hs, h.size], by rw [ht]; exact h.texts, fun a => ?_, fun a b hab => ?_⟩
  · rw [hslot, ht]
    exact h.live a
  · rw [hslot, hslot]
    exact h.apart a b hab

theorem Sound.constant (h : f.Sound size) (a : Nat) : ∃ k, f.constant? a = some k := h.live a

theorem Sound.text_lt (h : f.Sound size) {a id : Nat} (ha : f.slot a = .text id) :
    id < f.texts.next := by
  obtain ⟨k, hk⟩ := h.live a
  rw [ha] at hk
  obtain ⟨t, ht, -⟩ := TextStore.constant?_text.mp hk
  exact h.texts.find_lt ht

theorem Sound.address (h : f.Sound size) {a : Nat} (ha : a < size) : f.address a = .ok a := by
  have : ((a : Int) < f.slots.size) := by rw [h.size]; omega
  simp [Frame.address, this]

-- ---------------------------------------------------------------------------
-- Writing
-- ---------------------------------------------------------------------------

theorem Sound.setSlot (h : f.Sound size) {a : Nat} (ha : a < size) {v : Value} {k : Constant}
    (hv : f.texts.constant? v = some k) (hapart : ∀ b, b ≠ a → Apart (f.slot b) v) :
    (f.setSlot a v).Sound size ∧
      ∀ b, (f.setSlot a v).constant? b = if b = a then some k else f.constant? b := by
  have hslot := slot_setSlot f (h.size ▸ ha) v
  refine ⟨⟨?_, h.texts, fun b => ?_, fun b c hbc => ?_⟩, fun b => ?_⟩
  · simpa [Frame.setSlot] using h.size
  · rw [hslot]
    split
    · exact ⟨k, hv⟩
    · exact h.live b
  · rw [hslot, hslot]
    split
    · rename_i hb
      rw [if_neg (by omega)]
      exact (hapart c (by omega)).symm
    · split
      · exact hapart b ‹_›
      · exact h.apart b c hbc
  · show f.texts.constant? _ = _
    rw [hslot]
    split
    · exact hv
    · rfl

theorem Sound.storeFresh (h : f.Sound size) {a : Nat} (ha : a < size) (t : Text) :
    (({ f with texts := (f.texts.add t).2 } : Frame).setSlot a (.text (f.texts.add t).1)).Sound size ∧
      ∀ b, (({ f with texts := (f.texts.add t).2 } : Frame).setSlot a
          (.text (f.texts.add t).1)).constant? b =
        if b = a then some (.text t) else f.constant? b := by
  have hext : f.texts.Extends (f.texts.add t).2 := Extends.refl.add t
  have hgrown : ({ f with texts := (f.texts.add t).2 } : Frame).Sound size :=
    ⟨h.size, h.texts.add t, fun b => hext.live h.texts (h.live b), h.apart⟩
  obtain ⟨hs, hc⟩ := hgrown.setSlot ha (v := .text f.texts.next) (k := .text t)
    (by simp [TextStore.constant?, TextStore.find?_add])
    (fun b _ id hb hv => by
      have := h.text_lt (a := b) hb
      have := Value.text.inj hv
      omega)
  refine ⟨hs, fun b => ?_⟩
  obtain ⟨k, hk⟩ := h.constant b
  have hkeep : (f.texts.add t).2.constant? (f.slot b) = some k := hext.constant? h.texts hk
  rw [show f.constant? b = some k from hk, ← hkeep]
  exact hc b

theorem Sound.storeInPlace (h : f.Sound size) {a id : Nat} (hslot : f.slot a = .text id)
    (t : Text) : ∃ texts, f.texts.set id t = .ok texts ∧
      ({ f with texts } : Frame).Sound size ∧
      ∀ b, ({ f with texts } : Frame).constant? b = if b = a then some (.text t) else f.constant? b := by
  obtain ⟨k, hk⟩ := h.live a
  rw [hslot] at hk
  obtain ⟨old, hold, -⟩ := TextStore.constant?_text.mp hk
  obtain ⟨texts, hset, hwf, -, hfind⟩ := TextStore.modify_ok h.texts (fun _ => t) hold
  have hc (b : Nat) : texts.constant? (f.slot b) = if b = a then some (.text t) else f.constant? b := by
    split
    · rename_i hb
      subst hb
      rw [hslot]
      simp [TextStore.constant?, hfind]
    · rename_i hb
      refine TextStore.constant?_congr fun i hi => ?_
      have hne : i ≠ id := fun e => h.apart b a hb i hi (e ▸ hslot)
      rw [hfind, if_neg hne]
  refine ⟨texts, hset, ⟨h.size, hwf, fun b => ?_, h.apart⟩, hc⟩
  show texts.Live (f.slot b)
  obtain ⟨k, hk⟩ := h.constant b
  by_cases hb : b = a
  · exact ⟨.text t, by rw [hc, if_pos hb]⟩
  · exact ⟨k, by rw [hc, if_neg hb, hk]⟩

theorem store_dead {a : Nat} {v : Value} {outer : TextStore} (h : outer.constant? v = none) :
    ∃ fault, f.store a v outer = .error fault := by
  cases v with
  | text id =>
    have hnone : outer.find? id = none := by simpa [TextStore.constant?] using h
    exact ⟨_, by simp [Frame.store, TextStore.get, hnone]; rfl⟩
  | _ => cases h

theorem Sound.store_ok (h : f.Sound size) {a : Nat} (ha : a < size) {outer : TextStore} {v : Value}
    {k : Constant} (hv : outer.constant? v = some k) :
    ∃ f', f.store a v outer = .ok f' ∧ f'.Sound size ∧
      (∀ b, f'.constant? b = if b = a then some k else f.constant? b) ∧
      f' = { f with slots := f'.slots, texts := f'.texts } := by
  by_cases htext : ∃ id, v = .text id
  · obtain ⟨id, rfl⟩ := htext
    obtain ⟨t, ht, rfl⟩ := TextStore.constant?_text.mp hv
    have hget : outer.get id = .ok t := by simp [TextStore.get, ht]
    refine ⟨f.storeText a t, by simp [Frame.store, hget], ?_⟩
    cases hslot : f.slot a with
    | text i =>
      obtain ⟨texts, hset, hs, hc⟩ := h.storeInPlace hslot t
      have hstore : f.storeText a t = { f with texts } := by simp [storeText, hslot, hset]
      rw [hstore]
      exact ⟨hs, hc, rfl⟩
    | _ =>
      obtain ⟨hs, hc⟩ := h.storeFresh ha t
      simp only [storeText, hslot]
      exact ⟨hs, hc, rfl⟩
  · have hplain : ∀ id, v ≠ .text id := fun id e => htext ⟨id, e⟩
    have hstore : f.store a v outer = .ok (f.setSlot a v) := by
      cases v with
      | text id => exact absurd rfl (hplain id)
      | _ => rfl
    have hself : f.texts.constant? v = some k :=
      (TextStore.constant?_congr fun id e => absurd e (hplain id)).trans hv
    obtain ⟨hs, hc⟩ := h.setSlot ha hself fun _ _ id _ => hplain id
    exact ⟨_, hstore, hs, hc, rfl⟩

-- ---------------------------------------------------------------------------
-- Reading
-- ---------------------------------------------------------------------------

/-- A load puts what the slot stands for into the outer store. -/
theorem load_of_constant {a : Nat} {k : Constant} (h : f.constant? a = some k) (outer : TextStore) :
    f.load a outer = .ok (outer.intern k) := by
  unfold constant? at h
  unfold load
  split
  · rename_i id hslot
    rw [hslot] at h
    obtain ⟨t, ht, rfl⟩ := TextStore.constant?_text.mp h
    simp only [TextStore.get, ht]
  · rename_i hslot
    cases hv : f.slot a with
    | text id => exact absurd hv (hslot id)
    | _ =>
      rw [hv] at h
      cases h
      rfl

theorem Sound.load_ok (h : f.Sound size) (a : Nat) (outer : TextStore) :
    ∃ k v outer', f.constant? a = some k ∧ f.load a outer = .ok (v, outer') ∧
      outer.Extends outer' ∧ outer'.constant? v = some k ∧ ∀ id, v = .text id → id = outer.next := by
  obtain ⟨k, hk⟩ := h.constant a
  obtain ⟨hext, hc, hid⟩ := TextStore.intern_ok outer k
  exact ⟨k, _, _, hk, load_of_constant hk outer, hext, hc, hid⟩

end

end Frame
end Birl
