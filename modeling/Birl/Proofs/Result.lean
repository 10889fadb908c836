import Mathlib.Data.List.Forall2

/-!
# Results and lists

What a computation that succeeded did on its way, and facts about lists that belong to
no single part of the development.
-/

namespace Birl

-- ---------------------------------------------------------------------------
-- Results
-- ---------------------------------------------------------------------------

theorem bind_ok {ε α β : Type} {x : Except ε α} {f : α → Except ε β} {b : β} :
    x >>= f = .ok b ↔ ∃ a, x = .ok a ∧ f a = .ok b := by
  cases x with
  | error e => exact ⟨fun h => (nomatch h), fun ⟨_, h, _⟩ => (nomatch h)⟩
  | ok a => exact ⟨fun h => ⟨a, rfl, h⟩, fun ⟨_, ha, h⟩ => Except.ok.inj ha ▸ h⟩

theorem bind_error {ε α β : Type} {x : Except ε α} {f : α → Except ε β} {e : ε} :
    x >>= f = .error e ↔ x = .error e ∨ ∃ a, x = .ok a ∧ f a = .error e := by
  cases x <;> simp [bind, Except.bind]

theorem pure_ok {ε α : Type} {a b : α} : (pure a : Except ε α) = .ok b ↔ a = b :=
  ⟨Except.ok.inj, congrArg Except.ok⟩

theorem map_ok {ε α β : Type} {x : Except ε α} {f : α → β} {b : β} :
    x.map f = .ok b ↔ ∃ a, x = .ok a ∧ f a = b := by
  cases x <;> simp [Except.map]

theorem check_ok {ε α β : Type} {failing : Prop} [Decidable failing] {e : ε} {f : β → Except ε α}
    {x : Except ε α} {a : α} :
    (if failing then (throw e : Except ε β) >>= f else x) = .ok a ↔ ¬failing ∧ x = .ok a := by
  by_cases h : failing
  · exact ⟨fun hx => by simp [h, throw, throwThe, MonadExceptOf.throw, bind, Except.bind] at hx,
      fun hx => absurd h hx.1⟩
  · simp [h]

theorem eq_ok_getD {ε α : Type} {x : Except ε α} (h : x.toBool = true) (default : α) :
    x = .ok (x.toOption.getD default) := by
  cases x with
  | error e => cases h
  | ok a => rfl

theorem map_map {ε α β γ : Type} (x : Except ε α) (g : α → β) (h : β → γ) :
    (x.map g).map h = x.map (h ∘ g) := by
  cases x <;> rfl

theorem mapM_iff {ε α β : Type} {f : α → Except ε β} {xs : List α} {ys : List β} :
    xs.mapM f = .ok ys ↔ List.Forall₂ (fun x y => f x = .ok y) xs ys := by
  induction xs generalizing ys with
  | nil =>
    rw [List.mapM_nil, pure_ok, List.forall₂_nil_left_iff]
    exact eq_comm
  | cons x xs ih =>
    rw [List.mapM_cons, List.forall₂_cons_left_iff]
    simp only [bind_ok, pure_ok, ih]
    constructor
    · rintro ⟨y, hy, ys, hys, rfl⟩
      exact ⟨y, ys, hy, hys, rfl⟩
    · rintro ⟨y, ys, hy, hys, rfl⟩
      exact ⟨y, hy, ys, hys, rfl⟩

-- ---------------------------------------------------------------------------
-- Lists
-- ---------------------------------------------------------------------------

theorem dropWhile_of_prefix {α : Type} {p : α → Bool} {l kept : List α}
    (h : kept <+: l.dropWhile p) : kept.dropWhile p = kept := by
  cases kept with
  | nil => rfl
  | cons x kept =>
    obtain ⟨dropped, hdropped⟩ := h
    have hx := List.head?_dropWhile_not p l
    rw [← hdropped] at hx
    exact List.dropWhile_cons_of_neg (by simpa using hx)

section
variable {α β γ : Type} {R : α → β → Prop} {S : α → γ → Prop} {T : β → γ → Prop}
  {xs : List α} {ys : List β} {zs : List γ}

theorem forall₂_choose (hRS : ∀ x y, R x y → ∃ z, S x z) (h : List.Forall₂ R xs ys) :
    ∃ zs, List.Forall₂ S xs zs := by
  induction h with
  | nil => exact ⟨[], .nil⟩
  | cons hxy _ ih =>
    obtain ⟨z, hz⟩ := hRS _ _ hxy
    obtain ⟨zs, hzs⟩ := ih
    exact ⟨z :: zs, .cons hz hzs⟩

theorem forall₂_meet (hT : ∀ x y z, R x y → S x z → T y z) (h : List.Forall₂ R xs ys)
    (h' : List.Forall₂ S xs zs) : List.Forall₂ T ys zs := by
  induction h generalizing zs with
  | nil =>
    cases h'
    exact .nil
  | cons hxy _ ih =>
    cases h' with
    | cons hxz h' => exact .cons (hT _ _ _ hxy hxz) (ih h')

theorem mem_of_forall₂ (h : List.Forall₂ R xs ys) : ∀ y ∈ ys, ∃ x ∈ xs, R x y := by
  induction h with
  | nil => exact List.forall_mem_nil _
  | cons hxy _ ih =>
    refine List.forall_mem_cons.mpr ⟨⟨_, List.mem_cons_self, hxy⟩, fun y hy => ?_⟩
    obtain ⟨x, hx, hxy⟩ := ih y hy
    exact ⟨x, List.mem_cons_of_mem _ hx, hxy⟩

end
end Birl
