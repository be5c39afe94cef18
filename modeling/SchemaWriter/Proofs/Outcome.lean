import Mathlib.Data.List.Forall2

namespace SchemaWriter.Outcome

variable {ε ε' α β : Type}

theorem bind_eq_ok {x : Except ε α} {f : α → Except ε β} {b : β} :
    x >>= f = .ok b ↔ ∃ a, x = .ok a ∧ f a = .ok b := by
  cases x with
  | error e => simp [bind, Except.bind]
  | ok a => simp [bind, Except.bind]

theorem pure_eq_ok {a b : α} : (pure a : Except ε α) = .ok b ↔ a = b := by
  simp [pure, Except.pure]

theorem map_eq_ok {x : Except ε α} {f : α → β} {b : β} :
    x.map f = .ok b ↔ ∃ a, x = .ok a ∧ f a = b := by
  cases x with
  | error e => simp [Except.map]
  | ok a => simp [Except.map]

theorem mapError_eq_ok {x : Except ε α} {f : ε → ε'} {a : α} :
    x.mapError f = .ok a ↔ x = .ok a := by
  cases x with
  | error e => simp [Except.mapError]
  | ok a => simp [Except.mapError]

theorem toOption_eq_some {x : Except ε α} {a : α} : x.toOption = some a ↔ x = .ok a := by
  cases x with
  | error e => simp [Except.toOption]
  | ok a => simp [Except.toOption]

theorem exists_of_isOk {x : Except ε α} (h : x.isOk = true) : ∃ a, x = .ok a := by
  cases x with
  | error e => cases h
  | ok a => exact ⟨a, rfl⟩

theorem exists_of_any {x : Except ε α} {p : α → Bool} (h : x.toOption.any p = true) :
    ∃ a, x = .ok a ∧ p a = true := by
  cases x with
  | error e => cases h
  | ok a => exact ⟨a, rfl, h⟩

theorem traversal_eq_ok {f : α → Except ε β} {g : List α → Except ε (List β)}
    (hnil : g [] = .ok []) (hcons : ∀ x xs, g (x :: xs) = do return (← f x) :: (← g xs))
    {xs : List α} {ys : List β} :
    g xs = .ok ys ↔ List.Forall₂ (fun x y => f x = .ok y) xs ys := by
  induction xs generalizing ys with
  | nil => cases ys <;> simp [hnil]
  | cons x xs ih =>
    rw [hcons, bind_eq_ok]
    constructor
    · rintro ⟨y, hy, h⟩
      obtain ⟨zs, hzs, hpure⟩ := bind_eq_ok.mp h
      obtain rfl := pure_eq_ok.mp hpure
      exact .cons hy (ih.mp hzs)
    · intro h
      cases h with
      | cons hy hys => exact ⟨_, hy, bind_eq_ok.mpr ⟨_, ih.mpr hys, rfl⟩⟩

def FailsOnly (P : ε → Prop) (x : Except ε α) : Prop :=
  ∀ e, x = .error e → P e

namespace FailsOnly

variable {P Q : ε → Prop}

theorem ok (a : α) : FailsOnly P (.ok a : Except ε α) := by
  rintro _ ⟨⟩

theorem error {e : ε} (h : P e) : FailsOnly P (.error e : Except ε α) := by
  rintro _ ⟨⟩
  exact h

theorem of_exists {x : Except ε α} (h : ∃ a, x = .ok a) : FailsOnly P x := by
  obtain ⟨a, rfl⟩ := h
  exact ok a

theorem mono {x : Except ε α} (h : FailsOnly P x) (hPQ : ∀ e, P e → Q e) : FailsOnly Q x :=
  fun e he => hPQ e (h e he)

theorem bind {x : Except ε α} {f : α → Except ε β} (hx : FailsOnly P x)
    (hf : ∀ a, x = .ok a → FailsOnly P (f a)) : FailsOnly P (x >>= f) := by
  cases x with
  | error e => exact error (hx e rfl)
  | ok a => exact hf a rfl

theorem map {x : Except ε α} {f : α → β} (h : FailsOnly P x) : FailsOnly P (x.map f) := by
  cases x with
  | error e => exact error (h e rfl)
  | ok a => exact ok (f a)

theorem mapError {x : Except ε' α} {f : ε' → ε} (h : ∀ e, P (f e)) :
    FailsOnly P (x.mapError f) := by
  cases x with
  | error e => exact error (h e)
  | ok a => exact ok a

end FailsOnly

inductive Alike : Except ε α → Except ε β → Prop where
  | ok (a : α) (b : β) : Alike (.ok a) (.ok b)
  | error (e : ε) : Alike (.error e) (.error e)

namespace Alike

theorem refl (x : Except ε α) : Alike x x := by
  cases x with
  | error e => exact .error e
  | ok a => exact .ok a a

theorem symm {x : Except ε α} {y : Except ε β} (h : Alike x y) : Alike y x := by
  cases h with
  | ok a b => exact .ok b a
  | error e => exact .error e

theorem of_exists {x : Except ε α} {y : Except ε β} (hx : ∃ a, x = .ok a) (hy : ∃ b, y = .ok b) :
    Alike x y := by
  obtain ⟨a, rfl⟩ := hx
  obtain ⟨b, rfl⟩ := hy
  exact .ok a b

theorem error_iff {x : Except ε α} {y : Except ε β} (h : Alike x y) {e : ε} :
    x = .error e ↔ y = .error e := by
  cases h with
  | ok a b => simp
  | error e' => simp

theorem exists_ok {x : Except ε α} {y : Except ε β} (h : Alike x y) (hx : ∃ a, x = .ok a) :
    ∃ b, y = .ok b := by
  cases h with
  | ok a b => exact ⟨b, rfl⟩
  | error e =>
    obtain ⟨a, ha⟩ := hx
    cases ha

theorem bind {γ δ : Type} {x : Except ε α} {y : Except ε β} {f : α → Except ε γ}
    {g : β → Except ε δ} (h : Alike x y)
    (hfg : ∀ a b, x = .ok a → y = .ok b → Alike (f a) (g b)) : Alike (x >>= f) (y >>= g) := by
  cases h with
  | ok a b => exact hfg a b rfl rfl
  | error e => exact .error e

theorem bind_same {γ δ : Type} {x : Except ε α} {f : α → Except ε γ} {g : α → Except ε δ}
    (hfg : ∀ a, x = .ok a → Alike (f a) (g a)) : Alike (x >>= f) (x >>= g) := by
  refine (refl x).bind fun a b ha hb => ?_
  obtain rfl := Except.ok.inj (ha.symm.trans hb)
  exact hfg a ha

theorem map {γ δ : Type} {x : Except ε α} {y : Except ε β} (f : α → γ) (g : β → δ)
    (h : Alike x y) : Alike (x.map f) (y.map g) := by
  cases h with
  | ok a b => exact .ok (f a) (g b)
  | error e => exact .error e

end Alike

end SchemaWriter.Outcome
