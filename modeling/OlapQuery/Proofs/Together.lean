import Mathlib.Data.List.Forall2

-- Two computations that fail together, or succeed together with related results.

namespace OlapQuery

-- Both fail, or both succeed with related results.
inductive Together {ε α β : Type} (related : α → β → Prop) : Except ε α → Except ε β → Prop where
  | ok (results : related a b) : Together related (.ok a) (.ok b)
  | error : Together related (.error x) (.error y)

namespace Together

variable {ε α β γ δ : Type} {related : α → β → Prop} {after : γ → δ → Prop}

theorem refl {same : α → α → Prop} (self : ∀ a, same a a) (x : Except ε α) : Together same x x := by
  cases x with
  | ok a => exact .ok (self a)
  | error => exact .error

theorem bind {x : Except ε α} {y : Except ε β} {f : α → Except ε γ} {g : β → Except ε δ}
    (first : Together related x y) (next : ∀ a b, related a b → Together after (f a) (g b)) :
    Together after (x >>= f) (y >>= g) := by
  cases first with
  | ok results => exact next _ _ results
  | error => exact .error

theorem map {x : Except ε α} {y : Except ε β} {f : α → γ} {g : β → δ}
    (first : Together related x y) (next : ∀ a b, related a b → after (f a) (g b)) :
    Together after (x.map f) (y.map g) := by
  cases first with
  | ok results => exact .ok (next _ _ results)
  | error => exact .error

theorem mapError {ε' : Type} {x : Except ε α} {y : Except ε β} (first : Together related x y)
    (f : ε → ε') : Together related (x.mapError f) (y.mapError f) := by
  cases first with
  | ok results => exact .ok results
  | error => exact .error

theorem mapM {before : α → β → Prop} {f : α → Except ε γ} {g : β → Except ε δ} {xs : List α}
    {ys : List β} (each : List.Forall₂ before xs ys)
    (next : ∀ a b, before a b → Together after (f a) (g b)) :
    Together (List.Forall₂ after) (xs.mapM f) (ys.mapM g) := by
  induction each with
  | nil => exact .ok .nil
  | cons head tail ih =>
      rw [List.mapM_cons,List.mapM_cons]
      exact (next _ _ head).bind fun c d related => ih.bind fun cs ds rest => .ok (.cons related rest)

theorem reached {x : Except ε α} {y : Except ε β} (both : Together related x y) :
    Together (fun a b => related a b ∧ x = .ok a ∧ y = .ok b) x y := by
  cases both with
  | ok results => exact .ok ⟨results,rfl,rfl⟩
  | error => exact .error

theorem of_results {x : Except ε α} {y : Except ε β} (succeeds : (∃ a, x = .ok a) ↔ ∃ b, y = .ok b)
    (results : ∀ a b, x = .ok a → y = .ok b → related a b) : Together related x y := by
  cases x with
  | ok a =>
      obtain ⟨b,same⟩ := succeeds.mp ⟨a,rfl⟩
      rw [same]
      exact .ok (results a b rfl same)
  | error =>
      cases y with
      | ok b => exact nomatch succeeds.mpr ⟨b,rfl⟩
      | error => exact .error

theorem succeeds {x : Except ε α} {y : Except ε β} (both : Together related x y) :
    (∃ a, x = .ok a) ↔ ∃ b, y = .ok b := by
  cases both with
  | ok results => exact ⟨fun _ => ⟨_,rfl⟩,fun _ => ⟨_,rfl⟩⟩
  | error => exact ⟨nofun,nofun⟩

theorem results {x : Except ε α} {y : Except ε β} (both : Together related x y) {a : α} {b : β}
    (first : x = .ok a) (second : y = .ok b) : related a b := by
  cases both with
  | ok results => cases first; cases second; exact results
  | error => cases first

end Together

end OlapQuery
