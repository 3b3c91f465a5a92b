import Mathlib.Tactic.Lemma

/-!
# Outcomes

Computations that end in a value or in an error: what is known of their parts when they end in a
value.
-/

namespace Outline

variable {ε ε' α β : Type}

@[simp] lemma ok_bind (a : α) (f : α → Except ε β) : (.ok a >>= f) = f a := rfl

@[simp] lemma error_bind (error : ε) (f : α → Except ε β) :
    (.error error >>= f) = .error error := rfl

@[simp] lemma mapError_ok (a : α) (f : ε → ε') : (Except.ok a).mapError f = .ok a := rfl

@[simp] lemma mapError_error (error : ε) (f : ε → ε') :
    (Except.error error : Except ε α).mapError f = .error (f error) := rfl

lemma bind_eq_ok {x : Except ε α} {f : α → Except ε β} {b : β} (h : (x >>= f) = .ok b) :
    ∃ a, x = .ok a ∧ f a = .ok b := by
  cases x with
  | ok a => exact ⟨a, rfl, h⟩
  | error => cases h

lemma mapError_eq_ok {x : Except ε α} {f : ε → ε'} {a : α} (h : x.mapError f = .ok a) :
    x = .ok a := by
  cases x with
  | ok => cases h; rfl
  | error => cases h

lemma map_eq_ok {x : Except ε α} {f : α → β} {b : β} (h : x.map f = .ok b) :
    ∃ a, x = .ok a ∧ f a = b := by
  cases x with
  | ok a => exact ⟨a, rfl, Except.ok.inj h⟩
  | error => cases h

end Outline
