import QueryBridge.Failure

/-!
Computations that may fail, one after the other. Where none of them looks at what was found before
it, the failure of all is that of the first which fails.
-/

namespace QueryBridge

variable {α β : Type}

theorem map_eq_error_iff {f : α → β} {x : Except Failure α} {e : Failure} :
    x.map f = .error e ↔ x = .error e := by
  cases x with
  | error e' => simp [Except.map]
  | ok a => simp [Except.map]

theorem map_eq_ok_iff {f : α → β} {x : Except Failure α} {b : β} :
    x.map f = .ok b ↔ ∃ a, x = .ok a ∧ f a = b := by
  cases x with
  | error e => simp [Except.map]
  | ok a => simp [Except.map]

theorem bind_eq_ok_iff {f : α → Except Failure β} {x : Except Failure α} {b : β} :
    x >>= f = .ok b ↔ ∃ a, x = .ok a ∧ f a = .ok b := by
  cases x with
  | error e => simp [bind, Except.bind]
  | ok a => simp [bind, Except.bind]

theorem bind_eq_error_iff {f : α → Except Failure β} {x : Except Failure α} {e : Failure} :
    x >>= f = .error e ↔ x = .error e ∨ ∃ a, x = .ok a ∧ f a = .error e := by
  cases x with
  | error e => simp [bind, Except.bind]
  | ok a => simp [bind, Except.bind]

namespace Failure

def of? : Except Failure α → Option Failure
  | .error e => some e
  | .ok _ => none

theorem of?_eq_some_iff {x : Except Failure α} {e : Failure} :
    of? x = some e ↔ x = .error e := by
  cases x with
  | error e' => simp [of?]
  | ok a => simp [of?]

theorem of?_bind {x : Except Failure α} {f : α → Except Failure β} {r : Option Failure}
    (h : ∀ a, of? (f a) = r) : of? (x >>= f) = (of? x).or r := by
  cases x with
  | error e => rfl
  | ok a => exact h a

theorem of?_bind_bind {γ : Type} {x : Except Failure α} {f : α → Except Failure β}
    {g : β → Except Failure γ} {r : Option Failure} (h : ∀ b, of? (g b) = r) :
    of? (x >>= fun a => f a >>= g) = (of? (x >>= f)).or r := by
  rw [← bind_assoc]
  exact of?_bind h

end Failure

end QueryBridge
