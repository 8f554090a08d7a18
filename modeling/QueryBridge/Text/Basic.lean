/-!
Texts as lists of characters, and the searches that the rules on texts are built from. A search
looks at the suffixes of a text from left to right.
-/

namespace QueryBridge

abbrev Text := List Char

namespace Text

variable {α : Type}

/-- Membership in one of a list of closed ranges of code points, which ascend: the search ends at
the first range that begins behind the character. -/
def inRanges : List (Nat × Nat) → Char → Bool
  | [], _ => false
  | r :: ranges, c => r.1 ≤ c.toNat && (c.toNat ≤ r.2 || inRanges ranges c)

/-- The answer of `f` at the leftmost suffix where it has one. -/
def firstAnswer (f : Text → Option α) : Text → Option α
  | [] => f []
  | c :: s =>
    match f (c :: s) with
    | some a => some a
    | none => firstAnswer f s

def occurs (p : Text → Bool) : Text → Bool
  | [] => p []
  | c :: s => p (c :: s) || occurs p s

def within (t : Text) : Text → Bool :=
  occurs t.isPrefixOf

def after? : Text → Text → Option Text
  | [], s => some s
  | _ :: _, [] => none
  | l :: t, c :: s => if c = l then after? t s else none

def byteLength (s : Text) : Nat :=
  s.foldl (fun n c => n + c.utf8Size) 0

def joinLines (lines : List Text) : Text :=
  List.intercalate ['\n'] lines

theorem firstAnswer_eq_none {f : Text → Option α} {s : Text} :
    firstAnswer f s = none ↔ ∀ p t, p ++ t = s → f t = none := by
  induction s with
  | nil => simp [firstAnswer]
  | cons c s ih =>
    simp only [firstAnswer]
    constructor
    · intro h p t hp
      cases p with
      | nil => simp only [List.nil_append] at hp; subst hp; split at h <;> simp_all
      | cons d p =>
        simp only [List.cons_append, List.cons.injEq] at hp
        split at h
        · simp at h
        · exact ih.1 h p t hp.2
    · intro h
      have hc := h [] (c :: s) rfl
      simp only [hc]
      exact ih.2 fun p t hp => h (c :: p) t (by simp [hp])

theorem occurs_iff {p : Text → Bool} {s : Text} :
    occurs p s = true ↔ ∃ a t, a ++ t = s ∧ p t = true := by
  induction s with
  | nil => simp [occurs, and_assoc]
  | cons c s ih =>
    simp only [occurs, Bool.or_eq_true, ih]
    constructor
    · rintro (h | ⟨a, t, rfl, h⟩)
      · exact ⟨[], c :: s, rfl, h⟩
      · exact ⟨c :: a, t, rfl, h⟩
    · rintro ⟨a, t, ha, h⟩
      cases a with
      | nil => left; simpa [← ha] using h
      | cons d a =>
        simp only [List.cons_append, List.cons.injEq] at ha
        exact .inr ⟨a, t, ha.2, h⟩

theorem within_iff {t s : Text} : within t s = true ↔ ∃ a b, a ++ t ++ b = s := by
  simp only [within, occurs_iff, List.isPrefixOf_iff_prefix]
  constructor
  · rintro ⟨a, _, rfl, b, rfl⟩
    exact ⟨a, b, by simp⟩
  · rintro ⟨a, b, rfl⟩
    exact ⟨a, t ++ b, by simp, b, rfl⟩

theorem after?_eq_some_iff {t s rest : Text} : after? t s = some rest ↔ t ++ rest = s := by
  induction t generalizing s with
  | nil => simp [after?, eq_comm]
  | cons l t ih =>
    cases s with
    | nil => simp [after?]
    | cons c s =>
      by_cases h : c = l
      · simp [after?, h, ih]
      · simp [after?, h, Ne.symm h]

end Text

end QueryBridge
