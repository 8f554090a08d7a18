import QueryBridge.Text.Basic

/-!
Cutting a text at the first place where something can be read. Main statement: a cut takes the
shortest beginning that can be taken, and there is none only where no beginning can.
-/

namespace QueryBridge.Text

variable {γ : Type}

/-- Walks on from `s`, with the characters already passed in reverse, to the first place where
`closer` succeeds; only characters that `plain` admits are passed. -/
@[specialize]
def cutFrom (plain : Char → Bool) (closer : Text → Option (γ × Text)) (passed : Text) :
    Text → Option (Text × γ × Text)
  | [] => (closer []).map fun r => (passed.reverse, r)
  | c :: s =>
    match closer (c :: s) with
    | some r => some (passed.reverse, r)
    | none => if plain c then cutFrom plain closer (c :: passed) s else none

/-- The shortest beginning of plain characters after which `closer` succeeds, with what `closer`
read and the text that it left. -/
@[specialize]
def cut (plain : Char → Bool) (closer : Text → Option (γ × Text)) :
    Text → Option (Text × γ × Text) :=
  cutFrom plain closer []

theorem cutFrom_eq (plain : Char → Bool) (closer : Text → Option (γ × Text)) (passed s : Text) :
    cutFrom plain closer passed s =
      (cut plain closer s).map fun r => (passed.reverse ++ r.1, r.2) := by
  suffices h : ∀ p q, cutFrom plain closer (q ++ p) s =
      (cutFrom plain closer q s).map fun r => (p.reverse ++ r.1, r.2) from h passed []
  intro p q
  induction s generalizing q with
  | nil => cases h : closer [] <;> simp [cutFrom, h]
  | cons c s ih =>
    cases h : closer (c :: s) with
    | some r => simp [cutFrom, h]
    | none =>
      by_cases hc : plain c
      · simpa [cutFrom, h, hc] using ih (c :: q)
      · simp [cutFrom, h, hc]

theorem cut_cons (plain : Char → Bool) (closer : Text → Option (γ × Text)) (c : Char) (s : Text) :
    cut plain closer (c :: s) =
      match closer (c :: s) with
      | some r => some ([], r)
      | none =>
        if plain c then (cut plain closer s).map fun r => (c :: r.1, r.2) else none := by
  cases h : closer (c :: s) with
  | some r => simp [cut, cutFrom, h]
  | none =>
    simp only [cut, cutFrom, h, cutFrom_eq plain closer [c] s]
    rfl

theorem cut_eq_some_iff {plain : Char → Bool} {closer : Text → Option (γ × Text)}
    {s body rest : Text} {g : γ} :
    cut plain closer s = some (body, g, rest) ↔
      ∃ t, body ++ t = s ∧ closer t = some (g, rest) ∧ (∀ c ∈ body, plain c = true) ∧
        ∀ p q, p ++ q = body → q ≠ [] → closer (q ++ t) = none := by
  induction s generalizing body with
  | nil =>
    constructor
    · intro h
      obtain ⟨r, hr, he⟩ := Option.map_eq_some_iff.1 (show (closer []).map _ = some _ from h)
      simp only [List.reverse_nil, Prod.mk.injEq] at he
      obtain ⟨rfl, rfl⟩ := he
      exact ⟨[], rfl, hr, by simp, by simp⟩
    · rintro ⟨t, ht, hr, -, -⟩
      obtain ⟨rfl, rfl⟩ := List.append_eq_nil_iff.1 ht
      exact Option.map_eq_some_iff.2 ⟨_, hr, rfl⟩
  | cons c s ih =>
    rw [cut_cons]
    cases hc : closer (c :: s) with
    | some r =>
      constructor
      · intro h
        simp only [Option.some.injEq, Prod.mk.injEq] at h
        obtain ⟨rfl, rfl⟩ := h
        exact ⟨c :: s, rfl, hc, by simp, by simp⟩
      · rintro ⟨t, ht, hr, -, hmin⟩
        cases body with
        | nil =>
          obtain rfl : t = c :: s := ht
          simpa [hc] using hr
        | cons d body =>
          have := hmin [] (d :: body) rfl (by simp)
          simp_all
    | none =>
      constructor
      · intro h
        simp only at h
        split at h
        · next hp =>
          obtain ⟨⟨b, r⟩, hb, he⟩ := Option.map_eq_some_iff.1 h
          simp only [Prod.mk.injEq] at he
          obtain ⟨rfl, rfl⟩ := he
          obtain ⟨t, rfl, hr, hall, hmin⟩ := ih.1 hb
          refine ⟨t, rfl, hr, by simpa [hp] using hall, fun p q hpq hq => ?_⟩
          cases p with
          | nil =>
            obtain rfl : q = c :: b := hpq
            exact hc
          | cons d p =>
            simp only [List.cons_append, List.cons.injEq] at hpq
            exact hmin p q hpq.2 hq
        · simp at h
      · rintro ⟨t, ht, hr, hall, hmin⟩
        cases body with
        | nil =>
          obtain rfl : t = c :: s := ht
          simp [hc] at hr
        | cons d body =>
          simp only [List.cons_append, List.cons.injEq] at ht
          obtain ⟨rfl, rfl⟩ := ht
          have hp := hall d (by simp)
          have := ih.2 ⟨t, rfl, hr, fun c hc => hall c (by simp [hc]),
            fun p q hpq hq => hmin (d :: p) q (by simp [hpq]) hq⟩
          simp [hp, this]

theorem cut_eq_none_iff {plain : Char → Bool} {closer : Text → Option (γ × Text)} {s : Text} :
    cut plain closer s = none ↔
      ∀ p t, p ++ t = s → (∀ c ∈ p, plain c = true) → closer t = none := by
  induction s with
  | nil => simp [cut, cutFrom]
  | cons c s ih =>
    rw [cut_cons]
    cases hc : closer (c :: s) with
    | some r =>
      simp only [reduceCtorEq, false_iff]
      exact fun h => by simpa [hc] using h [] (c :: s) rfl
    | none =>
      by_cases hp : plain c
      · simp only [hp, if_true, Option.map_eq_none_iff, ih]
        constructor
        · intro h p t hpt hall
          cases p with
          | nil =>
            obtain rfl : t = c :: s := hpt
            exact hc
          | cons d p =>
            simp only [List.cons_append, List.cons.injEq] at hpt
            exact h p t hpt.2 fun c hc => hall c (by simp [hc])
        · intro h p t hpt hall
          exact h (c :: p) t (by simp [hpt]) (by simpa [hp] using hall)
      · simp only [hp, Bool.false_eq_true, if_false, true_iff]
        intro p t hpt hall
        cases p with
        | nil =>
          obtain rfl : t = c :: s := hpt
          exact hc
        | cons d p =>
          simp only [List.cons_append, List.cons.injEq] at hpt
          exact absurd (hpt.1 ▸ hall d (by simp)) hp

end QueryBridge.Text
