import QueryBridge.Proofs.Text.Character

/-!
Where a text stands in another one. Searching behind a run that has no answer, lines of a text, and
occurrences on the two sides of a character that the sought text does not have.
-/

namespace QueryBridge.Text

variable {α : Type}

theorem firstAnswer_append {f : Text → Option α} {a t : Text}
    (h : ∀ p q, p ++ q = a → q ≠ [] → f (q ++ t) = none) :
    firstAnswer f (a ++ t) = firstAnswer f t := by
  induction a with
  | nil => rfl
  | cons c a ih =>
    have hc : f (c :: a ++ t) = none := h [] (c :: a) rfl (by simp)
    have ha := ih fun p q hpq hq => h (c :: p) q (by simp [hpq]) hq
    rw [List.cons_append, firstAnswer, ← List.cons_append, hc]
    exact ha

theorem firstAnswer_of_eq_some {f : Text → Option α} {s : Text} {a : α} (h : f s = some a) :
    firstAnswer f s = some a := by
  cases s with
  | nil => exact h
  | cons c s => rw [firstAnswer, h]

/-- The answer is that of the leftmost suffix which has one. -/
theorem firstAnswer_eq_some_iff {f : Text → Option α} {s : Text} {a : α} :
    firstAnswer f s = some a ↔ ∃ p t, p ++ t = s ∧ f t = some a ∧
      ∀ p' t', p' ++ t' = s → p'.length < p.length → f t' = none := by
  constructor
  · intro h
    induction s with
    | nil => exact ⟨[], [], rfl, h, by simp⟩
    | cons c s ih =>
      cases hc : f (c :: s) with
      | some b =>
        rw [firstAnswer_of_eq_some hc] at h
        exact ⟨[], c :: s, rfl, hc.trans h, by simp⟩
      | none =>
        rw [firstAnswer, hc] at h
        obtain ⟨p, t, rfl, ht, hfirst⟩ := ih h
        refine ⟨c :: p, t, rfl, ht, fun p' t' hs hlen => ?_⟩
        cases p' with
        | nil =>
          obtain rfl : t' = c :: (p ++ t) := hs
          exact hc
        | cons d p' =>
          simp only [List.cons_append, List.cons.injEq] at hs
          exact hfirst p' t' hs.2 (by simpa using hlen)
  · rintro ⟨p, t, rfl, ht, hfirst⟩
    have hpass : firstAnswer f (p ++ t) = firstAnswer f t := by
      refine firstAnswer_append fun p' q hpq hq => hfirst p' (q ++ t) ?_ ?_
      · rw [← List.append_assoc, hpq]
      · have := List.length_pos_iff.2 hq
        simp only [← hpq, List.length_append]
        omega
    rw [hpass, firstAnswer_of_eq_some ht]

@[simp] theorem joinLines_nil : joinLines [] = [] :=
  rfl

@[simp] theorem joinLines_singleton (l : Text) : joinLines [l] = l := by
  simp [joinLines]

@[simp] theorem joinLines_cons_cons (l m : Text) (ls : List Text) :
    joinLines (l :: m :: ls) = l ++ '\n' :: joinLines (m :: ls) := by
  simp [joinLines]

theorem joinLines_append {ls ms : List Text} (hl : ls ≠ []) (hm : ms ≠ []) :
    joinLines (ls ++ ms) = joinLines ls ++ '\n' :: joinLines ms := by
  induction ls with
  | nil => exact absurd rfl hl
  | cons l ls ih =>
    cases ls with
    | nil =>
      obtain ⟨m, ms, rfl⟩ := List.exists_cons_of_ne_nil hm
      simp
    | cons l' ls =>
      have h := ih (by simp)
      simp only [List.cons_append] at h
      simp [h]

theorem mem_joinLines {c : Char} {ls : List Text} (h : c ∈ joinLines ls) :
    c = '\n' ∨ ∃ l ∈ ls, c ∈ l := by
  induction ls with
  | nil => simp at h
  | cons l ls ih =>
    cases ls with
    | nil => exact .inr ⟨l, by simp, by simpa using h⟩
    | cons m ls =>
      simp only [joinLines_cons_cons, List.mem_append, List.mem_cons] at h
      obtain h | h | h := h
      · exact .inr ⟨l, by simp, h⟩
      · exact .inl h
      · obtain h | ⟨k, hk, hc⟩ := ih h
        · exact .inl h
        · exact .inr ⟨k, List.mem_cons_of_mem l hk, hc⟩

theorem within_iff_isInfix {t s : Text} : within t s = true ↔ t <:+: s :=
  within_iff

theorem withinCaseless_iff {w s : Text} :
    withinCaseless w s = true ↔ ∃ v, v.map fold = w.map fold ∧ v <:+: s := by
  simp only [withinCaseless, occurs_iff, Option.isSome_iff_exists]
  constructor
  · rintro ⟨a, t, rfl, ⟨v, rest⟩, h⟩
    obtain ⟨rfl, hv⟩ := spelling?_eq_some h
    exact ⟨v, hv, a, rest, by simp⟩
  · rintro ⟨v, hv, a, b, rfl⟩
    exact ⟨a, v ++ b, by simp, (v, b), spelling?_append hv b⟩

theorem withinCaseless_mono {w s t : Text} (h : s <:+: t) (hw : withinCaseless w s = true) :
    withinCaseless w t = true := by
  obtain ⟨v, hv, hvs⟩ := withinCaseless_iff.1 hw
  exact withinCaseless_iff.2 ⟨v, hv, hvs.trans h⟩

theorem withinCaseless_of_cons {w s : Text} {c : Char}
    (h : withinCaseless w (c :: s) = false) : withinCaseless w s = false := by
  simp only [withinCaseless, occurs, Bool.or_eq_false_iff] at h
  exact h.2

theorem isInfix_append_cons_iff {v a b : Text} {x : Char} (hx : x ∉ v) :
    v <:+: a ++ x :: b ↔ v <:+: a ∨ v <:+: b := by
  constructor
  · intro h
    obtain h | h | ⟨l, m, rfl, hl, hm⟩ := List.infix_append_iff.1 h
    · exact .inl h
    · obtain h | h := List.infix_cons_iff.1 h
      · cases v with
        | nil => exact .inl List.nil_infix
        | cons y v =>
          obtain rfl := (List.cons_prefix_cons.1 h).1
          simp at hx
      · exact .inr h
    · cases m with
      | nil => exact .inl (by simpa using hl.isInfix)
      | cons y m =>
        obtain rfl := (List.cons_prefix_cons.1 hm).1
        simp at hx
  · intro h
    cases h with
    | inl h => exact h.trans (List.infix_append' [] a (x :: b))
    | inr h => exact h.trans ((List.suffix_cons x b).isInfix.trans (List.suffix_append a _).isInfix)

theorem isInfix_cons_iff_of_not_mem {v b : Text} {x : Char} (hx : x ∉ v) :
    v <:+: x :: b ↔ v <:+: b := by
  have h := isInfix_append_cons_iff (a := []) (b := b) hx
  rw [List.nil_append] at h
  rw [h, List.infix_nil]
  constructor
  · intro h
    cases h with
    | inl h => simp [h]
    | inr h => exact h
  · exact Or.inr

theorem isInfix_of_cons_isInfix_append {v a b : Text} {x : Char} (hx : x ∉ a)
    (h : x :: v <:+: a ++ b) : x :: v <:+: b := by
  induction a with
  | nil => exact h
  | cons y a ih =>
    obtain h | h := List.infix_cons_iff.1 h
    · obtain rfl := (List.cons_prefix_cons.1 h).1
      simp at hx
    · exact ih (fun ha => hx (List.mem_cons_of_mem y ha)) h

theorem isInfix_of_isInfix_append {v a b : Text} {x : Char} (hx : x ∉ b)
    (h : v ++ [x] <:+: a ++ b) : v ++ [x] <:+: a := by
  rw [← List.reverse_infix] at h ⊢
  rw [List.reverse_append, List.reverse_append] at h
  rw [List.reverse_append]
  exact isInfix_of_cons_isInfix_append (by simpa using hx) h

theorem isInfix_flatMap {β : Type} (f : β → Text) {b : β} {l : List β} (h : b ∈ l) :
    f b <:+: l.flatMap f :=
  List.infix_of_mem_flatten (List.mem_map_of_mem h)

theorem isInfix_joinLines_of_mem {l : Text} {ls : List Text} (h : l ∈ ls) :
    l <:+: joinLines ls := by
  induction ls with
  | nil => simp at h
  | cons m ls ih =>
    cases ls with
    | nil => simp_all
    | cons m' ls =>
      rw [joinLines_cons_cons]
      cases List.mem_cons.1 h with
      | inl h => exact h ▸ (List.prefix_append m _).isInfix
      | inr h => exact (ih h).trans ((List.suffix_cons _ _).trans (List.suffix_append m _)).isInfix

theorem exists_of_isInfix_joinLines {v : Text} (hne : v ≠ []) (hv : '\n' ∉ v) {ls : List Text}
    (h : v <:+: joinLines ls) : ∃ l ∈ ls, v <:+: l := by
  induction ls with
  | nil =>
    rw [joinLines_nil, List.infix_nil] at h
    exact absurd h hne
  | cons l ls ih =>
    cases ls with
    | nil => exact ⟨l, by simp, by simpa using h⟩
    | cons m ls =>
      rw [joinLines_cons_cons, isInfix_append_cons_iff hv] at h
      cases h with
      | inl h => exact ⟨l, by simp, h⟩
      | inr h =>
        obtain ⟨k, hk, hvk⟩ := ih h
        exact ⟨k, List.mem_cons_of_mem l hk, hvk⟩

theorem withinCaseless_eq_false_iff {w s : Text} :
    withinCaseless w s = false ↔ ∀ v, v.map fold = w.map fold → ¬v <:+: s := by
  rw [Bool.eq_false_iff, ne_eq, withinCaseless_iff]
  simp only [not_exists, not_and]

theorem withinCaseless_append_cons {w a b : Text} {x : Char} (hx : fold x ∉ w.map fold)
    (ha : withinCaseless w a = false) (hb : withinCaseless w b = false) :
    withinCaseless w (a ++ x :: b) = false := by
  rw [withinCaseless_eq_false_iff] at ha hb ⊢
  intro v hv h
  have hxv : x ∉ v := fun hm => hx (hv ▸ List.mem_map_of_mem hm)
  cases (isInfix_append_cons_iff hxv).1 h with
  | inl h => exact ha v hv h
  | inr h => exact hb v hv h

theorem withinCaseless_append {w a b : Text} {l : Char} (hl : (w.map fold).head? = some l)
    (ha : ∀ c ∈ a, fold c ≠ l) (hb : withinCaseless w b = false) :
    withinCaseless w (a ++ b) = false := by
  rw [withinCaseless_eq_false_iff] at hb ⊢
  intro v hv h
  rw [← hv] at hl
  cases v with
  | nil => simp at hl
  | cons d v =>
    have hd : fold d = l := by simpa using hl
    have hda : d ∉ a := fun hm => ha d hm hd
    exact hb (d :: v) hv (isInfix_of_cons_isInfix_append hda h)

end QueryBridge.Text
