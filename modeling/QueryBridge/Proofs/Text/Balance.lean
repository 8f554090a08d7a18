import QueryBridge.Text.Basic

/-!
Square brackets that are properly nested and matched. A text is balanced where a reader that counts
the open ones never closes one too many and leaves none open.
-/

namespace QueryBridge.Text

inductive Balanced : Text → Prop
  | nil : Balanced []
  | plain {c : Char} {s : Text} (hopen : c ≠ '[') (hclose : c ≠ ']') (hs : Balanced s) :
    Balanced (c :: s)
  | nest {s t : Text} (hs : Balanced s) (ht : Balanced t) : Balanced ('[' :: (s ++ ']' :: t))

/-- The number of brackets open behind a text that `n` are open before. There is none where a
bracket closes that was not opened. -/
def openAfter : Text → Nat → Option Nat
  | [], n => some n
  | c :: s, n =>
    if c = '[' then openAfter s (n + 1)
    else if c = ']' then
      if n = 0 then none else openAfter s (n - 1)
    else openAfter s n

theorem openAfter_append (s t : Text) (n : Nat) :
    openAfter (s ++ t) n = (openAfter s n).bind (openAfter t) := by
  induction s generalizing n with
  | nil => rfl
  | cons c s ih =>
    rw [List.cons_append, openAfter, openAfter]
    split
    · exact ih (n + 1)
    · split
      · split
        · rfl
        · exact ih (n - 1)
      · exact ih n

theorem count_of_openAfter {s : Text} {n m : Nat} (h : openAfter s n = some m) :
    m + s.count ']' = n + s.count '[' := by
  induction s generalizing n with
  | nil =>
    obtain rfl : n = m := by simpa [openAfter] using h
    rfl
  | cons c s ih =>
    rw [openAfter] at h
    split at h
    · next hc =>
      have hs := ih h
      simp only [hc, List.count_cons_self, List.count_cons_of_ne (show '[' ≠ ']' by decide)]
      omega
    · split at h
      · next hc =>
        split at h
        · simp at h
        · have hs := ih h
          simp only [hc, List.count_cons_self, List.count_cons_of_ne (show ']' ≠ '[' by decide)]
          omega
      · next hopen hclose =>
        rw [List.count_cons_of_ne hopen, List.count_cons_of_ne hclose]
        exact ih h

theorem Balanced.openAfter_eq {s : Text} (h : Balanced s) (n : Nat) :
    openAfter s n = some n := by
  induction h generalizing n with
  | nil => rfl
  | plain hopen hclose hs ih => rw [openAfter, if_neg hopen, if_neg hclose, ih]
  | nest hs ht ihs iht =>
    rw [openAfter, if_pos rfl, openAfter_append, ihs, Option.bind_some]
    exact iht n

/-- The brackets that `n` are open before close one after the other, each behind a balanced text. -/
def Closes : Nat → Text → Prop
  | 0, s => Balanced s
  | n + 1, s => ∃ a b, s = a ++ ']' :: b ∧ Balanced a ∧ Closes n b

theorem Closes.plain {c : Char} {n : Nat} {s : Text} (hopen : c ≠ '[') (hclose : c ≠ ']')
    (h : Closes n s) : Closes n (c :: s) := by
  cases n with
  | zero => exact Balanced.plain hopen hclose h
  | succ n =>
    obtain ⟨a, b, rfl, ha, hb⟩ := h
    exact ⟨c :: a, b, rfl, .plain hopen hclose ha, hb⟩

theorem Closes.nest {n : Nat} {s : Text} (h : Closes (n + 1) s) : Closes n ('[' :: s) := by
  obtain ⟨a, b, rfl, ha, hb⟩ := h
  cases n with
  | zero => exact Balanced.nest ha hb
  | succ n =>
    obtain ⟨a', b', rfl, ha', hb'⟩ := hb
    exact ⟨'[' :: (a ++ ']' :: a'), b', by simp, .nest ha ha', hb'⟩

theorem closes_of_openAfter {s : Text} {n : Nat} (h : openAfter s n = some 0) : Closes n s := by
  induction s generalizing n with
  | nil =>
    obtain rfl : n = 0 := by simpa [openAfter] using h
    exact Balanced.nil
  | cons c s ih =>
    rw [openAfter] at h
    split at h
    · next hopen =>
      subst hopen
      exact (ih h).nest
    · next hopen =>
      split at h
      · next hclose =>
        split at h
        · simp at h
        · next hn =>
          obtain ⟨n, rfl⟩ := Nat.exists_eq_succ_of_ne_zero hn
          exact ⟨[], s, by rw [hclose]; rfl, .nil, ih h⟩
      · next hclose => exact (ih h).plain hopen hclose

theorem balanced_iff {s : Text} : Balanced s ↔ openAfter s 0 = some 0 :=
  ⟨fun h => h.openAfter_eq 0, closes_of_openAfter⟩

instance : DecidablePred Balanced := fun _ =>
  decidable_of_iff _ balanced_iff.symm

theorem Balanced.count_eq {s : Text} (h : Balanced s) : s.count '[' = s.count ']' := by
  have hcount := count_of_openAfter (h.openAfter_eq 0)
  omega

end QueryBridge.Text
