import Mathlib.Data.List.Basic
import QueryBridge.Text.Blank
import QueryBridge.Text.Caseless
import QueryBridge.Text.Word

/-!
Kinds of characters. No blank is a word character, and letter case is a matter of word characters
only.
-/

namespace QueryBridge.Text

/-- Looks at the members only, not at all characters there are. -/
instance (t : Text) (p : Char → Prop) [DecidablePred p] : Decidable (∀ c ∈ t, p c) :=
  List.decidableBAll p t

instance (t u : Text) : Decidable (List.Disjoint t u) :=
  decidable_of_iff (∀ c ∈ t, c ∉ u) List.disjoint_left.symm

theorem exists_of_inRanges {ranges : List (Nat × Nat)} {c : Char} (h : inRanges ranges c = true) :
    ∃ r ∈ ranges, r.1 ≤ c.toNat ∧ c.toNat ≤ r.2 := by
  induction ranges with
  | nil => simp [inRanges] at h
  | cons r ranges ih =>
    simp only [inRanges, Bool.and_eq_true, Bool.or_eq_true, decide_eq_true_eq] at h
    obtain ⟨hlo, hhi | h⟩ := h
    · exact ⟨r, by simp, hlo, hhi⟩
    · obtain ⟨t, ht, hc⟩ := ih h
      exact ⟨t, List.mem_cons_of_mem r ht, hc⟩

theorem isBlank_bounds {c : Char} (h : isBlank c = true) : c.toNat ≤ 32 ∨ 128 ≤ c.toNat := by
  obtain ⟨b, hb, hlo, hhi⟩ := exists_of_inRanges h
  have hranges : ∀ b ∈ blankRanges, b.2 ≤ 32 ∨ 128 ≤ b.1 := by decide
  obtain h | h := hranges b hb
  · exact .inl (Nat.le_trans hhi h)
  · exact .inr (Nat.le_trans h hlo)

theorem lt_toNat_of_isAlphanum {c : Char} (h : (c.isAlphanum || c = '_') = true) :
    32 < c.toNat := by
  by_contra hle
  have hlow : ∀ n < 33, ((Char.ofNat n).isAlphanum || Char.ofNat n = '_') = false := by decide
  have hc := hlow c.toNat (by omega)
  rw [Char.ofNat_toNat, h] at hc
  simp at hc

theorem isBlank_of_isWord {c : Char} (h : isWord c = true) : isBlank c = false := by
  rw [Bool.eq_false_iff]
  intro hblank
  unfold isWord at h
  split at h
  · have := lt_toNat_of_isAlphanum h
    have := isBlank_bounds hblank
    omega
  · have hranges : ∀ b ∈ blankRanges, ∀ r ∈ wordRanges, r.2 < b.1 ∨ b.2 < r.1 := by
      decide +kernel
    obtain ⟨b, hb, hlo, hhi⟩ := exists_of_inRanges hblank
    obtain ⟨r, hr, hlo', hhi'⟩ := exists_of_inRanges h
    have := hranges b hb r hr
    omega

theorem disjoint_of_isWord {t banned : Text} (ht : ∀ c ∈ t, isWord c = true)
    (hbanned : ∀ b ∈ banned, isWord b = false) : List.Disjoint t banned := by
  intro c hc hb
  have hword := ht c hc
  rw [hbanned c hb] at hword
  simp at hword

theorem toLower_eq_self {c : Char} (h : ¬(65 ≤ c.toNat ∧ c.toNat ≤ 90)) : c.toLower = c :=
  dif_neg h

/-- What holds of the 26 capital letters, one by one. -/
theorem of_capital {p : Char → Prop} (hp : ∀ n < 26, p (Char.ofNat (65 + n))) {c : Char}
    (hc : 65 ≤ c.toNat ∧ c.toNat ≤ 90) : p c := by
  have h := hp (c.toNat - 65) (by omega)
  rwa [Nat.add_sub_cancel' hc.1, Char.ofNat_toNat] at h

theorem toLower_toLower (c : Char) : c.toLower.toLower = c.toLower := by
  by_cases hc : 65 ≤ c.toNat ∧ c.toNat ≤ 90
  · exact of_capital (p := fun c => c.toLower.toLower = c.toLower) (by decide) hc
  · rw [toLower_eq_self hc, toLower_eq_self hc]

theorem fold_eq_self_or_isWord (c : Char) :
    fold c = c ∨ isWord c = true ∧ isWord (fold c) = true := by
  unfold fold
  split
  · next h =>
    subst h
    exact .inr ⟨by decide +kernel, by decide +kernel⟩
  · split
    · next h =>
      subst h
      exact .inr ⟨by decide +kernel, by decide +kernel⟩
    · by_cases hc : 65 ≤ c.toNat ∧ c.toNat ≤ 90
      · have hletter : isWord c = true ∧ isWord c.toLower = true :=
          of_capital (p := fun c => isWord c = true ∧ isWord c.toLower = true) (by decide) hc
        exact .inr hletter
      · exact .inl (toLower_eq_self hc)

theorem isWord_of_fold {c : Char} (h : isWord (fold c) = true) : isWord c = true := by
  cases fold_eq_self_or_isWord c with
  | inl hc => rwa [hc] at h
  | inr hc => exact hc.1

theorem fold_ne {c d : Char} (hd : isWord d = false) (h : c ≠ d) : fold c ≠ d := by
  intro he
  cases fold_eq_self_or_isWord c with
  | inl hc => exact h (hc.symm.trans he)
  | inr hc => simp [he, hd] at hc

end QueryBridge.Text
