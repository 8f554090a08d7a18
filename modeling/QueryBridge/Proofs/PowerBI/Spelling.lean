import QueryBridge.Proofs.Metabase.Stretch
import QueryBridge.Proofs.PowerBI.Recognition
import QueryBridge.Proofs.PowerBI.Translation

/-!
What stands in a query that has been translated. Words stay where they were, no bracket is doubled
that was not, and line breaks leave a mark.
-/

namespace QueryBridge.PowerBI
open Text Metabase

/-- Spaces in the place of tabs could bring brackets together. -/
def TabsStay (s : Settings) (t : Text) : Prop :=
  '\t' ∈ t → s.useSpaces = false

theorem TabsStay.append {s : Settings} {t u : Text} (ht : TabsStay s t) (hu : TabsStay s u) :
    TabsStay s (t ++ u) := by
  intro h
  cases List.mem_append.1 h with
  | inl h => exact ht h
  | inr h => exact hu h

theorem TabsStay.spellChar_ne_nil {s : Settings} {t : Text} (h : TabsStay s t) {c : Char}
    (hc : c ∈ t) : spellChar s c ≠ [] := by
  unfold spellChar
  split
  · simp
  · split
    · decide
    · split
      · decide
      · split
        · next htab =>
          have := h (htab.1 ▸ hc)
          simp [this] at htab
        · simp

theorem spellChar_bracket (s : Settings) {b : Char} (hb : b ∈ Wrapper.brackets) :
    spellChar s b = [b] := by
  have hplain : ∀ b ∈ Wrapper.brackets, b ∉ ['"', '\n', '\r', '\t'] := by decide
  have hne := hplain b hb
  simp only [List.mem_cons, List.not_mem_nil, or_false, not_or] at hne
  simp [spellChar, hne]

theorem not_mem_spellChar (s : Settings) {b c : Char} (hb : b ∈ Wrapper.brackets) (hc : c ≠ b) :
    b ∉ spellChar s c := by
  have hfixed : ∀ b ∈ Wrapper.brackets, b ∉ ['"', '"'] ∧ b ∉ lineFeedMark ∧
      b ∉ carriageReturnMark ∧ b ≠ ' ' := by decide
  obtain ⟨hquote, hfeed, hreturn, hspace⟩ := hfixed b hb
  unfold spellChar
  split
  · exact hquote
  · split
    · exact hfeed
    · split
      · exact hreturn
      · split
        · exact fun h => hspace (List.eq_of_mem_replicate h)
        · simpa using hc.symm

theorem not_mem_translated {s : Settings} (htokens : s.replaceTokens = true) {x : Char}
    (hword : isWord x = false) (hat : x ≠ '@') {gs : List Segment}
    (h : ∀ t, .text t ∈ gs → ∀ c ∈ t, x ∉ spellChar s c) :
    x ∉ gs.flatMap (Segment.translated s) := by
  intro hx
  obtain ⟨g, hg, hx⟩ := List.mem_flatMap.1 hx
  cases g with
  | text t =>
    obtain ⟨c, hc, hx⟩ := List.mem_flatMap.1 hx
    exact h t hg c hc hx
  | token before name after =>
    rw [Segment.translated, if_pos htokens, List.mem_cons] at hx
    exact hx.elim hat (name.not_mem hword)

theorem pair_isInfix_of_flatMap {k : Char → Text} {b : Char} (hself : k b = [b]) {t : Text}
    (hother : ∀ c ∈ t, c ≠ b → b ∉ k c ∧ k c ≠ []) (h : [b, b] <:+: t.flatMap k) :
    [b, b] <:+: t := by
  induction t with
  | nil => simp at h
  | cons c t ih =>
    have ih := ih fun d hd => hother d (List.mem_cons_of_mem c hd)
    rw [List.flatMap_cons] at h
    by_cases hc : c = b
    · subst hc
      rw [hself, List.singleton_append] at h
      cases List.infix_cons_iff.1 h with
      | inr h => exact List.infix_cons (ih h)
      | inl h =>
        have hsecond := (List.cons_prefix_cons.1 h).2
        cases t with
        | nil => simp at hsecond
        | cons d t =>
          by_cases hd : d = c
          · subst hd
            exact ⟨[], t, rfl⟩
          · obtain ⟨hnot, hne⟩ := hother d (by simp) hd
            obtain ⟨e, r, he⟩ := List.exists_cons_of_ne_nil hne
            rw [List.flatMap_cons, he, List.cons_append] at hsecond
            obtain rfl := (List.cons_prefix_cons.1 hsecond).1
            simp [he] at hnot
    · have hnot := (hother c (by simp) hc).1
      exact List.IsInfix.trans (ih (isInfix_of_cons_isInfix_append hnot h))
        (List.suffix_cons c t).isInfix

theorem pair_isInfix_of_spelled {s : Settings} {b : Char} (hb : b ∈ Wrapper.brackets) {t : Text}
    (ht : TabsStay s t) (h : [b, b] <:+: spelled s t) : [b, b] <:+: t :=
  pair_isInfix_of_flatMap (spellChar_bracket s hb)
    (fun _ hc hne => ⟨not_mem_spellChar s hb hne, ht.spellChar_ne_nil hc⟩) h

/-- Brackets that stand together in a translated query did so in a stretch of the query. -/
theorem exists_stretch_of_translated {s : Settings} (htokens : s.replaceTokens = true) {b : Char}
    (hb : b ∈ Wrapper.brackets) {a : Text} {gs : List Segment} (ha : TabsStay s a)
    (hgs : ∀ t, .text t ∈ gs → TabsStay s t)
    (h : [b, b] <:+: spelled s a ++ gs.flatMap (Segment.translated s)) :
    ∃ t ∈ stretches a gs, [b, b] <:+: t := by
  induction gs generalizing a with
  | nil =>
    rw [List.flatMap_nil, List.append_nil] at h
    exact ⟨a, by simp [stretches], pair_isInfix_of_spelled hb ha h⟩
  | cons g gs ih =>
    have hrest : ∀ t, .text t ∈ gs → TabsStay s t := fun t ht => hgs t (List.mem_cons_of_mem g ht)
    rw [List.flatMap_cons] at h
    cases g with
    | text t =>
      rw [Segment.translated, ← List.append_assoc, ← spelled_append] at h
      exact ih (ha.append (hgs t (by simp))) hrest h
    | token before name after =>
      have hword : ∀ b ∈ Wrapper.brackets, isWord b = false ∧ '@' ∉ [b, b] := by decide
      obtain ⟨hword, hat⟩ := hword b hb
      rw [Segment.translated, if_pos htokens, List.cons_append, isInfix_append_cons_iff hat] at h
      cases h with
      | inl h => exact ⟨a, by simp [stretches], pair_isInfix_of_spelled hb ha h⟩
      | inr h =>
        have hempty : TabsStay s [] := fun h => absurd h (List.not_mem_nil)
        have h := isInfix_of_cons_isInfix_append (name.not_mem hword) h
        obtain ⟨t, ht, hpair⟩ := ih (a := []) hempty hrest h
        exact ⟨t, by simp [stretches, ht], hpair⟩

theorem spelled_stretch_isInfix {s : Settings} (htokens : s.replaceTokens = true) {a t : Text}
    {gs : List Segment} (ht : t ∈ stretches a gs) :
    spelled s t <:+: spelled s a ++ gs.flatMap (Segment.translated s) := by
  induction gs generalizing a with
  | nil =>
    rw [stretches, List.mem_singleton] at ht
    exact ht ▸ (List.prefix_append _ _).isInfix
  | cons g gs ih =>
    rw [List.flatMap_cons]
    cases g with
    | text u =>
      rw [Segment.translated, ← List.append_assoc, ← spelled_append]
      exact ih ht
    | token before name after =>
      rw [stretches, List.mem_cons, List.mem_cons] at ht
      rw [Segment.translated, if_pos htokens]
      obtain rfl | rfl | ht := ht
      · exact (List.prefix_append _ _).isInfix
      · rw [spelled_of_isWord s name.isWord_of_mem]
        exact ⟨spelled s a ++ ['@'], gs.flatMap (Segment.translated s), by simp⟩
      · exact (ih ht).trans ((List.suffix_append _ _).trans (List.suffix_append _ _)).isInfix

theorem withinCaseless_spelled (s : Settings) {w t : Text}
    (hword : ∀ c ∈ w.map fold, isWord c = true) (hw : withinCaseless w t = true) :
    withinCaseless w (spelled s t) = true := by
  obtain ⟨v, hv, hvt⟩ := withinCaseless_iff.1 hw
  have hvword : ∀ c ∈ v, isWord c = true := fun c hc =>
    isWord_of_fold (hword _ (hv ▸ List.mem_map_of_mem hc))
  have hspelled : spelled s v <:+: spelled s t := by
    obtain ⟨a, b, rfl⟩ := hvt
    rw [spelled_append, spelled_append]
    exact List.infix_append _ _ _
  rw [spelled_of_isWord s hvword] at hspelled
  exact withinCaseless_iff.2 ⟨v, hv, hspelled⟩

end QueryBridge.PowerBI
