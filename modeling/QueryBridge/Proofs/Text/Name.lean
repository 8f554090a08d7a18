import Mathlib.Data.List.TakeWhile
import QueryBridge.Proofs.Text.Character

/-!
Runs of blanks and names. A run is read in full where no character of its kind follows.
-/

namespace QueryBridge.Text

structure Blanks where
  text : Text
  isBlank_of_mem : ∀ c ∈ text, isBlank c = true

structure Name where
  text : Text
  ne_nil : text ≠ []
  isWord_of_mem : ∀ c ∈ text, isWord c = true

def Blanks.none : Blanks :=
  ⟨[], by simp⟩

theorem skip_of_head {t : Text} (h : t.head?.any isBlank = false) : skip t = t := by
  cases t with
  | nil => rfl
  | cons c t =>
    have hc : isBlank c = false := by simpa using h
    simp [skip, hc]

theorem gap_of_head {t : Text} (h : t.head?.any isBlank = false) : gap t = [] := by
  cases t with
  | nil => rfl
  | cons c t =>
    have hc : isBlank c = false := by simpa using h
    simp [gap, hc]

theorem head?_dropWhile (p : Char → Bool) (t : Text) : (t.dropWhile p).head?.any p = false := by
  have h := List.head?_dropWhile_not p t
  split at h
  · next c hc => simpa [hc] using h
  · next hc => simp [hc]

theorem head?_skip (t : Text) : (skip t).head?.any isBlank = false :=
  head?_dropWhile isBlank t

theorem skip_skip (t : Text) : skip (skip t) = skip t :=
  skip_of_head (head?_skip t)

theorem head?_afterWord (t : Text) : (afterWord t).head?.any isWord = false :=
  head?_dropWhile isWord t

theorem word_eq_nil_iff {t : Text} : word t = [] ↔ t.head?.any isWord = false := by
  cases t with
  | nil => simp [word]
  | cons c t => cases h : isWord c <;> simp [word, h]

theorem isWord_of_mem_word {c : Char} {t : Text} (h : c ∈ word t) : isWord c = true :=
  List.mem_takeWhile_imp h

theorem skip_cons_of_isBlank {c : Char} (h : isBlank c = true) (t : Text) :
    skip (c :: t) = skip t := by
  simp [skip, h]

theorem skip_append (q t : Text) :
    skip (q ++ t) = if (skip q).isEmpty then skip t else skip q ++ t :=
  List.dropWhile_append

theorem skip_append_of_skip_ne_nil {q : Text} (h : skip q ≠ []) (t : Text) :
    skip (q ++ t) = skip q ++ t := by
  rw [skip_append, List.isEmpty_eq_false_iff.2 h]
  rfl

theorem skip_append_of_head {t : Text} (h : t.head?.any isBlank = false) (q : Text) :
    skip (q ++ t) = skip q ++ t := by
  by_cases hq : skip q = []
  · rw [skip_append, hq, skip_of_head h]
    rfl
  · exact skip_append_of_skip_ne_nil hq t

theorem mem_of_head?_skip {q : Text} {x : Char} (h : (skip q).head? = some x) : x ∈ q :=
  (List.dropWhile_sublist _).subset (List.mem_of_mem_head? h)

namespace Blanks

variable (b : Blanks) {t : Text}

theorem skip_append (t : Text) : skip (b.text ++ t) = skip t :=
  List.dropWhile_append_of_pos b.isBlank_of_mem

theorem gap_append (t : Text) : gap (b.text ++ t) = b.text ++ gap t :=
  List.takeWhile_append_of_pos b.isBlank_of_mem

theorem skip_append_of_head (h : t.head?.any isBlank = false) : skip (b.text ++ t) = t :=
  (b.skip_append t).trans (skip_of_head h)

theorem gap_append_of_head (h : t.head?.any isBlank = false) : gap (b.text ++ t) = b.text := by
  rw [b.gap_append, gap_of_head h, List.append_nil]

end Blanks

namespace Name

variable (n : Name) {t : Text}

theorem exists_cons : ∃ c r, n.text = c :: r ∧ isWord c = true := by
  obtain ⟨c, r, h⟩ := List.exists_cons_of_ne_nil n.ne_nil
  exact ⟨c, r, h, n.isWord_of_mem c (by simp [h])⟩

theorem head_append (t : Text) : (n.text ++ t).head?.any isBlank = false := by
  obtain ⟨c, r, h, hc⟩ := n.exists_cons
  simp [h, isBlank_of_isWord hc]

theorem word_append (h : t.head?.any isWord = false) : word (n.text ++ t) = n.text := by
  have ht : t.takeWhile isWord = [] := by
    cases t with
    | nil => rfl
    | cons c t => simp_all
  rw [Text.word, List.takeWhile_append_of_pos n.isWord_of_mem, ht, List.append_nil]

theorem afterWord_append (h : t.head?.any isWord = false) : afterWord (n.text ++ t) = t := by
  have ht : t.dropWhile isWord = t := by
    cases t with
    | nil => rfl
    | cons c t => simp_all
  rw [afterWord, List.dropWhile_append_of_pos n.isWord_of_mem, ht]

theorem not_mem {c : Char} (hc : isWord c = false) : c ∉ n.text := by
  intro h
  simp [n.isWord_of_mem c h] at hc

end Name

theorem Blanks.not_mem (b : Blanks) {c : Char} (hc : isBlank c = false) : c ∉ b.text := by
  intro h
  simp [b.isBlank_of_mem c h] at hc

theorem pair?_append {d : Char} (hd : isBlank d = false) (b : Blanks) (rest : Text) :
    pair? d (d :: (b.text ++ d :: rest)) = some (b.text, rest) := by
  have hhead : (d :: rest).head?.any isBlank = false := by simpa using hd
  simp [pair?, b.skip_append_of_head hhead, b.gap_append_of_head hhead]

theorem isBlank_of_pair? {b : Char} {s g rest : Text} (h : pair? b s = some (g, rest)) :
    ∀ c ∈ g, isBlank c = true := by
  cases s with
  | nil => simp [pair?] at h
  | cons c s =>
    simp only [pair?] at h
    split at h
    · split at h
      · simp at h
      · split at h
        · simp only [Option.some.injEq, Prod.mk.injEq] at h
          obtain ⟨rfl, -⟩ := h
          exact fun d hd => List.mem_takeWhile_imp hd
        · simp at h
    · simp at h

theorem pair?_of_ne {b c : Char} (h : c ≠ b) (s : Text) : pair? b (c :: s) = none := by
  simp [pair?, h]

theorem pair?_of_isBlank {b c : Char} (hb : isBlank b = false) (hc : isBlank c = true) (s : Text) :
    pair? b (c :: s) = none := by
  refine pair?_of_ne ?_ s
  rintro rfl
  simp [hb] at hc

theorem pair?_blanks_append {b : Char} (hb : isBlank b = false) {q : Text} (hne : q ≠ [])
    (hq : ∀ x ∈ q, isBlank x = true) (t : Text) : pair? b (q ++ t) = none := by
  obtain ⟨c, q, rfl⟩ := List.exists_cons_of_ne_nil hne
  exact pair?_of_isBlank hb (hq c (by simp)) _

theorem pair?_eq_none_of_skip {b : Char} (hb : isBlank b = false) {s : Text}
    (h : pair? b (skip s) = none) : pair? b s = none := by
  cases s with
  | nil => rfl
  | cons c s =>
    cases hc : isBlank c with
    | false =>
      have hhead : (c :: s).head?.any isBlank = false := by simpa using hc
      rwa [skip_of_head hhead] at h
    | true => exact pair?_of_isBlank hb hc s

/-- A bracket pairs with the next character but for blanks. -/
theorem pair?_cons_eq_none_iff {b : Char} {s : Text} :
    pair? b (b :: s) = none ↔ (skip s).head? ≠ some b := by
  cases h : skip s with
  | nil => simp [pair?, h]
  | cons d t => simp [pair?, h]

/-- Where no pair begins in a text in front of a pair, the first bracket of that pair is the only one
that has another as its next character but for blanks. -/
theorem head?_skip_eq_some_iff {b : Char} (hb : isBlank b = false) (g : Blanks) {a t : Text}
    (hfirst : ∀ p q, p ++ q = a → q ≠ [] → pair? b (q ++ b :: (g.text ++ b :: t)) = none)
    {p q : Text} (hpq : p ++ b :: q = a ++ b :: (g.text ++ [b])) :
    (skip q).head? = some b ↔ p = a := by
  constructor
  · intro hnext
    obtain ⟨u, ha, hq⟩ | ⟨u, hp, hcloser⟩ := List.append_eq_append_iff.1 hpq
    · by_contra hne
      have hu : u ≠ [] := by
        rintro rfl
        exact hne (by simpa using ha.symm)
      have hpair := hfirst p u ha.symm hu
      have hsplit : u ++ b :: (g.text ++ b :: t) = b :: (q ++ t) := by
        simpa using congrArg (· ++ t) hq.symm
      rw [hsplit, pair?_cons_eq_none_iff,
        skip_append_of_skip_ne_nil (by rintro hnil; simp [hnil] at hnext)] at hpair
      exact hpair (by rw [List.head?_append, hnext]; rfl)
    · -- a bracket in `u`, the one behind it and the one in `q` would be three
      have hcount := congrArg (List.count b) hcloser
      have hgap := List.count_eq_zero_of_not_mem (g.not_mem hb)
      have hq := List.count_pos_iff.2 (mem_of_head?_skip hnext)
      simp only [List.count_append, List.count_cons_self, List.count_nil, hgap] at hcount
      cases u with
      | nil => simpa using hp
      | cons x u =>
        obtain rfl : x = b := by simpa using (congrArg List.head? hcloser).symm
        rw [List.count_cons_self] at hcount
        omega
  · rintro rfl
    simp only [List.append_cancel_left_eq, List.cons.injEq, true_and] at hpq
    rw [hpq, g.skip_append_of_head (by simpa using hb)]
    rfl

end QueryBridge.Text
