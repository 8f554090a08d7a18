import QueryBridge.PowerBI.OfMetabase
import QueryBridge.Proofs.Text.Name
import QueryBridge.Proofs.Text.Scanning

/-!
Texts as a string literal writes them, with each quote twice. Halving undoes it whatever follows,
doubling does it where no two quotes stand together, and clauses and tokens keep their places.
-/

namespace QueryBridge.PowerBI
open Text

def escapeChar (c : Char) : Text :=
  if c = '"' then ['"', '"'] else [c]

def escape (s : Text) : Text :=
  s.flatMap escapeChar

@[simp] theorem escape_nil : escape [] = [] :=
  rfl

@[simp] theorem escape_quote (s : Text) : escape ('"' :: s) = '"' :: '"' :: escape s :=
  rfl

theorem escape_cons {c : Char} (h : c ≠ '"') (s : Text) : escape (c :: s) = c :: escape s := by
  simp [escape, escapeChar, h]

theorem escape_of_not_mem {s : Text} (h : '"' ∉ s) : escape s = s := by
  induction s with
  | nil => rfl
  | cons c s ih =>
    have hc : c ≠ '"' := fun e => h (by simp [e])
    rw [escape_cons hc, ih fun hs => h (List.mem_cons_of_mem c hs)]

theorem mem_escape {c : Char} {s : Text} (h : c ∈ s) : c ∈ escape s := by
  refine List.mem_flatMap.2 ⟨c, h, ?_⟩
  by_cases hc : c = '"'
  · simp [escapeChar, hc]
  · simp [escapeChar, hc]

theorem quotePair_read_pair (s : Text) : quotePair.read ('"' :: '"' :: s) = some ((), s) :=
  rfl

theorem quotePair_read_of_ne {c : Char} (h : c ≠ '"') (s : Text) :
    quotePair.read (c :: s) = none := by
  simp [quotePair, Recognizer.literal, after?, h]

theorem quotePair_read_lone {s : Text} (h : s.head? ≠ some '"') :
    quotePair.read ('"' :: s) = none := by
  cases s with
  | nil => rfl
  | cons c s =>
    have hc : c ≠ '"' := fun e => h (by simp [e])
    simp [quotePair, Recognizer.literal, after?, hc]

theorem halveQuotes_escape_append (s t : Text) :
    halveQuotes (escape s ++ t) = s ++ halveQuotes t := by
  induction s with
  | nil => rfl
  | cons c s ih =>
    by_cases hc : c = '"'
    · subst hc
      have h := quotePair.replace_of_read (fun _ => ['"']) (quotePair_read_pair (escape s ++ t))
      rw [escape_quote, List.cons_append, List.cons_append, halveQuotes, h, ← halveQuotes, ih]
      rfl
    · have h := quotePair.replace_cons (fun _ => ['"']) (quotePair_read_of_ne hc (escape s ++ t))
      rw [escape_cons hc, List.cons_append, halveQuotes, h, ← halveQuotes, ih]
      rfl

theorem halveQuotes_escape (s : Text) : halveQuotes (escape s) = s := by
  have h := halveQuotes_escape_append s []
  simpa [halveQuotes] using h

theorem halveQuotes_append_of_not_mem {s : Text} (h : '"' ∉ s) (t : Text) :
    halveQuotes (s ++ t) = s ++ halveQuotes t := by
  have := halveQuotes_escape_append s t
  rwa [escape_of_not_mem h] at this

theorem halveQuotes_lone {s : Text} (h : s.head? ≠ some '"') :
    halveQuotes ('"' :: s) = '"' :: halveQuotes s :=
  quotePair.replace_cons _ (quotePair_read_lone h)

theorem quoteRun_read_of_ne {c : Char} (h : c ≠ '"') (s : Text) :
    quoteRun.read (c :: s) = none := by
  simp [quoteRun, quotes, h]

theorem ne_quote_of_read {c : Char} {s : Text} (h : quoteRun.read (c :: s) = none) : c ≠ '"' := by
  rintro rfl
  simp [quoteRun, quotes] at h

theorem quoteRun_read_lone {s : Text} (h : s.head? ≠ some '"') :
    quoteRun.read ('"' :: s) = some (1, s) := by
  cases s with
  | nil => rfl
  | cons c s =>
    have hc : c ≠ '"' := fun e => h (by simp [e])
    simp [quoteRun, quotes, hc]

theorem doubleQuotes_eq_escape {s : Text} (h : ¬['"', '"'] <:+: s) :
    doubleQuotes s = escape s := by
  induction s with
  | nil => simp [doubleQuotes]
  | cons c s ih =>
    have ih := ih fun hs => h (List.infix_cons hs)
    unfold doubleQuotes at ih ⊢
    by_cases hc : c = '"'
    · subst hc
      have hs : s.head? ≠ some '"' := by
        intro hs
        obtain ⟨t, rfl⟩ : ∃ t, s = '"' :: t := by
          cases s with
          | nil => simp at hs
          | cons d t => exact ⟨t, by simpa using hs⟩
        exact h ⟨[], t, rfl⟩
      rw [quoteRun.replace_of_read _ (quoteRun_read_lone hs), ih]
      rfl
    · rw [quoteRun.replace_cons _ (quoteRun_read_of_ne hc s), ih, escape_cons hc]

theorem gap_escape (s : Text) : gap (escape s) = gap s := by
  induction s with
  | nil => rfl
  | cons c s ih =>
    by_cases hc : c = '"'
    · subst hc
      rfl
    · unfold gap at ih ⊢
      rw [escape_cons hc, List.takeWhile_cons, List.takeWhile_cons, ih]

theorem skip_escape (s : Text) : skip (escape s) = escape (skip s) := by
  induction s with
  | nil => rfl
  | cons c s ih =>
    by_cases hc : c = '"'
    · subst hc
      rfl
    · unfold skip at ih ⊢
      rw [escape_cons hc, List.dropWhile_cons, List.dropWhile_cons, ih]
      split
      · rfl
      · rw [escape_cons hc]

theorem pair?_escape {b : Char} (hb : b ≠ '"') (s : Text) :
    pair? b (escape s) = (pair? b s).map fun p => (p.1, escape p.2) := by
  cases s with
  | nil => rfl
  | cons c s =>
    by_cases hc : c = '"'
    · subst hc
      rw [escape_quote, pair?_of_ne hb.symm, pair?_of_ne hb.symm, Option.map_none]
    · rw [escape_cons hc, pair?, pair?, skip_escape, gap_escape]
      by_cases hcb : c = b
      · rw [if_pos hcb, if_pos hcb]
        cases skip s with
        | nil => rfl
        | cons d t =>
          by_cases hd : d = '"'
          · subst hd
            simp [hb.symm]
          · rw [escape_cons hd]
            by_cases hdb : d = b <;> simp [hdb]
      · rw [if_neg hcb, if_neg hcb, Option.map_none]

theorem cut_escape {γ : Type} {plain : Char → Bool} {closer : Text → Option (γ × Text)}
    (hplain : plain '"' = true) (hquote : ∀ s, closer ('"' :: s) = none)
    (hcloser : ∀ s, closer (escape s) = (closer s).map fun r => (r.1, escape r.2)) (s : Text) :
    cut plain closer (escape s) =
      (cut plain closer s).map fun r => (escape r.1, r.2.1, escape r.2.2) := by
  induction s with
  | nil =>
    have hnil := hcloser []
    rw [escape_nil] at hnil ⊢
    unfold cut cutFrom
    cases hc : closer [] with
    | none => rfl
    | some r =>
      obtain ⟨g, t⟩ := r
      have ht : t = escape t := by simpa [hc] using hnil
      simp [← ht]
  | cons c s ih =>
    by_cases hc : c = '"'
    · subst hc
      rw [escape_quote, cut_cons, hquote, cut_cons, hquote, cut_cons, hquote]
      simp only [hplain, if_true, ih, Option.map_map]
      rfl
    · have hread := hcloser (c :: s)
      rw [escape_cons hc] at hread ⊢
      rw [cut_cons, cut_cons, hread, ih]
      cases closer (c :: s) with
      | some r => rfl
      | none =>
        by_cases hp : plain c
        · simp [hp, Function.comp_def, escape_cons hc]
        · simp [hp]

/-- Hits keep their places where quotes begin none. -/
theorem follows_escape {μ : Type} {r : Recognizer μ} {φ : μ → μ}
    (hquote : ∀ s, r.read ('"' :: s) = none)
    (hread : ∀ s, r.read (escape s) = (r.read s).map fun x => (φ x.1, escape x.2)) :
    r.Follows escapeChar φ where
  read_flatMap := hread
  read_within c s hc p q hpq hq := by
    by_cases h : c = '"'
    · have hmem : ∀ d ∈ q, d = '"' := by
        intro d hd
        have : d ∈ escapeChar c := hpq ▸ List.mem_append_right p hd
        simpa [h, escapeChar] using this
      obtain ⟨d, q, rfl⟩ := List.exists_cons_of_ne_nil hq
      rw [List.cons_append, hmem d (by simp)]
      exact hquote _
    · have hread := hread (c :: s)
      rw [hc, Option.map_none, escape_cons h] at hread
      obtain rfl : q = [c] := by
        have : [c] = p ++ q := by simpa [escapeChar, h] using hpq.symm
        obtain ⟨-, h⟩ | ⟨-, h⟩ := List.append_eq_singleton_iff.1 this.symm
        · exact h
        · exact absurd h hq
      exact hread

end QueryBridge.PowerBI
