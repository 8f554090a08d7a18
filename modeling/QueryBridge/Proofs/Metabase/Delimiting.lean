import QueryBridge.Metabase.Clause
import QueryBridge.Proofs.Text.Dissection
import QueryBridge.Proofs.Text.Name

/-!
Where clauses begin and end. A clause begins at the first opening pair that has a closing pair
anywhere behind it, and ends at the first closing pair behind its opening one; what is left behind
the last clause has no clause in it.
-/

namespace QueryBridge.Metabase
open Text

namespace Clause

structure Spaced (c : Clause) : Prop where
  openGap : ∀ x ∈ c.openGap, isBlank x = true
  closeGap : ∀ x ∈ c.closeGap, isBlank x = true

def closer (c : Clause) : Text :=
  ']' :: (c.closeGap ++ [']'])

/-- In the body and the closing pair, the first bracket of that pair is the only closing bracket
that has another one as its next character but for blanks. -/
def EndsFirst (c : Clause) : Prop :=
  ∀ p q, p ++ ']' :: q = c.body ++ c.closer → ((skip q).head? = some ']' ↔ p = c.body)

theorem written_eq (c : Clause) :
    c.written = '[' :: (c.openGap ++ '[' :: (c.body ++ c.closer)) := by
  simp [written, closer]

theorem skip_append_written (q : Text) (c : Clause) (t : Text) :
    skip (q ++ (c.written ++ t)) = skip q ++ (c.written ++ t) := by
  refine skip_append_of_head ?_ q
  rw [written_eq]
  rfl

namespace Spaced

variable {c : Clause}

theorem pair?_written (hc : c.Spaced) (t : Text) :
    pair? '[' (c.written ++ t) = some (c.openGap, c.body ++ (c.closer ++ t)) := by
  have h := pair?_append (d := '[') (by decide) ⟨c.openGap, hc.openGap⟩ (c.body ++ (c.closer ++ t))
  rw [← h, written_eq]
  simp only [List.append_assoc, List.cons_append]

theorem pair?_closer (hc : c.Spaced) (t : Text) :
    pair? ']' (c.closer ++ t) = some (c.closeGap, t) := by
  have h := pair?_append (d := ']') (by decide) ⟨c.closeGap, hc.closeGap⟩ t
  rw [← h, closer]
  simp only [List.append_assoc, List.cons_append, List.nil_append]

theorem read_ne_none (hc : c.Spaced) (t : Text) : read (c.written ++ t) ≠ none := by
  rw [read, hc.pair?_written, Option.bind_some, ne_eq, Option.map_eq_none_iff, cut_eq_none_iff]
  intro h
  have hclose := h c.body (c.closer ++ t) rfl fun _ _ => rfl
  rw [hc.pair?_closer] at hclose
  simp at hclose

end Spaced

theorem spaced_of_read {s t : Text} {c : Clause} (h : read s = some (c, t)) :
    c.Spaced ∧ ∀ p q, p ++ q = c.body → q ≠ [] → pair? ']' (q ++ (c.closer ++ t)) = none := by
  obtain ⟨⟨g, u⟩, ho, h⟩ := Option.bind_eq_some_iff.1 h
  obtain ⟨⟨b, g', t'⟩, hcut, he⟩ := Option.map_eq_some_iff.1 h
  simp only [Prod.mk.injEq] at he
  obtain ⟨rfl, rfl⟩ := he
  obtain ⟨v, -, hv, -, hfirst⟩ := cut_eq_some_iff.1 hcut
  have hcloser : closer ⟨g, b, g'⟩ ++ t' = v := by
    rw [← pair?_eq_some hv]
    simp [closer]
  rw [hcloser]
  exact ⟨⟨isBlank_of_pair? ho, isBlank_of_pair? hv⟩, hfirst⟩

theorem endsFirst_of_read {s t : Text} {c : Clause} (h : read s = some (c, t)) : c.EndsFirst := by
  obtain ⟨hc, hfirst⟩ := spaced_of_read h
  intro p q hpq
  refine head?_skip_eq_some_iff (t := t) (by decide) ⟨c.closeGap, hc.closeGap⟩ ?_ hpq
  simpa [closer] using hfirst

theorem head?_skip_ne_of_read {c : Clause} (hc : c.Spaced) {q t : Text}
    (h : read ('[' :: (q ++ (c.written ++ t))) = none) :
    (skip (q ++ (c.written ++ t))).head? ≠ some '[' := by
  intro hnext
  -- the closing pair stands behind the opening one, whichever bracket that ends with
  obtain ⟨body, hbody⟩ :
      ∃ body, skip (q ++ (c.written ++ t)) = '[' :: (body ++ (c.closer ++ t)) := by
    rw [skip_append_written] at hnext ⊢
    cases hq : skip q with
    | nil => exact ⟨c.openGap ++ '[' :: c.body, by simp [written_eq]⟩
    | cons d w =>
      rw [hq] at hnext
      obtain rfl : d = '[' := by simpa using hnext
      exact ⟨w ++ '[' :: (c.openGap ++ '[' :: c.body), by simp [written_eq]⟩
  have hspaced : Spaced ⟨gap (q ++ (c.written ++ t)), body, c.closeGap⟩ :=
    ⟨fun x hx => List.mem_takeWhile_imp hx, hc.closeGap⟩
  have hsame : written ⟨gap (q ++ (c.written ++ t)), body, c.closeGap⟩ ++ t =
      '[' :: (q ++ (c.written ++ t)) := by
    conv => rhs; rw [← gap_append_skip (q ++ (c.written ++ t)), hbody]
    simp [written_eq, closer]
  have hread := hspaced.read_ne_none t
  rw [hsame] at hread
  exact hread h

theorem body_sublist (c : Clause) : c.body.Sublist c.written := by
  have h : c.body <:+: c.written :=
    ⟨'[' :: (c.openGap ++ ['[']), c.closer, by simp [written_eq]⟩
  exact h.sublist

def gaps (c : Clause) : Text :=
  c.openGap ++ c.closeGap

theorem Spaced.count_gaps {c : Clause} (hc : c.Spaced) {b : Char} (hb : isBlank b = false) :
    c.gaps.count b = 0 := by
  refine List.count_eq_zero_of_not_mem fun hm => ?_
  cases List.mem_append.1 hm with
  | inl hm => exact Blanks.not_mem ⟨c.openGap, hc.openGap⟩ hb hm
  | inr hm => exact Blanks.not_mem ⟨c.closeGap, hc.closeGap⟩ hb hm

theorem Spaced.count_written {c : Clause} (hc : c.Spaced) (x : Char) :
    c.written.count x = c.body.count x + if x = '[' ∨ x = ']' then 2 else c.gaps.count x := by
  have hcount : c.written.count x = c.body.count x + c.gaps.count x +
      2 * (if x = '[' then 1 else 0) + 2 * (if x = ']' then 1 else 0) := by
    simp only [written_eq, closer, gaps, List.count_append, List.count_cons, List.count_nil,
      beq_iff_eq, eq_comm (b := x)]
    omega
  rw [hcount]
  by_cases hopen : x = '['
  · simp [hopen, hc.count_gaps (show isBlank '[' = false by decide)]
  · by_cases hclose : x = ']'
    · simp [hclose, hc.count_gaps (show isBlank ']' = false by decide)]
    · simp [hopen, hclose]

theorem count_flatMap_written {cs : List Clause} (hcs : ∀ c ∈ cs, c.Spaced) (x : Char) :
    (cs.flatMap written).count x = (cs.flatMap body).count x +
      if x = '[' ∨ x = ']' then 2 * cs.length else (cs.flatMap gaps).count x := by
  induction cs with
  | nil => simp
  | cons c cs ih =>
    have hc := (hcs c (by simp)).count_written x
    have hrest := ih fun c' hc' => hcs c' (List.mem_cons_of_mem c hc')
    simp only [List.flatMap_cons, List.count_append, List.length_cons, hc, hrest]
    split <;> omega

end Clause

def ClauseFree (s : Text) : Prop :=
  ∀ c : Clause, c.Spaced → ¬c.written <:+: s

/-- The clauses lie in the text like this: each ends at the first closing pair, before each no
opening bracket has another one as its next character but for blanks, and behind the last one there
is none. -/
structure Delimits (s : Text) (d : Dissection Clause) : Prop where
  text : d.render Clause.written = s
  spaced : ∀ c ∈ d.hits, c.Spaced
  ends : ∀ c ∈ d.hits, c.EndsFirst
  begins : ∀ front t c back, d.parts = front ++ (t, c) :: back → ∀ p q, p ++ '[' :: q = t →
    (skip (q ++ (c.written ++ Dissection.render Clause.written ⟨back, d.rest⟩))).head? ≠ some '['
  free : ClauseFree d.rest

theorem clauseFree_of_passes {s : Text} (h : Clause.recognizer.Passes s []) : ClauseFree s := by
  rintro c hc ⟨a, b, hs⟩
  have hne : c.written ++ b ≠ [] := by simp [Clause.written_eq]
  have hread := h a (c.written ++ b) (by rw [← hs, List.append_assoc]) hne
  rw [List.append_nil] at hread
  exact hc.read_ne_none b hread

theorem ClauseFree.read_eq_none {s : Text} (h : ClauseFree s) {p q : Text} (hpq : p ++ q = s) :
    Clause.recognizer.read q = none := by
  cases hread : Clause.recognizer.read q with
  | none => rfl
  | some x =>
    have hq := Clause.recognizer.written_append hread
    exact absurd ⟨p, x.2, by rw [List.append_assoc, ← hpq, ← hq]; rfl⟩
      (h x.1 (Clause.spaced_of_read hread).1)

theorem head?_skip_ne_of_passes {t u : Text} {c : Clause} (hc : c.Spaced)
    (h : Clause.recognizer.Passes t (c.written ++ u)) {p q : Text} (ht : p ++ '[' :: q = t) :
    (skip (q ++ (c.written ++ u))).head? ≠ some '[' :=
  Clause.head?_skip_ne_of_read hc (h p ('[' :: q) ht (by simp))

theorem delimits_of_scan {s : Text} {d : Dissection Clause} (h : Clause.recognizer.Scan s d) :
    Delimits s d := by
  have hspaced {c : Clause} (hc : c ∈ d.hits) : c.Spaced := by
    obtain ⟨t, u, hcu⟩ := h.exists_read hc
    exact (Clause.spaced_of_read hcu).1
  refine ⟨h.render_written, fun c => hspaced, fun c hc => ?_, fun front t c back hd p q ht => ?_,
    clauseFree_of_passes h.passes_rest⟩
  · obtain ⟨t, u, hcu⟩ := h.exists_read hc
    exact Clause.endsFirst_of_read hcu
  · obtain ⟨u, hscan, hpass, -⟩ := h.of_parts_eq hd
    have hu : Dissection.render Clause.written ⟨back, d.rest⟩ = u := hscan.render_written
    rw [hu]
    exact head?_skip_ne_of_passes (hspaced (Dissection.mem_hits_of_eq hd)) hpass ht

end QueryBridge.Metabase
