import Mathlib.Algebra.Order.BigOperators.Group.List
import Mathlib.Algebra.Order.Group.Nat
import QueryBridge.Proofs.Metabase.Delimiting
import QueryBridge.Proofs.Text.Balance

/-!
What the removal of clauses leaves behind. No clause forms across a gap, since the text before a
clause does not end with an opening bracket and blanks. Brackets that matched still match where each
clause had as many of either kind.
-/

namespace QueryBridge.Metabase
open Text

theorem ClauseFree.append {t u : Text} (hu : ClauseFree u)
    (ht : ∀ p q, p ++ '[' :: q = t → skip q ≠ [] ∧ (skip q).head? ≠ some '[') :
    ClauseFree (t ++ u) := by
  rintro c hc ⟨a, b, hs⟩
  rw [List.append_assoc] at hs
  obtain ⟨v, rfl, hv⟩ | ⟨v, rfl, hv⟩ := List.append_eq_append_iff.1 hs
  · cases v with
    | nil => exact hu c hc ⟨[], b, by simpa using hv⟩
    | cons x q =>
      rw [Clause.written_eq] at hv
      simp only [List.cons_append, List.append_assoc, List.cons.injEq] at hv
      obtain ⟨rfl, hv⟩ := hv
      obtain ⟨hne, hhead⟩ := ht a q rfl
      have hskip := congrArg skip hv
      rw [skip_append_of_skip_ne_nil hne, Blanks.skip_append ⟨c.openGap, hc.openGap⟩,
        skip_of_head rfl] at hskip
      refine absurd ?_ hhead
      rw [← List.head?_append_of_ne_nil _ hne, ← hskip]
      rfl
  · exact hu c hc ⟨v, b, by rw [List.append_assoc, hv]⟩

theorem clauseFree_render {s : Text} {d : Dissection Clause} (h : Clause.recognizer.Scan s d) :
    ClauseFree (d.render fun _ => []) := by
  induction h with
  | rest passed => exact clauseFree_of_passes passed
  | @hit t s rest c parts passed read tail ih =>
    rw [Dissection.render_cons, List.nil_append]
    refine ih.append fun p q ht => ?_
    have hc := (Clause.spaced_of_read read).1
    have hnext := head?_skip_ne_of_passes hc passed ht
    rw [Clause.skip_append_written] at hnext
    have hne : skip q ≠ [] := by
      intro hnil
      rw [hnil, Clause.written_eq] at hnext
      exact hnext rfl
    exact ⟨hne, by rwa [List.head?_append_of_ne_nil _ hne] at hnext⟩

theorem ClauseFree.replace_eq_self {s : Text} (h : ClauseFree s) (f : Clause → Text) :
    Clause.recognizer.replace f s = s :=
  Clause.recognizer.replace_eq_self f fun _ _ hpq _ => h.read_eq_none hpq

/-- One removal leaves no clause, so another one, or a reduction to bodies, changes nothing. Nor does
the first one where there is no clause, and only there. -/
theorem clauseFree_removeClauses (s : Text) : ClauseFree (removeClauses s) ∧
    removeClauses (removeClauses s) = removeClauses s ∧
    stripClauses (removeClauses s) = removeClauses s ∧
    (removeClauses s = s ↔ ClauseFree s) := by
  obtain ⟨d, hd⟩ := Clause.recognizer.exists_scan s
  have hfree : ClauseFree (removeClauses s) := by
    rw [removeClauses, hd.replace_eq]
    exact clauseFree_render hd
  exact ⟨hfree, hfree.replace_eq_self _, hfree.replace_eq_self _, fun hsame => hsame ▸ hfree,
    fun h => h.replace_eq_self _⟩

def Clause.Matched (c : Clause) : Prop :=
  c.body.count '[' = c.body.count ']'

instance : DecidablePred Clause.Matched := fun c =>
  inferInstanceAs (Decidable (c.body.count '[' = c.body.count ']'))

theorem Clause.Matched.openAfter_eq {c : Clause} (h : c.Matched) (hc : c.Spaced) {n m : Nat}
    (hn : openAfter c.written n = some m) : m = n := by
  have hcount := count_of_openAfter hn
  have hbody : c.body.count '[' = c.body.count ']' := h
  rw [hc.count_written ']', hc.count_written '[', if_pos (.inr rfl), if_pos (.inl rfl),
    hbody] at hcount
  omega

theorem openAfter_render {s : Text} {d : Dissection Clause} (h : Clause.recognizer.Scan s d)
    (hmatched : ∀ c ∈ d.hits, c.Matched) {n m : Nat} (hs : openAfter s n = some m) :
    openAfter (d.render fun _ => []) n = some m := by
  induction h generalizing n with
  | rest passed => exact hs
  | @hit t s rest c parts passed read tail ih =>
    rw [openAfter_append, Option.bind_eq_some_iff] at hs
    obtain ⟨k, ht, hs⟩ := hs
    rw [openAfter_append, Option.bind_eq_some_iff] at hs
    obtain ⟨k', hc, hs⟩ := hs
    have hk : k' = k := (hmatched c (by simp)).openAfter_eq (Clause.spaced_of_read read).1 hc
    rw [Dissection.render_cons, List.nil_append, openAfter_append, ht, Option.bind_some]
    exact ih (fun c' hc' => hmatched c' (by simp [hc'])) (hk ▸ hs)

theorem count_flatMap_body_le {cs : List Clause}
    (hle : ∀ c ∈ cs, c.body.count ']' ≤ c.body.count '[') :
    (cs.flatMap Clause.body).count ']' ≤ (cs.flatMap Clause.body).count '[' := by
  simp only [List.count_flatMap]
  exact List.sum_le_sum hle

theorem matched_of_count_eq {cs : List Clause}
    (hle : ∀ c ∈ cs, c.body.count ']' ≤ c.body.count '[')
    (hsum : (cs.flatMap Clause.body).count '[' = (cs.flatMap Clause.body).count ']') :
    ∀ c ∈ cs, c.Matched := by
  induction cs with
  | nil => simp
  | cons c cs ih =>
    have hc := hle c (by simp)
    have htail := fun c' hc' => hle c' (List.mem_cons_of_mem c hc')
    have hcs := count_flatMap_body_le htail
    simp only [List.flatMap_cons, List.count_append] at hsum
    have hmatched : c.Matched := by
      unfold Clause.Matched
      omega
    intro c' hc'
    cases List.mem_cons.1 hc' with
    | inl h => exact h ▸ hmatched
    | inr h => exact ih htail (by omega) c' h

/-- A clause ends at the first closing pair, be another bracket open there or not. So brackets that
matched still match where each body had as many of either kind, and only there if none had more
closing ones. -/
theorem balanced_removeClauses {s : Text} (hs : Balanced s) :
    ((∀ c ∈ clauses s, c.Matched) → Balanced (removeClauses s)) ∧
      (Balanced (removeClauses s) → (∀ c ∈ clauses s, c.body.count ']' ≤ c.body.count '[') →
        ∀ c ∈ clauses s, c.Matched) := by
  obtain ⟨d, hd⟩ := Clause.recognizer.exists_scan s
  have hclauses : clauses s = d.hits := hd.hits_eq
  have hremove : removeClauses s = d.render fun _ => [] := hd.replace_eq _
  rw [hclauses, hremove]
  refine ⟨fun hmatched => balanced_iff.2 (openAfter_render hd hmatched (balanced_iff.1 hs)),
    fun hrest hle => matched_of_count_eq hle ?_⟩
  have hcount (x : Char) (hx : x = '[' ∨ x = ']') : s.count x =
      (d.render fun _ => []).count x + ((d.hits.flatMap Clause.body).count x +
        2 * d.hits.length) := by
    have h := d.count_render Clause.written x
    rwa [(delimits_of_scan hd).text, Clause.count_flatMap_written (delimits_of_scan hd).spaced,
      if_pos hx] at h
  have hopen := hcount '[' (.inl rfl)
  have hclose := hcount ']' (.inr rfl)
  have hall := hs.count_eq
  have hkept := hrest.count_eq
  omega

theorem balanced_removeClauses_elementQuery :
    Balanced "select a[1] from t where true [[and b[{{i}}] = 2]]".toList ∧
      Balanced (removeClauses "select a[1] from t where true [[and b[{{i}}] = 2]]".toList) :=
  ⟨by decide, (balanced_removeClauses (by decide)).1 (by decide +kernel)⟩

/-- The bracket of an array element right before the closing pair is taken for its first half. -/
theorem not_balanced_removeClauses_lastElementQuery :
    Balanced "select a from t where true [[and b = c[1]]]".toList ∧
      ¬Balanced (removeClauses "select a from t where true [[and b = c[1]]]".toList) :=
  ⟨by decide, by decide +kernel⟩

end QueryBridge.Metabase
