import QueryBridge.Proofs.PowerBI.Marking

/-!
Turning marks back leaves none. What a mark is replaced by is in no mark, so none can form around
it, neither of the same kind nor of one that has been looked for before.
-/

namespace QueryBridge.Text.Recognizer

variable {μ : Type} (r : Recognizer μ)

theorem isPrefix_of_replace {x : Char} {v s : Text} (hx : x ∉ v)
    (h : v <+: r.replace (fun _ => [x]) s) : v <+: s := by
  induction s using r.scan_induction generalizing v with
  | nil => simpa using h
  | hit s m rest hr ih =>
    rw [r.replace_of_read _ hr] at h
    cases v with
    | nil => exact List.nil_prefix
    | cons c v =>
      obtain rfl := (List.cons_prefix_cons.1 h).1
      simp at hx
  | plain c s hr ih =>
    rw [r.replace_cons _ hr] at h
    cases v with
    | nil => exact List.nil_prefix
    | cons d v =>
      obtain ⟨rfl, htail⟩ := List.cons_prefix_cons.1 h
      have hv := ih (fun hm => hx (List.mem_cons_of_mem d hm)) htail
      exact List.cons_prefix_cons.2 ⟨rfl, hv⟩

theorem isInfix_of_replace {x : Char} {v s : Text} (hx : x ∉ v)
    (h : v <:+: r.replace (fun _ => [x]) s) : v <:+: s := by
  induction s using r.scan_induction with
  | nil => simpa using h
  | hit s m rest hr ih =>
    rw [r.replace_of_read _ hr, List.singleton_append, isInfix_cons_iff_of_not_mem hx] at h
    have hrest : rest <:+ s := ⟨r.written m, r.written_append hr⟩
    exact (ih h).trans hrest.isInfix
  | plain c s hr ih =>
    have hreplace := r.replace_cons (fun _ => [x]) hr
    rw [hreplace] at h
    cases List.infix_cons_iff.1 h with
    | inl h =>
      rw [← hreplace] at h
      exact (r.isPrefix_of_replace hx h).isInfix
    | inr h => exact List.infix_cons (ih h)

/-- A word that was not there does not form around the letter. -/
theorem withinCaseless_replace {x : Char} {w s : Text} (hx : fold x ∉ w.map fold)
    (h : withinCaseless w s = false) :
    withinCaseless w (r.replace (fun _ => [x]) s) = false := by
  rw [withinCaseless_eq_false_iff] at h ⊢
  intro v hv hinfix
  have hxv : x ∉ v := fun hm => hx (hv ▸ List.mem_map_of_mem hm)
  exact h v hv (r.isInfix_of_replace hxv hinfix)

theorem caseless_replace_eq_self {w s : Text} (hw : w ≠ []) (f : Text → Text)
    (h : withinCaseless w s = false) : (caseless w hw).replace f s = s := by
  refine replace_eq_self _ f fun p q hpq hq => ?_
  cases hread : (caseless w hw).read q with
  | none => rfl
  | some x =>
    have hwithin : withinCaseless w s = true :=
      occurs_iff.2 ⟨p, q, hpq, Option.isSome_iff_exists.2 ⟨x, hread⟩⟩
    simp [h] at hwithin

theorem withinCaseless_replace_self {x : Char} {w : Text} (hw : w ≠ []) (hx : fold x ∉ w.map fold)
    (s : Text) : withinCaseless w ((caseless w hw).replace (fun _ => [x]) s) = false := by
  rw [withinCaseless_eq_false_iff]
  intro v hv
  have hxv : x ∉ v := fun hm => hx (hv ▸ List.mem_map_of_mem hm)
  induction s using (caseless w hw).scan_induction with
  | nil =>
    intro h
    rw [replace_nil, List.infix_nil] at h
    rw [h, List.map_nil, eq_comm, List.map_eq_nil_iff] at hv
    exact hw hv
  | hit s m rest hr ih =>
    rw [replace_of_read _ _ hr, List.singleton_append, isInfix_cons_iff_of_not_mem hxv]
    exact ih
  | plain c s hr ih =>
    intro h
    have hreplace := (caseless w hw).replace_cons (fun _ => [x]) hr
    rw [hreplace] at h
    cases List.infix_cons_iff.1 h with
    | inr h => exact ih h
    -- read at this place before the replacement as well
    | inl h =>
      rw [← hreplace] at h
      obtain ⟨t, ht⟩ := (caseless w hw).isPrefix_of_replace hxv h
      have hread : (caseless w hw).read (c :: s) = some (v, t) := ht ▸ spelling?_append hv t
      rw [hr] at hread
      simp at hread

end QueryBridge.Text.Recognizer

namespace QueryBridge.PowerBI
open Text

theorem unmarked_unmark (s : Text) : Unmarked (unmark s) := by
  have hfeed (u : Text) : withinCaseless lineFeedMark (unmarkLineFeeds u) = false :=
    Recognizer.withinCaseless_replace_self _ (by decide) u
  have hreturn (u : Text) : withinCaseless carriageReturnMark (unmarkCarriageReturns u) = false :=
    Recognizer.withinCaseless_replace_self _ (by decide) u
  have htab (u : Text) : withinCaseless tabMark (unmarkTabs u) = false :=
    Recognizer.withinCaseless_replace_self _ (by decide) u
  have hkeep₁ {m u : Text} (hm : fold '\r' ∉ m.map fold) (h : withinCaseless m u = false) :
      withinCaseless m (unmarkCarriageReturns u) = false :=
    Recognizer.withinCaseless_replace _ hm h
  have hkeep₂ {m u : Text} (hm : fold '\t' ∉ m.map fold) (h : withinCaseless m u = false) :
      withinCaseless m (unmarkTabs u) = false :=
    Recognizer.withinCaseless_replace _ hm h
  intro x hx
  simp only [marks, List.mem_cons, List.not_mem_nil, or_false] at hx
  obtain rfl | rfl | rfl := hx
  · exact hkeep₂ (by decide) (hkeep₁ (by decide) (hfeed s))
  · exact hkeep₂ (by decide) (hreturn _)
  · exact htab _

end QueryBridge.PowerBI
