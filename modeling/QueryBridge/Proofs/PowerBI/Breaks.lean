import Mathlib.Data.List.Infix
import QueryBridge.Proofs.PowerBI.Unmarking

/-!
Marking and unmarking as inverses. Unmarking what was marked gives the text back where it had no
mark of its own; marking what was unmarked gives it back where its breaks stood as marks in lower
case and no tab did.
-/

namespace QueryBridge.PowerBI
open Text

/-- Line breaks stand in the text as marks in lower case only, and no tab stands as a mark. -/
structure BreaksMarked (t : Text) : Prop where
  lineFeed : '\n' ∉ t
  carriageReturn : '\r' ∉ t
  tab : withinCaseless tabMark t = false
  lower : ∀ m ∈ [lineFeedMark, carriageReturnMark], ∀ v : Text,
    v.map fold = m.map fold → v <:+: t → v = m

def writeMark (x : Char) (m : Text) (c : Char) : Text :=
  if c = x then m else [c]

theorem markBreaks_eq (s : Text) : markBreaks s =
    (s.flatMap (writeMark '\r' carriageReturnMark)).flatMap (writeMark '\n' lineFeedMark) := by
  rw [markBreaks, List.flatMap_assoc]
  refine List.flatMap_congr fun c _ => ?_
  by_cases hr : c = '\r'
  · subst hr
    rfl
  · by_cases hn : c = '\n' <;> simp [writeMark, hr, hn]

theorem markBreaks_cons (c : Char) (s : Text) :
    markBreaks (c :: s) = markBreaks [c] ++ markBreaks s := by
  simp [markBreaks]

theorem markBreaks_singleton (c : Char) :
    markBreaks [c] ∈ [lineFeedMark, carriageReturnMark] ∨ markBreaks [c] = [c] := by
  by_cases hn : c = '\n'
  · subst hn
    exact .inl (by decide)
  · by_cases hr : c = '\r'
    · subst hr
      exact .inl (by decide)
    · exact .inr (by simp [markBreaks, hn, hr])

theorem not_mem_markBreaks {x : Char} (hx : markBreaks [x] ≠ [x])
    (hmarks : ∀ m ∈ [lineFeedMark, carriageReturnMark], x ∉ m) (s : Text) : x ∉ markBreaks s := by
  induction s with
  | nil => simp [markBreaks]
  | cons c s ih =>
    rw [markBreaks_cons, List.mem_append, not_or]
    refine ⟨fun h => ?_, ih⟩
    cases markBreaks_singleton c with
    | inl hmark => exact hmarks _ hmark h
    | inr hplain =>
      rw [hplain, List.mem_singleton] at h
      exact hx (h ▸ hplain)

theorem exists_mem_marks {m : Text} (hm : m ∈ [lineFeedMark, carriageReturnMark]) :
    ∃ x, (x, m) ∈ marks := by
  cases List.mem_pair.1 hm with
  | inl h => exact ⟨'\n', by simp [marks, h]⟩
  | inr h => exact ⟨'\r', by simp [marks, h]⟩

theorem eq_of_isPrefix_mark_append {m m' : Text} (hm : m ∈ marks.map Prod.snd)
    (hm' : m' ∈ [lineFeedMark, carriageReturnMark]) {v u : Text} (hv : v.map fold = m.map fold)
    (h : v <+: m' ++ u) : v = m' := by
  have hapart : ∀ m ∈ marks.map Prod.snd, ∀ m' ∈ [lineFeedMark, carriageReturnMark],
      m.map fold <+: m'.map fold ∨ m'.map fold <+: m.map fold → m = m' := by decide
  have hsame : m = m' := by
    refine hapart m hm m' hm' ?_
    rw [← hv]
    exact (List.prefix_or_prefix_of_prefix h (List.prefix_append m' u)).imp
      (fun h => h.map fold) (fun h => h.map fold)
  have hlength : v.length = m'.length := by simpa [hsame] using congrArg List.length hv
  obtain ⟨w, hw⟩ := h
  exact List.append_inj_left hw hlength

theorem isPrefix_of_isPrefix_markBreaks {s v : Text} (hv : ∀ c ∈ v, fold c ≠ '#')
    (h : v <+: markBreaks s) : v <+: s := by
  obtain ⟨u, hu⟩ := h
  have hread : spelling? v (markBreaks s) = some (v, u) := hu ▸ spelling?_append rfl u
  exact (marked_markBreaks s).isPrefix_of_spelling markShape_of_mem hv hread

theorem mem_of_isInfix_markBreaks {s : Text} (hs : Unmarked s) {x : Char} {m : Text}
    (hm : (x, m) ∈ marks) {v : Text} (hv : v.map fold = m.map fold) (h : v <:+: markBreaks s) :
    v ∈ [lineFeedMark, carriageReturnMark] := by
  obtain ⟨d, r, rfl, hd, hr⟩ := (markShape_of_mem _ hm).exists_cons hv
  induction s with
  | nil => simp [markBreaks] at h
  | cons c s ih =>
    have ih := ih fun y hy => withinCaseless_of_cons (hs y hy)
    rw [markBreaks_cons] at h
    cases markBreaks_singleton c with
    | inl hmark =>
      obtain ⟨y, hy⟩ := exists_mem_marks hmark
      obtain ⟨e, a, ha, -, hrest⟩ := (markShape_of_mem _ hy).exists_cons rfl
      dsimp only at ha
      rw [ha, List.cons_append, List.infix_cons_iff, ← List.cons_append, ← ha] at h
      cases h with
      | inl h =>
        rw [eq_of_isPrefix_mark_append (List.mem_map_of_mem hm) hmark hv h]
        exact hmark
      | inr h => exact ih (isInfix_of_cons_isInfix_append (fun hda => hrest d hda hd) h)
    | inr hplain =>
      rw [hplain, List.singleton_append, List.infix_cons_iff] at h
      cases h with
      | inr h => exact ih h
      | inl h =>
        obtain ⟨rfl, htail⟩ := List.cons_prefix_cons.1 h
        have hprefix := isPrefix_of_isPrefix_markBreaks hr htail
        have hinfix : d :: r <:+: d :: s := (List.cons_prefix_cons.2 ⟨rfl, hprefix⟩).isInfix
        have hwithin := withinCaseless_iff.2 ⟨_, hv, hinfix⟩
        rw [hs (x, m) hm] at hwithin
        simp at hwithin

theorem breaksMarked_markBreaks {s : Text} (hs : Unmarked s) : BreaksMarked (markBreaks s) where
  lineFeed := not_mem_markBreaks (by decide) (by decide) s
  carriageReturn := not_mem_markBreaks (by decide) (by decide) s
  tab := by
    have hother : ∀ v ∈ [lineFeedMark, carriageReturnMark], v.map fold ≠ tabMark.map fold := by
      decide
    have htab : ('\t', tabMark) ∈ marks := by simp [marks]
    rw [withinCaseless_eq_false_iff]
    intro v hv h
    exact hother v (mem_of_isInfix_markBreaks hs htab hv h) hv
  lower m hm v hv h := by
    have hapart : ∀ v ∈ [lineFeedMark, carriageReturnMark],
        ∀ m ∈ [lineFeedMark, carriageReturnMark], v.map fold = m.map fold → v = m := by decide
    obtain ⟨x, hx⟩ := exists_mem_marks hm
    exact hapart v (mem_of_isInfix_markBreaks hs hx hv h) m hm hv

theorem flatMap_writeMark_replace {x : Char} {m t : Text} (hm : m ≠ []) (hx : x ∉ t)
    (hlower : ∀ v : Text, v.map fold = m.map fold → v <:+: t → v = m) :
    ((Recognizer.caseless m hm).replace (fun _ => [x]) t).flatMap (writeMark x m) = t := by
  refine Recognizer.flatMap_replace _ (fun v hv => ?_) fun c hc => ?_
  · obtain ⟨s, rest, hread⟩ := Recognizer.exists_read_of_mem_hits _ hv
    have hinfix := Recognizer.written_isInfix_of_mem_hits _ hv
    have hsame : v = m := hlower v (spelling?_eq_some hread).2 hinfix
    rw [List.flatMap_singleton, writeMark, if_pos rfl]
    exact hsame.symm
  · have hne : c ≠ x := fun h => hx (h ▸ hc)
    rw [writeMark, if_neg hne]

theorem markBreaks_unmark {t : Text} (h : BreaksMarked t) : markBreaks (unmark t) = t := by
  have hfeeds : (unmarkLineFeeds t).flatMap (writeMark '\n' lineFeedMark) = t :=
    flatMap_writeMark_replace _ h.lineFeed (h.lower _ (by simp))
  have hreturns : (unmarkCarriageReturns (unmarkLineFeeds t)).flatMap
      (writeMark '\r' carriageReturnMark) = unmarkLineFeeds t := by
    refine flatMap_writeMark_replace _ (fun hr => ?_) fun v hv hinfix => ?_
    · rw [← List.singleton_infix_iff] at hr
      have hbefore : ['\r'] <:+: t := Recognizer.isInfix_of_replace _ (by decide) hr
      exact h.carriageReturn ((List.singleton_infix_iff _ _).1 hbefore)
    · have hfeed : '\n' ∉ v := by
        intro hmem
        have hfold := List.mem_map_of_mem (f := fold) hmem
        rw [hv] at hfold
        exact absurd hfold (by decide)
      exact h.lower _ (by simp) v hv (Recognizer.isInfix_of_replace _ hfeed hinfix)
  have htabs : unmark t = unmarkCarriageReturns (unmarkLineFeeds t) :=
    Recognizer.caseless_replace_eq_self _ _ (Recognizer.withinCaseless_replace _ (by decide)
      (Recognizer.withinCaseless_replace _ (by decide) h.tab))
  rw [markBreaks_eq, htabs, hreturns, hfeeds]

/-- Unmarking undoes marking on the texts that have no mark of their own, and marking undoes
unmarking on those whose breaks are all marked in lower case and no tab is. -/
theorem unmark_markBreaks_and_markBreaks_unmark :
    (∀ s, unmark (markBreaks s) = s ↔ Unmarked s) ∧
      ∀ t, markBreaks (unmark t) = t ↔ BreaksMarked t := by
  refine ⟨fun s => ⟨fun h => ?_, unmark_of_marked (marked_markBreaks s)⟩,
    fun t => ⟨fun h => ?_, markBreaks_unmark⟩⟩
  · rw [← h]
    exact unmarked_unmark _
  · rw [← h]
    exact breaksMarked_markBreaks (unmarked_unmark t)

end QueryBridge.PowerBI
