import Mathlib.Data.List.Infix
import QueryBridge.Proofs.PowerBI.Spelling

/-!
What a generated query is taken for. Its wrapper brings the call along and nothing else that a
dialect is known by, so it depends on what the stages leave of the query: a line break must have
been marked, and no doubled bracket may have stayed.
-/

namespace QueryBridge.PowerBI
open Text Metabase

def rewritten (s : Settings) (q : Text) : Text :=
  tokensHandled s (clausesHandled s (doubleQuotes q))

theorem draft_text (s : Settings) (q : Text) : (draft s q).text = finished s (rewritten s q) := by
  rw [draft_doubleQuotes, rewritten]

theorem isInfix_finished (s : Settings) {v t : Text} (h : v <:+: t) :
    finished s v <:+: finished s t := by
  obtain ⟨a, b, rfl⟩ := h
  refine ⟨finished s a, finished s b, ?_⟩
  simp only [finished, List.flatMap_append]

theorem finished_of_disjoint (s : Settings) {v : Text} (h : List.Disjoint v ['\n', '\r', '\t']) :
    finished s v = v := by
  have hchar : ∀ c ∈ v, (markChar s c).flatMap (spaceChar s) = [c] := by
    intro c hc
    have hne : ¬(c = '\n' ∨ c = '\r' ∨ c = '\t') := by simpa using h hc
    simp only [not_or] at hne
    simp [markChar, spaceChar, hne]
  rw [finished, List.flatMap_assoc, List.flatMap_congr hchar, List.flatMap_singleton']

theorem isInfix_rewritten {s : Settings} {q n : Text} (h : n ∈ (draft s q).parameters.names) :
    n <:+: rewritten s q := by
  obtain ⟨htokens, t, ht, rfl⟩ := exists_token_of_mem_names h
  have hreference : '@' :: t.name <:+: rewritten s q := by
    rw [rewritten, tokensHandled, if_pos htokens]
    exact Metabase.Token.recognizer.isInfix_replace (fun t => '@' :: t.name) ht
  exact (List.suffix_cons '@' t.name).isInfix.trans hreference

theorem Wrapper.Foreign.isInfix_query_iff {v : Text} (hv : Wrapper.Foreign v) (s : Settings)
    (q : Text) :
    v <:+: query s q ↔ ∃ t ∈ [(draft s q).text, s.host, s.database], v <:+: t := by
  simp only [List.mem_cons, List.not_mem_nil, or_false, exists_eq_or_imp, exists_eq_left]
  constructor
  · intro h
    obtain h | h | h | ⟨n, hn, h⟩ := hv.of_isInfix_text h
    · exact .inl h
    · exact .inr (.inl h)
    · exact .inr (.inr h)
    -- a name is in the wrapper because it is in the body
    · have hkept : finished s v = v :=
        finished_of_disjoint s (List.disjoint_of_subset_right (by decide) hv.disjoint)
      rw [draft_text, ← hkept]
      exact .inl (isInfix_finished s (h.trans (isInfix_rewritten hn)))
  · rintro (h | h | h)
    · exact h.trans (Wrapper.isInfix_text _ _ _)
    · exact h.trans (Wrapper.host_isInfix_text _ _ _)
    · exact h.trans (Wrapper.database_isInfix_text _ _ _)

def hasBreakMark (t : Text) : Bool :=
  withinCaseless lineFeedMark t || withinCaseless carriageReturnMark t

theorem hasBreakMark_iff {t : Text} : hasBreakMark t = true ↔
    ∃ m ∈ [lineFeedMark, carriageReturnMark], ∃ v, v.map fold = m.map fold ∧ v <:+: t := by
  simp [hasBreakMark, withinCaseless_iff]

theorem hasBreakMark_mono {t u : Text} (h : t <:+: u) (ht : hasBreakMark t = true) :
    hasBreakMark u = true := by
  unfold hasBreakMark at ht ⊢
  rw [Bool.or_eq_true] at ht ⊢
  exact ht.imp (withinCaseless_mono h) (withinCaseless_mono h)

theorem hasBreakMark_finished {s : Settings} (hmarks : s.markBreaks = true) {t : Text}
    (h : '\n' ∈ t ∨ '\r' ∈ t) : hasBreakMark (finished s t) = true := by
  have hfeed : finished s ['\n'] = lineFeedMark := by
    unfold finished markChar spaceChar
    rw [hmarks]
    cases s.useSpaces <;> rfl
  have hreturn : finished s ['\r'] = carriageReturnMark := by
    unfold finished markChar spaceChar
    rw [hmarks]
    cases s.useSpaces <;> rfl
  have hkept {c : Char} (hc : c ∈ t) : finished s [c] <:+: finished s t :=
    isInfix_finished s ((List.singleton_infix_iff c t).2 hc)
  rw [hasBreakMark_iff]
  cases h with
  | inl h => exact ⟨lineFeedMark, by simp, lineFeedMark, rfl, hfeed ▸ hkept h⟩
  | inr h => exact ⟨carriageReturnMark, by simp, carriageReturnMark, rfl, hreturn ▸ hkept h⟩

/-- The wrapper brings the call, and marks come only from what is put into it. -/
theorem hasPowerBIMarks_query (s : Settings) (q : Text) : Dialect.hasPowerBIMarks (query s q) =
    [(draft s q).text, s.host, s.database].any hasBreakMark := by
  have hmarks : Dialect.hasPowerBIMarks (query s q) = hasBreakMark (query s q) := by
    rw [Dialect.hasPowerBIMarks, query, Wrapper.call_within_text, Bool.and_true, hasBreakMark]
  rw [hmarks, Bool.eq_iff_iff, List.any_eq_true]
  simp only [hasBreakMark_iff]
  constructor
  · rintro ⟨m, hm, v, hv, h⟩
    obtain ⟨t, ht, h⟩ := ((Wrapper.foreign_break hm hv).isInfix_query_iff s q).1 h
    exact ⟨t, ht, m, hm, v, hv, h⟩
  · rintro ⟨t, ht, m, hm, v, hv, h⟩
    exact ⟨m, hm, v, hv, ((Wrapper.foreign_break hm hv).isInfix_query_iff s q).2 ⟨t, ht, h⟩⟩

theorem hasMetabaseMarks_query {s : Settings} (hhost : List.Disjoint s.host Wrapper.brackets)
    (hdatabase : List.Disjoint s.database Wrapper.brackets) (q : Text) :
    Dialect.hasMetabaseMarks (query s q) = Dialect.hasMetabaseMarks (draft s q).text := by
  rw [Bool.eq_iff_iff, Wrapper.hasMetabaseMarks_iff, Wrapper.hasMetabaseMarks_iff]
  refine exists_congr fun b => and_congr_right fun hb => ?_
  have hmem {t : Text} (ht : [b, b] <:+: t) : b ∈ t := ht.subset (by simp)
  rw [(Wrapper.foreign_pair hb).isInfix_query_iff]
  constructor
  · rintro ⟨t, ht, h⟩
    simp only [List.mem_cons, List.not_mem_nil, or_false] at ht
    obtain rfl | rfl | rfl := ht
    · exact h
    · exact absurd hb (hhost (hmem h))
    · exact absurd hb (hdatabase (hmem h))
  · exact fun h => ⟨(draft s q).text, by simp, h⟩

def keywords : List Text :=
  ["select".toList, "from".toList]

theorem isWord_of_mem_keyword : ∀ w ∈ keywords, ∀ c ∈ w.map fold, isWord c = true := by
  decide

theorem hasStatement_of_keywords {t u : Text}
    (h : ∀ w ∈ keywords, withinCaseless w t = true → withinCaseless w u = true)
    (ht : Dialect.hasStatement t = true) : Dialect.hasStatement u = true := by
  unfold Dialect.hasStatement at ht ⊢
  rw [Bool.or_eq_true] at ht ⊢
  exact ht.imp (h _ (by simp [keywords])) (h _ (by simp [keywords]))

theorem hasStatement_query {s : Settings} {q : Text}
    (h : Dialect.hasStatement (draft s q).text = true) :
    Dialect.hasStatement (query s q) = true := by
  have hbody : (draft s q).text <:+: query s q := Wrapper.isInfix_text _ _ _
  exact hasStatement_of_keywords (fun _ _ => withinCaseless_mono hbody) h

/-- A generated query is recognized just where a line break was marked, or a mark was there before,
and no doubled bracket has stayed. -/
theorem ofQuery_ofMetabase_iff {s : Settings} (hmarks : s.markBreaks = true)
    (hhost : List.Disjoint s.host Wrapper.brackets)
    (hdatabase : List.Disjoint s.database Wrapper.brackets) (q : Text) (j : Journal)
    (hstatement : Dialect.hasStatement ((ofMetabase s q).run j).1 = true) :
    Dialect.ofQuery ((ofMetabase s q).run j).1 = .ok .powerBI ↔
      ('\n' ∈ rewritten s q ∨ '\r' ∈ rewritten s q ∨
        ∃ t ∈ [(draft s q).text, s.host, s.database], hasBreakMark t = true) ∧
      Dialect.hasMetabaseMarks (draft s q).text = false := by
  have hbreak : ('\n' ∈ rewritten s q ∨ '\r' ∈ rewritten s q ∨
      ∃ t ∈ [(draft s q).text, s.host, s.database], hasBreakMark t = true) ↔
        Dialect.hasPowerBIMarks (query s q) = true := by
    rw [hasPowerBIMarks_query, List.any_eq_true, ← or_assoc]
    refine or_iff_right_of_imp fun h => ⟨(draft s q).text, by simp, ?_⟩
    rw [draft_text]
    exact hasBreakMark_finished hmarks h
  rw [run_ofMetabase_fst] at hstatement ⊢
  rw [hbreak, ← hasMetabaseMarks_query hhost hdatabase, Dialect.ofQuery, if_pos hstatement]
  cases Dialect.hasPowerBIMarks (query s q) <;> cases Dialect.hasMetabaseMarks (query s q) <;> simp

theorem default_disjoint_brackets : List.Disjoint ({} : Settings).host Wrapper.brackets ∧
    List.Disjoint ({} : Settings).database Wrapper.brackets := by
  decide

def arrayQuery : Text :=
  "from t\n[[where a[1] = \x7b\x7b x \x7d\x7d]]".toList

theorem rewritten_arrayQuery : rewritten {} arrayQuery = "from t\nwhere a[1] = @x".toList := by
  decide +kernel

theorem ofQuery_ofMetabase_arrayQuery :
    List.Disjoint ({} : Settings).host Wrapper.brackets ∧
      List.Disjoint ({} : Settings).database Wrapper.brackets ∧
      Dialect.hasStatement ((ofMetabase {} arrayQuery).run .capture).1 = true ∧
      Dialect.ofQuery ((ofMetabase {} arrayQuery).run .capture).1 = .ok .powerBI := by
  obtain ⟨hhost, hdatabase⟩ := default_disjoint_brackets
  have hstatement : Dialect.hasStatement ((ofMetabase {} arrayQuery).run .capture).1 = true := by
    rw [run_ofMetabase_fst]
    refine hasStatement_query ?_
    rw [draft_text, rewritten_arrayQuery]
    decide +kernel
  refine ⟨hhost, hdatabase, hstatement, ?_⟩
  rw [ofQuery_ofMetabase_iff rfl hhost hdatabase arrayQuery .capture hstatement, draft_text,
    rewritten_arrayQuery]
  exact ⟨.inl (by decide +kernel), by decide +kernel⟩

def oneLineQuery : Text :=
  "select * from \x7b\x7bt\x7d\x7d".toList

def strayBracketQuery : Text :=
  "select *\nfrom t]]".toList

/-- A query on one line loses the marks of its dialect and gets none of the other; one with a
bracket pair that closes nothing ends up with those of both. -/
theorem ofQuery_ofMetabase_oneLineQuery :
    (({} : Settings).replaceTokens = true ∧ ({} : Settings).markBreaks = true ∧
      ({} : Settings).stripClauses = true ∧
      List.Disjoint ({} : Settings).host ['"', '\'', '{', '}', '[', ']'] ∧
      List.Disjoint ({} : Settings).database ['"', '\'', '{', '}', '[', ']']) ∧
    (Dialect.ofQuery oneLineQuery = .ok .metabase ∧
      ∀ j, Dialect.hasStatement ((ofMetabase {} oneLineQuery).run j).1 = true ∧
        Dialect.ofQuery ((ofMetabase {} oneLineQuery).run j).1 = .error (.ambiguous .neither)) ∧
    (Dialect.ofQuery strayBracketQuery = .ok .metabase ∧
      ∀ j, Dialect.hasStatement ((ofMetabase {} strayBracketQuery).run j).1 = true ∧
        Dialect.ofQuery ((ofMetabase {} strayBracketQuery).run j).1 =
          .error (.ambiguous .both)) := by
  have hsettings : List.Disjoint ({} : Settings).host ['"', '\'', '{', '}', '[', ']'] ∧
      List.Disjoint ({} : Settings).database ['"', '\'', '{', '}', '[', ']'] := by decide
  obtain ⟨hhost, hdatabase⟩ := default_disjoint_brackets
  have hline : (draft {} oneLineQuery).text = "select * from @t".toList := by decide +kernel
  have hstray : (draft {} strayBracketQuery).text = "select *#(lf)from t]]".toList := by
    decide +kernel
  have hbefore : Dialect.ofQuery oneLineQuery = .ok .metabase ∧
      Dialect.ofQuery strayBracketQuery = .ok .metabase := by decide +kernel
  refine ⟨⟨rfl, rfl, rfl, hsettings⟩, ⟨hbefore.1, fun j => ?_⟩, ⟨hbefore.2, fun j => ?_⟩⟩
  · have hstatement : Dialect.hasStatement (query {} oneLineQuery) = true :=
      hasStatement_query (by rw [hline]; decide +kernel)
    rw [run_ofMetabase_fst, Dialect.ofQuery, if_pos hstatement, hasPowerBIMarks_query,
      hasMetabaseMarks_query hhost hdatabase, hline]
    exact ⟨hstatement, by decide +kernel⟩
  · have hstatement : Dialect.hasStatement (query {} strayBracketQuery) = true :=
      hasStatement_query (by rw [hstray]; decide +kernel)
    rw [run_ofMetabase_fst, Dialect.ofQuery, if_pos hstatement, hasPowerBIMarks_query,
      hasMetabaseMarks_query hhost hdatabase, hstray]
    exact ⟨hstatement, by decide +kernel⟩

theorem hasStatement_translated {s : Settings} {gs : List Segment} {t : Text}
    (ht : .text t ∈ gs) (h : Dialect.hasStatement t = true) :
    Dialect.hasStatement (gs.flatMap (Segment.translated s)) = true := by
  have hspelled : spelled s t <:+: gs.flatMap (Segment.translated s) :=
    isInfix_flatMap (Segment.translated s) ht
  refine hasStatement_of_keywords (fun w hw hwithin => ?_) h
  exact withinCaseless_mono hspelled
    (withinCaseless_spelled s (isWord_of_mem_keyword w hw) hwithin)

theorem hasBreakMark_translated {s : Settings} (hmarks : s.markBreaks = true)
    {gs : List Segment} {t : Text} (ht : .text t ∈ gs) (hbreak : '\n' ∈ t ∨ '\r' ∈ t) :
    hasBreakMark (gs.flatMap (Segment.translated s)) = true := by
  have hspelled : spelled s t <:+: gs.flatMap (Segment.translated s) :=
    isInfix_flatMap (Segment.translated s) ht
  refine hasBreakMark_mono hspelled ?_
  rw [spelled_eq]
  exact hasBreakMark_finished hmarks (hbreak.imp mem_escape mem_escape)

theorem hasBreakMark_eq_false {t : Text} (h : '#' ∉ t) : hasBreakMark t = false := by
  have hnone : Unmarked [] := by decide
  have hunmarked : Unmarked t := by simpa using hnone.append h
  have hfeed := hunmarked ('\n', lineFeedMark) (by simp [marks])
  have hreturn := hunmarked ('\r', carriageReturnMark) (by simp [marks])
  simp [hasBreakMark, hfeed, hreturn]

theorem numberSign_not_mem_translated {s : Settings} (htokens : s.replaceTokens = true)
    {gs : List Segment} (h : ∀ t, .text t ∈ gs → List.Disjoint t ['#', '\n', '\r']) :
    '#' ∉ gs.flatMap (Segment.translated s) := by
  refine not_mem_translated htokens (by decide) (by decide) fun t ht c hc => ?_
  have hplain : c ∉ ['#', '\n', '\r'] := h t ht hc
  simp only [List.mem_cons, List.not_mem_nil, or_false, not_or] at hplain
  obtain ⟨hsign, hfeed, hreturn⟩ := hplain
  simp only [spellChar, hfeed, hreturn, false_and, if_false]
  split
  · decide
  · split
    · exact fun hspace => absurd (List.eq_of_mem_replicate hspace) (by decide)
    · simpa using Ne.symm hsign

theorem hasMetabaseMarks_translated {s : Settings} (htokens : s.replaceTokens = true)
    {gs : List Segment} (h : ∀ g ∈ gs, g.Lacks Wrapper.brackets) :
    Dialect.hasMetabaseMarks (gs.flatMap (Segment.translated s)) = false := by
  have hplain : ∀ b ∈ Wrapper.brackets, isWord b = false ∧ b ≠ '@' := by decide
  refine Wrapper.hasMetabaseMarks_eq_false fun b hb hpair => ?_
  refine not_mem_translated htokens (hplain b hb).1 (hplain b hb).2 (fun t ht c hc => ?_)
    (hpair.subset List.mem_cons_self)
  have hlacks : List.Disjoint t Wrapper.brackets := h (.text t) ht
  exact not_mem_spellChar s hb fun hcb => hlacks hc (hcb ▸ hb)

/-- With tokens replaced and clauses handled no bracket is left of a query of parts, so a line break
in a text that is kept decides: with one the generated query is recognized, and without one, and
without a number sign that could begin a mark, it has the marks of neither dialect. -/
theorem ofQuery_ofMetabase_parts {s : Settings} (hmarks : s.markBreaks = true)
    (htokens : s.replaceTokens = true) (hclauses : s.removeClauses = true ∨ s.stripClauses = true)
    (hhost : List.Disjoint s.host Wrapper.brackets)
    (hdatabase : List.Disjoint s.database Wrapper.brackets) {q : List Part}
    (htext : ∀ p ∈ q, p.Lacks Wrapper.brackets)
    (hquotes : ¬['"', '"'] <:+: q.flatMap Part.written)
    (hstatement : ∃ t, .text t ∈ q.flatMap (Part.kept s) ∧ Dialect.hasStatement t = true)
    (j : Journal) :
    ((∃ t, .text t ∈ q.flatMap (Part.kept s) ∧ ('\n' ∈ t ∨ '\r' ∈ t)) →
      Dialect.ofQuery ((ofMetabase s (q.flatMap Part.written)).run j).1 = .ok .powerBI) ∧
    ((∀ t, .text t ∈ q.flatMap (Part.kept s) → List.Disjoint t ['#', '\n', '\r']) →
      '#' ∉ s.host → '#' ∉ s.database →
      Dialect.ofQuery ((ofMetabase s (q.flatMap Part.written)).run j).1 =
        .error (.ambiguous .neither)) := by
  obtain ⟨t, ht, hkeyword⟩ := hstatement
  have hbody : (draft s (q.flatMap Part.written)).text =
      (q.flatMap (Part.kept s)).flatMap (Segment.translated s) := by
    rw [draft_parts htext hquotes, flatMap_kept_translated]
  have hsaid : Dialect.hasStatement (query s (q.flatMap Part.written)) = true :=
    hasStatement_query (hbody ▸ hasStatement_translated ht hkeyword)
  have hbrackets : Dialect.hasMetabaseMarks (query s (q.flatMap Part.written)) = false := by
    rw [hasMetabaseMarks_query hhost hdatabase, hbody]
    exact hasMetabaseMarks_translated htokens
      (kept_lacks (hclauses.imp_right .inl) htext)
  rw [run_ofMetabase_fst, Dialect.ofQuery, if_pos hsaid, hbrackets, hasPowerBIMarks_query, hbody]
  constructor
  · rintro ⟨u, hu, hbreak⟩
    rw [List.any_cons, hasBreakMark_translated hmarks hu hbreak, Bool.true_or]
  · intro hplain hhostSign hdatabaseSign
    have hsign := numberSign_not_mem_translated htokens hplain
    simp [hasBreakMark_eq_false hsign, hasBreakMark_eq_false hhostSign,
      hasBreakMark_eq_false hdatabaseSign]

end QueryBridge.PowerBI
