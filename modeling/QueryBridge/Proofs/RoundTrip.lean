import QueryBridge.Conversion
import QueryBridge.Proofs.Metabase.Returning
import QueryBridge.Proofs.PowerBI.Detection

/-!
Converting a query there and back. Main statement: a Metabase query goes to PowerBI, comes back
with its tokens written plainly, and goes to the same PowerBI query again.
-/

namespace QueryBridge
open Text Metabase PowerBI

/-- Settings and a query under which nothing is lost on the way to PowerBI and back. -/
structure Reversible (s : Settings) (gs : List Segment) : Prop where
  replaceTokens : s.replaceTokens = true
  replaceReferences : s.replaceReferences = true
  markBreaks : s.markBreaks = true
  host : List.Disjoint s.host ['"', '\'', '{', '}', '[', ']']
  database : List.Disjoint s.database ['"', '\'', '{', '}', '[', ']']
  lacks : ∀ g ∈ gs, g.Lacks ['{', '}', '@', '&']
  exists_token : ∃ before name after, .token before name after ∈ gs
  opening : ∀ b : Blanks, ¬('[' :: (b.text ++ ['['])) <:+: gs.flatMap Segment.written
  closing : ∀ b : Blanks, ¬(']' :: (b.text ++ [']'])) <:+: gs.flatMap Segment.written
  quotes : ¬['"', '"'] <:+: gs.flatMap Segment.written
  unmarked : Unmarked (gs.flatMap Segment.written)
  names_end : NamesEnd gs
  exists_break : ∃ t, .text t ∈ gs ∧ ('\n' ∈ t ∨ '\r' ∈ t)
  statement : Dialect.hasStatement (gs.flatMap Segment.written) = true
  tabs : s.useSpaces = false ∨ ∀ g ∈ gs, g.Lacks ['\t']

def wrapped (s : Settings) (gs : List Segment) : Text :=
  Wrapper.text s ⟨(gs.flatMap Segment.names).eraseDups⟩ (gs.flatMap (Segment.translated s))

theorem isWord_of_declared {gs : List Segment} {n : Text}
    (hn : n ∈ (gs.flatMap Segment.names).eraseDups) : ∀ c ∈ n, isWord c = true := by
  obtain ⟨g, -, hn⟩ := List.mem_flatMap.1 (List.mem_eraseDups.1 hn)
  cases g with
  | text t => simp [Segment.names] at hn
  | token before name after =>
    rw [List.mem_singleton.1 hn]
    exact name.isWord_of_mem

theorem wrapped_plain {s : Settings} (htokens : s.replaceTokens = true) (gs : List Segment) :
    wrapped s (gs.map Segment.plain) = wrapped s gs := by
  have hnames : Segment.names ∘ Segment.plain = Segment.names := by
    funext g
    cases g <;> rfl
  have htranslated : Segment.translated s ∘ Segment.plain = Segment.translated s := by
    funext g
    cases g with
    | text t => rfl
    | token before name after => simp [Segment.plain, Segment.translated, htokens]
  rw [wrapped, wrapped, List.flatMap_map, List.flatMap_map]
  exact congrArg₂ (fun f k => Wrapper.text s ⟨(gs.flatMap f).eraseDups⟩ (gs.flatMap k)) hnames
    htranslated

theorem lacks_plain {banned : List Char} {gs : List Segment} (h : ∀ g ∈ gs, g.Lacks banned) :
    ∀ g ∈ gs.map Segment.plain, g.Lacks banned := by
  intro f hf
  obtain ⟨g, hg, rfl⟩ := List.mem_map.1 hf
  have hlacks := h g hg
  cases g with
  | text t => exact hlacks
  | token => trivial

theorem unmarked_plain {gs : List Segment} (h : Unmarked (gs.flatMap Segment.written)) :
    Unmarked ((gs.map Segment.plain).flatMap Segment.written) := by
  have hcompact : ∀ x ∈ marks, Compact x.2 := by decide
  intro x hx
  rw [(hcompact x hx).withinCaseless_plain]
  exact h x hx

theorem compact_keyword : ∀ w ∈ keywords, Compact w := by
  decide

theorem compact_brackets {c : Char} (hc : c ∈ ['[', ']']) (b : Blanks) :
    Compact (c :: (b.text ++ [c])) := by
  have hbracket : ∀ c ∈ ['[', ']'], isBlank c = false ∧ '{' ≠ c ∧ '}' ≠ c := by decide
  obtain ⟨hblank, hopen, hclose⟩ := hbracket c hc
  have hopens := b.not_mem (c := '{') (by decide)
  have hcloses := b.not_mem (c := '}') (by decide)
  constructor
  · simp [hopen, hopens]
  · simp [hclose, hcloses]
  · simpa using hblank
  · have hlast : (c :: (b.text ++ [c])).getLast? = some c := by
      rw [← List.cons_append, List.getLast?_append]
      rfl
    simpa [hlast] using hblank

namespace Reversible

variable {s : Settings} {gs : List Segment}

theorem tabsStay (h : Reversible s gs) (t : Text) (ht : .text t ∈ gs) : TabsStay s t := by
  intro htab
  cases h.tabs with
  | inl hspaces => exact hspaces
  | inr hlacks => exact absurd htab (Segment.not_mem_of_lacks (hlacks (.text t) ht))

theorem lacks_of_subset (h : Reversible s gs) {banned : List Char}
    (hbanned : banned ⊆ ['{', '}', '@', '&']) : ∀ g ∈ gs, g.Lacks banned :=
  fun g hg => Segment.Lacks.mono hbanned (h.lacks g hg)

theorem draft_written (h : Reversible s gs) :
    draft s (gs.flatMap Segment.written) =
      ⟨gs.flatMap (Segment.translated s), ⟨(gs.flatMap Segment.names).eraseDups⟩⟩ := by
  have hclauses := clausesHandled_eq_self h.opening s
  have hlacks : ∀ g ∈ gs, g.Lacks ['{'] := h.lacks_of_subset (by simp)
  rw [draft_of_clausesHandled h.quotes hclauses hlacks, if_pos h.replaceTokens]

theorem query_written (h : Reversible s gs) :
    PowerBI.query s (gs.flatMap Segment.written) = wrapped s gs := by
  rw [PowerBI.query, h.draft_written, wrapped]

theorem ofQuery_written (h : Reversible s gs) :
    Dialect.ofQuery (gs.flatMap Segment.written) = .ok .metabase := by
  have hpowerBI : Dialect.hasPowerBIMarks (gs.flatMap Segment.written) = false :=
    Wrapper.hasPowerBIMarks_of_unmarked h.unmarked
  have hopen : within ['{', '{'] (gs.flatMap Segment.written) = true := by
    obtain ⟨before, name, after, htoken⟩ := h.exists_token
    have hbegin : ['{', '{'] <+: (Segment.token before name after).written := ⟨_, rfl⟩
    exact within_iff_isInfix.2 (hbegin.isInfix.trans (isInfix_flatMap Segment.written htoken))
  have hmetabase : Dialect.hasMetabaseMarks (gs.flatMap Segment.written) = true := by
    simp [Dialect.hasMetabaseMarks, hopen]
  rw [Dialect.ofQuery, if_pos h.statement, hpowerBI, hmetabase]

theorem withinCaseless_translated (h : Reversible s gs) {w : Text} (hcompact : Compact w)
    (hword : ∀ c ∈ w.map fold, isWord c = true)
    (hw : withinCaseless w (gs.flatMap Segment.written) = true) :
    withinCaseless w (gs.flatMap (Segment.translated s)) = true := by
  obtain ⟨v, hv, hinfix⟩ := withinCaseless_iff.1 hw
  obtain ⟨t, ht, hvt⟩ := ((hcompact.of_fold_eq hv).isInfix_segments [] gs).1 hinfix
  have hspelled := withinCaseless_spelled s hword (withinCaseless_iff.2 ⟨v, hv, hvt⟩)
  exact withinCaseless_mono (spelled_stretch_isInfix h.replaceTokens ht) hspelled

theorem hasStatement_wrapped (h : Reversible s gs) :
    Dialect.hasStatement (wrapped s gs) = true := by
  rw [← h.query_written]
  refine hasStatement_query ?_
  rw [h.draft_written]
  refine hasStatement_of_keywords (fun w hw => ?_) h.statement
  exact h.withinCaseless_translated (compact_keyword w hw) (isWord_of_mem_keyword w hw)

theorem hasPowerBIMarks_wrapped (h : Reversible s gs) :
    Dialect.hasPowerBIMarks (wrapped s gs) = true := by
  obtain ⟨t, ht, hbreak⟩ := h.exists_break
  rw [← h.query_written, hasPowerBIMarks_query, List.any_eq_true, h.draft_written]
  exact ⟨_, List.mem_cons_self, hasBreakMark_translated h.markBreaks ht hbreak⟩

theorem not_pair_stretch (h : Reversible s gs) {b : Char} (hb : b ∈ Wrapper.brackets) {t : Text}
    (ht : t ∈ stretches [] gs) : ¬[b, b] <:+: t := by
  intro hpair
  have hmem : b ∈ t := hpair.subset (by simp)
  have hsquare (hcompact : Compact [b, b]) : [b, b] <:+: gs.flatMap Segment.written :=
    (hcompact.isInfix_segments [] gs).2 ⟨t, ht, hpair⟩
  have hbrace (hword : isWord b = false) (hbanned : [b] ⊆ ['{', '}', '@', '&']) : False :=
    not_mem_stretches hword List.not_mem_nil (h.lacks_of_subset hbanned) t ht hmem
  simp only [Wrapper.brackets, List.mem_cons, List.not_mem_nil, or_false] at hb
  obtain rfl | rfl | rfl | rfl := hb
  · exact hbrace rfl (by simp)
  · exact hbrace rfl (by simp)
  · exact h.opening Blanks.none (hsquare (by decide))
  · exact h.closing Blanks.none (hsquare (by decide))

theorem hasMetabaseMarks_wrapped (h : Reversible s gs) :
    Dialect.hasMetabaseMarks (wrapped s gs) = false := by
  have hbrackets : Wrapper.brackets ⊆ ['"', '\'', '{', '}', '[', ']'] := by
    simp [Wrapper.brackets]
  rw [← h.query_written,
    hasMetabaseMarks_query (List.disjoint_of_subset_right hbrackets h.host)
      (List.disjoint_of_subset_right hbrackets h.database), h.draft_written]
  refine Wrapper.hasMetabaseMarks_eq_false fun b hb hpair => ?_
  have hempty : TabsStay s [] := fun hm => absurd hm List.not_mem_nil
  obtain ⟨t, ht, hpair⟩ :=
    exists_stretch_of_translated (a := []) h.replaceTokens hb hempty h.tabsStay hpair
  exact h.not_pair_stretch hb ht hpair

theorem ofQuery_wrapped (h : Reversible s gs) : Dialect.ofQuery (wrapped s gs) = .ok .powerBI := by
  rw [Dialect.ofQuery, if_pos h.hasStatement_wrapped, h.hasPowerBIMarks_wrapped,
    h.hasMetabaseMarks_wrapped]

theorem query_wrapped (h : Reversible s gs) :
    Metabase.query s (wrapped s gs) = (gs.map Segment.plain).flatMap Segment.written := by
  have hbanned : ['"', '\''] ⊆ ['"', '\'', '{', '}', '[', ']'] := by simp
  have hhost : Wrapper.QuoteFree s.host :=
    Wrapper.quoteFree_of_disjoint (List.disjoint_of_subset_right hbanned h.host)
  have hdatabase : Wrapper.QuoteFree s.database :=
    Wrapper.quoteFree_of_disjoint (List.disjoint_of_subset_right hbanned h.database)
  have hnames : ∀ n ∈ (gs.flatMap Segment.names).eraseDups, Wrapper.QuoteFree n := fun n hn =>
    Wrapper.quoteFree_of_disjoint (disjoint_of_isWord (isWord_of_declared hn) (by decide))
  have hlacks : ∀ f ∈ gs.map Segment.fragment, f.Lacks ['@', '&'] := by
    intro f hf
    obtain ⟨g, hg, rfl⟩ := List.mem_map.1 hf
    have hg : g.Lacks ['@', '&'] := h.lacks_of_subset (by simp) g hg
    cases g with
    | text t => exact hg
    | token => trivial
  have hmarks : Unmarked ((gs.map Segment.fragment).flatMap Fragment.meaning) := by
    rw [fragments_meaning]
    exact unmarked_plain h.unmarked
  have hquery := query_text_fragments h.replaceReferences hhost hdatabase hnames hlacks
    h.names_end.separated hmarks
  rwa [fragments_written h.replaceTokens h.markBreaks h.tabsStay, fragments_meaning] at hquery

theorem plain (h : Reversible s gs) : Reversible s (gs.map Segment.plain) where
  replaceTokens := h.replaceTokens
  replaceReferences := h.replaceReferences
  markBreaks := h.markBreaks
  host := h.host
  database := h.database
  lacks := lacks_plain h.lacks
  exists_token := by
    obtain ⟨before, name, after, htoken⟩ := h.exists_token
    exact ⟨Blanks.none, name, Blanks.none, List.mem_map_of_mem (f := Segment.plain) htoken⟩
  opening b := by
    rw [Compact.isInfix_plain (compact_brackets (by decide) b)]
    exact h.opening b
  closing b := by
    rw [Compact.isInfix_plain (compact_brackets (by decide) b)]
    exact h.closing b
  quotes := by
    rw [Compact.isInfix_plain (by decide)]
    exact h.quotes
  unmarked := unmarked_plain h.unmarked
  names_end := h.names_end.plain
  exists_break := by
    obtain ⟨t, ht, hbreak⟩ := h.exists_break
    exact ⟨t, List.mem_map_of_mem (f := Segment.plain) ht, hbreak⟩
  statement := by
    refine hasStatement_of_keywords (fun w hw hwithin => ?_) h.statement
    rwa [(compact_keyword w hw).withinCaseless_plain]
  tabs := by
    cases h.tabs with
    | inl hspaces => exact .inl hspaces
    | inr hlacks => exact .inr (lacks_plain hlacks)

end Reversible

/-- A query goes to PowerBI, comes back with plain tokens, and goes to the same PowerBI query. -/
theorem convert_convert {s : Settings} {gs : List Segment} (h : Reversible s gs) :
    ∃ m, (∀ j, ((convert s (gs.flatMap Segment.written)).run j).1 = .ok m) ∧
      (∀ j, ((convert s m).run j).1 =
        .ok ((gs.map Segment.plain).flatMap Segment.written)) ∧
      ∀ j, ((convert s ((gs.map Segment.plain).flatMap Segment.written)).run j).1 = .ok m := by
  refine ⟨wrapped s gs, fun j => ?_, fun j => ?_, fun j => ?_⟩
  · rw [run_convert_fst, converted, h.ofQuery_written]
    exact congrArg Except.ok h.query_written
  · rw [run_convert_fst, converted, h.ofQuery_wrapped]
    exact congrArg Except.ok h.query_wrapped
  · rw [run_convert_fst, converted, h.plain.ofQuery_written]
    exact congrArg Except.ok (h.plain.query_written.trans (wrapped_plain h.replaceTokens gs))

def tagQuery : List Segment :=
  [.text "from t where \"tags\"[1] = ".toList,
    .token ⟨[' ', '\t'], by decide⟩ ⟨"tag".toList, by decide, by decide⟩ Blanks.none,
    .text "\n\tlimit 1".toList]

theorem reversible_tagQuery : Reversible {} tagQuery where
  replaceTokens := rfl
  replaceReferences := rfl
  markBreaks := rfl
  host := by decide
  database := by decide
  lacks := by decide
  exists_token := ⟨_, _, _, List.mem_cons_of_mem _ List.mem_cons_self⟩
  opening b h := by
    have hcount := h.sublist.count_le '['
    have hwritten : (tagQuery.flatMap Segment.written).count '[' = 1 := by decide +kernel
    simp [hwritten] at hcount
  closing b h := by
    have hcount := h.sublist.count_le ']'
    have hwritten : (tagQuery.flatMap Segment.written).count ']' = 1 := by decide +kernel
    simp [hwritten] at hcount
  quotes := by decide +kernel
  unmarked := by decide +kernel
  names_end := by
    intro before name after rest hrest
    simp only [tagQuery, List.suffix_cons_iff, List.cons.injEq, reduceCtorEq, false_and, false_or,
      List.suffix_nil, or_false] at hrest
    obtain ⟨-, rfl⟩ := hrest
    rfl
  exists_break := ⟨_, List.mem_cons_of_mem _ (List.mem_cons_of_mem _ List.mem_cons_self),
    .inl (by decide)⟩
  statement := by decide +kernel
  tabs := .inl rfl

theorem convert_convert_tagQuery :
    ∃ m, (∀ j, ((convert {}
        "from t where \"tags\"[1] = \x7b\x7b \ttag\x7d\x7d\n\tlimit 1".toList).run j).1 = .ok m) ∧
      (∀ j, ((convert {} m).run j).1 =
        .ok "from t where \"tags\"[1] = \x7b\x7btag\x7d\x7d\n\tlimit 1".toList) ∧
      ∀ j, ((convert {}
        "from t where \"tags\"[1] = \x7b\x7btag\x7d\x7d\n\tlimit 1".toList).run j).1 = .ok m := by
  have hwritten : tagQuery.flatMap Segment.written =
      "from t where \"tags\"[1] = \x7b\x7b \ttag\x7d\x7d\n\tlimit 1".toList := by
    decide +kernel
  have hplain : (tagQuery.map Segment.plain).flatMap Segment.written =
      "from t where \"tags\"[1] = \x7b\x7btag\x7d\x7d\n\tlimit 1".toList := by
    decide +kernel
  rw [← hwritten, ← hplain]
  exact convert_convert reversible_tagQuery

end QueryBridge
