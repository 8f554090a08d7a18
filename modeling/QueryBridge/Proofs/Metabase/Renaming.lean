import QueryBridge.Proofs.Metabase.Returning

/-!
Names that come back. A name in braces ends at the braces, a name behind an at sign where the word
does: what comes back is the query as it was just where no word character follows a token.
-/

namespace QueryBridge.Text

def Name.extended (n : Name) (t : Text) : Name where
  text := n.text ++ word t
  ne_nil := by simp [n.ne_nil]
  isWord_of_mem c hc := by
    cases List.mem_append.1 hc with
    | inl hc => exact n.isWord_of_mem c hc
    | inr hc => exact isWord_of_mem_word hc

end QueryBridge.Text

namespace QueryBridge.Metabase
open Text PowerBI

theorem namesEnd_text {t : Text} {gs : List Segment} :
    NamesEnd (.text t :: gs) ↔ NamesEnd gs := by
  simp [NamesEnd, List.suffix_cons_iff]

theorem namesEnd_token {before : Blanks} {name : Name} {after : Blanks} {gs : List Segment} :
    NamesEnd (.token before name after :: gs) ↔
      (gs.flatMap Segment.written).head?.any isWord = false ∧ NamesEnd gs := by
  constructor
  · intro h
    exact ⟨h before name after gs (List.suffix_refl _),
      fun b n a rest hrest => h b n a rest (hrest.trans (List.suffix_cons _ gs))⟩
  · rintro ⟨hhead, hrest⟩ b n a rest hsuffix
    cases List.suffix_cons_iff.1 hsuffix with
    | inl heq => exact (List.cons.inj heq).2 ▸ hhead
    | inr hsuffix => exact hrest b n a rest hsuffix

theorem head?_referenced (gs : List Segment) :
    (gs.flatMap Segment.referenced).head?.any isWord =
      (gs.flatMap Segment.written).head?.any isWord := by
  induction gs with
  | nil => rfl
  | cons g gs ih =>
    cases g with
    | text t =>
      cases t with
      | nil => exact ih
      | cons c t => rfl
    | token before name after => rfl

theorem replaceReferences_extended (n : Name) (t : Text) :
    replaceReferences ('@' :: (n.text ++ t)) =
      '{' :: '{' :: ((n.extended t).text ++ '}' :: '}' :: replaceReferences (afterWord t)) := by
  rw [← replaceReferences_named (n.extended t) (head?_afterWord t), Name.extended,
    List.append_assoc, word_append_afterWord]

theorem replaceReferences_eq_iff (n : Name) (t u : Text) :
    replaceReferences ('@' :: (n.text ++ t)) = '{' :: '{' :: (n.text ++ '}' :: '}' :: u) ↔
      t.head?.any isWord = false ∧ replaceReferences t = u := by
  constructor
  · intro h
    rw [replaceReferences_extended, Name.extended, List.append_assoc] at h
    simp only [List.cons.injEq, true_and, List.append_cancel_left_eq] at h
    have hword : word t = [] := by
      cases hw : word t with
      | nil => rfl
      | cons c w =>
        have hc : isWord c = true := isWord_of_mem_word (t := t) (by simp [hw])
        rw [hw, List.cons_append] at h
        rw [(List.cons.inj h).1] at hc
        exact absurd hc (by decide)
    have ht := word_append_afterWord t
    rw [hword, List.nil_append] at h ht
    rw [ht] at h
    exact ⟨word_eq_nil_iff.1 hword, by simpa using h⟩
  · rintro ⟨hhead, rfl⟩
    exact replaceReferences_named n hhead

theorem replaceReferences_referenced {gs : List Segment} (hlacks : ∀ g ∈ gs, g.Lacks ['@', '&'])
    {a : Text} (ha : List.Disjoint a ['@', '&']) :
    replaceReferences (a ++ gs.flatMap Segment.referenced) =
      a ++ (gs.map Segment.plain).flatMap Segment.written ↔ NamesEnd gs := by
  induction gs generalizing a with
  | nil =>
    have htext : replaceReferences (a ++ []) = a ++ replaceReferences [] :=
      replaceReferences_text ha (by simp)
    simpa [NamesEnd, replaceReferences] using htext
  | cons g gs ih =>
    have ih {b : Text} (hb : List.Disjoint b ['@', '&']) :=
      ih (fun g' hg => hlacks g' (List.mem_cons_of_mem g hg)) hb
    rw [List.map_cons, List.flatMap_cons, List.flatMap_cons]
    cases g with
    | text t =>
      have ht : List.Disjoint t ['@', '&'] := hlacks (.text t) (by simp)
      rw [namesEnd_text, ← ih (List.disjoint_append_left.2 ⟨ha, ht⟩)]
      simp [Segment.referenced, Segment.plain, Segment.written]
    | token before name after =>
      have hrest := ih (List.disjoint_nil_left _)
      rw [List.nil_append, List.nil_append] at hrest
      have hplain : (Segment.token before name after).plain.written ++
          (gs.map Segment.plain).flatMap Segment.written = '{' :: '{' :: (name.text ++ '}' :: '}' ::
            (gs.map Segment.plain).flatMap Segment.written) := by
        simp [Segment.plain, Segment.written, Blanks.none]
      rw [namesEnd_token, ← head?_referenced, ← hrest, ← replaceReferences_eq_iff, hplain,
        Segment.referenced, List.cons_append, replaceReferences_text ha (by simp),
        List.append_cancel_left_eq]

/-- A query of text and tokens without blanks comes back just where no word character follows a
token; otherwise a name takes in what stands behind it. -/
theorem replaceReferences_replaceTokens_iff {gs : List Segment}
    (hlacks : ∀ g ∈ gs, g.Lacks ['{', '}', '@', '&']) (hplain : ∀ g ∈ gs, g.plain = g) :
    replaceReferences (replaceTokens (gs.flatMap Segment.written)) = gs.flatMap Segment.written ↔
      NamesEnd gs := by
  have hbraces : ∀ g ∈ gs, g.Lacks ['{'] := fun g hg => (hlacks g hg).mono (by simp)
  have hreferences : ∀ g ∈ gs, g.Lacks ['@', '&'] := fun g hg => (hlacks g hg).mono (by simp)
  have hmap : gs.map Segment.plain = gs := (List.map_congr_left hplain).trans (List.map_id gs)
  have h := replaceReferences_referenced hreferences (List.disjoint_nil_left _)
  rwa [List.nil_append, List.nil_append, hmap, ← replace_segments hbraces] at h

def castQuery : List Segment :=
  [.text "select ".toList,
    .token Blanks.none ⟨"a".toList, by decide, by decide⟩ Blanks.none,
    .token Blanks.none ⟨"b".toList, by decide, by decide⟩ Blanks.none,
    .text "::int".toList]

theorem replaceReferences_replaceTokens_castQuery :
    (∀ g ∈ castQuery, g.Lacks ['{', '}', '@', '&']) ∧ (∀ g ∈ castQuery, g.plain = g) ∧
      (replaceReferences (replaceTokens (castQuery.flatMap Segment.written)) =
        castQuery.flatMap Segment.written ↔ NamesEnd castQuery) ∧ NamesEnd castQuery := by
  have hlacks : ∀ g ∈ castQuery, g.Lacks ['{', '}', '@', '&'] := by decide
  have hplain : ∀ g ∈ castQuery, g.plain = g := by simp [castQuery, Segment.plain]
  refine ⟨hlacks, hplain, replaceReferences_replaceTokens_iff hlacks hplain, ?_⟩
  simp only [castQuery, namesEnd_text, namesEnd_token]
  exact ⟨rfl, rfl, by simp [NamesEnd]⟩

def prefixedTable : List Segment :=
  [.text "select * from ".toList,
    .token Blanks.none ⟨"team".toList, by decide, by decide⟩ Blanks.none,
    .text "_users".toList]

/-- The name that comes back is not the one that was recorded. -/
theorem replaceReferences_replaceTokens_prefixedTable :
    (∀ g ∈ prefixedTable, g.Lacks ['{', '}', '@', '&']) ∧ (∀ g ∈ prefixedTable, g.plain = g) ∧
      prefixedTable.flatMap Segment.written =
        "select * from \x7b\x7bteam\x7d\x7d_users".toList ∧
      tokenNames (prefixedTable.flatMap Segment.written) = ["team".toList] ∧
      replaceReferences (replaceTokens (prefixedTable.flatMap Segment.written)) =
        "select * from \x7b\x7bteam_users\x7d\x7d".toList ∧
      replaceReferences (replaceTokens (prefixedTable.flatMap Segment.written)) ≠
        prefixedTable.flatMap Segment.written := by
  have hwritten : prefixedTable.flatMap Segment.written =
      "select * from \x7b\x7bteam\x7d\x7d_users".toList := by decide +kernel
  have hback : replaceReferences (replaceTokens
      "select * from \x7b\x7bteam\x7d\x7d_users".toList) =
        "select * from \x7b\x7bteam_users\x7d\x7d".toList := by decide +kernel
  rw [hwritten, hback]
  refine ⟨by decide, by simp [prefixedTable, Segment.plain], rfl, by decide +kernel, rfl, by decide⟩

end QueryBridge.Metabase
