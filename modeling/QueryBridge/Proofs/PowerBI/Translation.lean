import QueryBridge.Proofs.Metabase.Segment

/-!
Queries with optional clauses. Main statement: the stages together translate such a query part by
part, and record the names that are left in it in the order in which they appear.
-/

namespace QueryBridge.Metabase
open Text PowerBI

/-- What a query consists of. The contents of a clause are segments; clauses do not nest. -/
inductive Part where
  | segment (g : Segment)
  | clause (gs : List Segment)

namespace Part

def written : Part → Text
  | segment g => g.written
  | clause gs => '[' :: '[' :: (gs.flatMap Segment.written ++ [']', ']'])

def Lacks (banned : List Char) : Part → Prop
  | segment g => g.Lacks banned
  | clause gs => ∀ g ∈ gs, g.Lacks banned

instance (banned : List Char) : (p : Part) → Decidable (p.Lacks banned)
  | segment g => inferInstanceAs (Decidable (g.Lacks banned))
  | clause gs => inferInstanceAs (Decidable (∀ g ∈ gs, g.Lacks banned))

theorem Lacks.mono {few many : List Char} (h : few ⊆ many) {p : Part} (hp : p.Lacks many) :
    p.Lacks few := by
  cases p with
  | segment g => exact Segment.Lacks.mono h hp
  | clause gs => exact fun g hg => (hp g hg).mono h

def kept (s : Settings) : Part → List Segment
  | segment g => [g]
  | clause gs =>
    if s.removeClauses then []
    else if s.stripClauses then gs
    else .text ['[', '['] :: (gs ++ [.text [']', ']']])

end Part

def Segment.translated (s : Settings) : Segment → Text
  | text t => spelled s t
  | token before name after =>
    if s.replaceTokens then '@' :: name.text
    else spelled s (token before name after).written

def Part.translated (s : Settings) : Part → Text
  | segment g => g.translated s
  | clause gs =>
    if s.removeClauses then []
    else if s.stripClauses then gs.flatMap (Segment.translated s)
    else '[' :: '[' :: (gs.flatMap (Segment.translated s) ++ [']', ']'])

def Part.names (s : Settings) : Part → List Text
  | segment g => g.names
  | clause gs => if s.removeClauses then [] else gs.flatMap Segment.names

theorem clause_read_of_lacks {t : Text} (h : '[' ∉ t) :
    ∀ c ∈ t, ∀ s, Clause.recognizer.read (c :: s) = none := by
  intro c hc s
  refine clause_read_of_ne ?_
  rintro rfl
  exact h hc

theorem clause_read_written {body : Text} (h : ']' ∉ body) (rest : Text) :
    Clause.recognizer.read ('[' :: '[' :: (body ++ ']' :: ']' :: rest)) =
      some (⟨[], body, []⟩, rest) := by
  have hopen := pair?_append (d := '[') rfl Blanks.none (body ++ ']' :: ']' :: rest)
  have hclose := pair?_append (d := ']') rfl Blanks.none rest
  simp only [Blanks.none, List.nil_append] at hopen hclose
  have hcut : cut (fun _ => true) (pair? ']') (body ++ ']' :: ']' :: rest) =
      some (body, [], rest) := by
    refine cut_eq_some_iff.2 ⟨_, rfl, hclose, fun _ _ => rfl, fun p q hpq hq => ?_⟩
    obtain ⟨c, q, rfl⟩ := List.exists_cons_of_ne_nil hq
    refine pair?_of_ne ?_ _
    rintro rfl
    exact h (by simp [← hpq])
  have hread (s : Text) : Clause.recognizer.read s = Clause.read s := rfl
  rw [hread, Clause.read, hopen, Option.bind_some, hcut, Option.map_some]

theorem bracket_not_mem {c : Char} (hc : c = '[' ∨ c = ']') {gs : List Segment}
    (h : ∀ g ∈ gs, g.Lacks ['[', ']']) : c ∉ gs.flatMap Segment.written := by
  intro hmem
  obtain ⟨g, hg, hcg⟩ := List.mem_flatMap.1 hmem
  obtain rfl | rfl := hc
  · exact Segment.not_mem_written rfl (by decide) (by decide) (by decide)
      ((h g hg).mono (by simp)) hcg
  · exact Segment.not_mem_written rfl (by decide) (by decide) (by decide)
      ((h g hg).mono (by simp)) hcg

theorem replace_parts {q : List Part} (h : ∀ p ∈ q, p.Lacks ['[', ']']) (f : Clause → Text) :
    Clause.recognizer.replace f (q.flatMap Part.written) = q.flatMap fun
      | .segment g => g.written
      | .clause gs => f ⟨[], gs.flatMap Segment.written, []⟩ := by
  induction q with
  | nil => simp
  | cons p q ih =>
    have ih := ih fun p' hp => h p' (List.mem_cons_of_mem p hp)
    rw [List.flatMap_cons, List.flatMap_cons, ← ih]
    cases p with
    | segment g =>
      have hg : '[' ∉ g.written := by
        have hlacks : g.Lacks ['[', ']'] := h (.segment g) (by simp)
        exact Segment.not_mem_written rfl (by decide) (by decide) (by decide)
          (hlacks.mono (by simp))
      exact Recognizer.replace_append _ _ (Recognizer.read_suffix _ (clause_read_of_lacks hg))
    | clause gs =>
      have hgs := bracket_not_mem (.inr rfl) (h (.clause gs) (by simp))
      have hread := clause_read_written hgs (q.flatMap Part.written)
      have hwritten : (Part.clause gs).written ++ q.flatMap Part.written =
          '[' :: '[' :: (gs.flatMap Segment.written ++ ']' :: ']' :: q.flatMap Part.written) := by
        simp [Part.written]
      rw [hwritten, Recognizer.replace_of_read _ _ hread]

theorem clausesHandled_parts {q : List Part} (h : ∀ p ∈ q, p.Lacks ['[', ']']) (s : Settings) :
    clausesHandled s (q.flatMap Part.written) =
      (q.flatMap (Part.kept s)).flatMap Segment.written := by
  have hpart (f : Part → Text) (hf : ∀ p, f p = (p.kept s).flatMap Segment.written) :
      q.flatMap f = (q.flatMap (Part.kept s)).flatMap Segment.written := by
    rw [List.flatMap_assoc]
    exact congrArg (q.flatMap ·) (funext hf)
  unfold clausesHandled
  split
  · next hr =>
    rw [removeClauses, replace_parts h]
    refine hpart _ fun p => ?_
    cases p <;> simp [Part.kept, hr]
  · next hr =>
    split
    · next hs =>
      rw [stripClauses, replace_parts h]
      refine hpart _ fun p => ?_
      cases p <;> simp [Part.kept, hr, hs]
    · next hs =>
      refine hpart _ fun p => ?_
      cases p <;> simp [Part.kept, Part.written, Segment.written, hr, hs]

theorem kept_lacks {s : Settings} {banned : List Char}
    (hframe : s.removeClauses = true ∨ s.stripClauses = true ∨ List.Disjoint ['[', ']'] banned)
    {q : List Part} (h : ∀ p ∈ q, p.Lacks banned) :
    ∀ g ∈ q.flatMap (Part.kept s), g.Lacks banned := by
  intro g hg
  obtain ⟨p, hp, hg⟩ := List.mem_flatMap.1 hg
  have hlacks := h p hp
  cases p with
  | segment g' =>
    rw [List.mem_singleton.1 hg]
    exact hlacks
  | clause gs =>
    by_cases hr : s.removeClauses
    · simp [Part.kept, hr] at hg
    · by_cases hs : s.stripClauses
      · exact hlacks g (by simpa [Part.kept, hr, hs] using hg)
      · have hbrackets := (hframe.resolve_left hr).resolve_left hs
        simp only [Part.kept, hr, hs, Bool.false_eq_true, if_false, List.mem_cons,
          List.mem_append, List.not_mem_nil, or_false] at hg
        obtain rfl | hg | rfl := hg
        · exact List.disjoint_of_subset_left (by simp) hbrackets
        · exact hlacks g hg
        · exact List.disjoint_of_subset_left (by simp) hbrackets

theorem clause_read_eq_none {t : Text} (h : ∀ b : Blanks, ¬('[' :: (b.text ++ ['['])) <+: t) :
    Clause.recognizer.read t = none := by
  change Clause.read t = none
  unfold Clause.read
  cases hp : pair? '[' t with
  | none => rfl
  | some o =>
    have hprefix : '[' :: (o.1 ++ ['[']) <+: t := ⟨o.2, by simp [← pair?_eq_some hp]⟩
    exact absurd hprefix (h ⟨o.1, isBlank_of_pair? hp⟩)

theorem clausesHandled_eq_self {q : Text}
    (h : ∀ b : Blanks, ¬('[' :: (b.text ++ ['['])) <:+: q) (s : Settings) :
    clausesHandled s q = q := by
  have hread : ∀ p t, p ++ t = q → t ≠ [] → Clause.recognizer.read t = none := by
    intro p t hpt _
    refine clause_read_eq_none fun b hb => h b ?_
    exact hb.isInfix.trans (hpt ▸ (List.suffix_append p t).isInfix)
  have hreplace (f : Clause → Text) := Clause.recognizer.replace_eq_self f hread
  unfold clausesHandled
  split
  · exact hreplace _
  · split
    · exact hreplace _
    · rfl

theorem spelled_append (s : Settings) (t u : Text) :
    spelled s (t ++ u) = spelled s t ++ spelled s u :=
  List.flatMap_append

theorem spelled_of_disjoint (s : Settings) {t : Text}
    (h : List.Disjoint t ['"', '\n', '\r', '\t']) : spelled s t = t := by
  induction t with
  | nil => rfl
  | cons c t ih =>
    obtain ⟨hc, ht⟩ := List.disjoint_cons_left.1 h
    simp only [List.mem_cons, List.not_mem_nil, or_false, not_or] at hc
    have hchar : spellChar s c = [c] := by simp [spellChar, hc]
    have hrest : t.flatMap (spellChar s) = t := ih ht
    rw [spelled, List.flatMap_cons, hchar, hrest]
    rfl

theorem spelled_of_isWord (s : Settings) {t : Text} (h : ∀ c ∈ t, isWord c = true) :
    spelled s t = t :=
  spelled_of_disjoint s (disjoint_of_isWord h (by decide))

theorem spelled_reference (s : Settings) (n : Name) :
    spelled s ('@' :: n.text) = '@' :: n.text := by
  have hname : List.Disjoint n.text ['"', '\n', '\r', '\t'] :=
    disjoint_of_isWord n.isWord_of_mem (by decide)
  exact spelled_of_disjoint s (List.disjoint_cons_left.2 ⟨by decide, hname⟩)

theorem spelled_tokensHandled {gs : List Segment} (h : ∀ g ∈ gs, g.Lacks ['{'])
    (s : Settings) :
    spelled s (tokensHandled s (gs.flatMap Segment.written)) =
      gs.flatMap (Segment.translated s) := by
  have hflat (f : Segment → Text) :
      spelled s (gs.flatMap f) = gs.flatMap fun g => spelled s (f g) := List.flatMap_assoc
  unfold tokensHandled
  split
  · next hr =>
    rw [replace_segments h, hflat]
    refine congrArg (gs.flatMap ·) (funext fun g => ?_)
    cases g with
    | text t => rfl
    | token before name after =>
      simp [Segment.referenced, Segment.translated, hr, spelled_reference]
  · next hr =>
    rw [hflat]
    refine congrArg (gs.flatMap ·) (funext fun g => ?_)
    cases g <;> simp [Segment.translated, Segment.written, hr]

theorem kept_translated (s : Settings) (p : Part) :
    (p.kept s).flatMap (Segment.translated s) = p.translated s := by
  have hopen : spelled s ['[', '['] = ['[', '['] :=
    spelled_of_disjoint s (by decide)
  have hclose : spelled s [']', ']'] = [']', ']'] :=
    spelled_of_disjoint s (by decide)
  cases p with
  | segment g => simp [Part.kept, Part.translated]
  | clause gs =>
    by_cases hr : s.removeClauses
    · simp [Part.kept, Part.translated, hr]
    · by_cases hs : s.stripClauses
      · simp [Part.kept, Part.translated, hr, hs]
      · simp [Part.kept, Part.translated, Segment.translated, hr, hs, hopen, hclose]

theorem flatMap_kept_translated (s : Settings) (q : List Part) :
    (q.flatMap (Part.kept s)).flatMap (Segment.translated s) = q.flatMap (Part.translated s) := by
  rw [List.flatMap_assoc]
  exact congrArg (q.flatMap ·) (funext (kept_translated s))

theorem kept_names (s : Settings) (p : Part) :
    (p.kept s).flatMap Segment.names = p.names s := by
  cases p with
  | segment g => simp [Part.kept, Part.names]
  | clause gs =>
    by_cases hr : s.removeClauses
    · simp [Part.kept, Part.names, hr]
    · by_cases hs : s.stripClauses
      · simp [Part.kept, Part.names, hr, hs]
      · simp [Part.kept, Part.names, Segment.names, hr, hs]

theorem escape_names (gs : List Segment) :
    (gs.flatMap Segment.names).map escape = gs.flatMap Segment.names := by
  have hname : ∀ n ∈ gs.flatMap Segment.names, escape n = id n := by
    intro n hn
    obtain ⟨g, -, hn⟩ := List.mem_flatMap.1 hn
    cases g with
    | text t => simp [Segment.names] at hn
    | token before name after =>
      rw [List.mem_singleton.1 hn]
      exact escape_of_not_mem (name.not_mem (by decide))
  rw [List.map_congr_left hname, List.map_id]

end QueryBridge.Metabase

namespace QueryBridge.PowerBI
open Text Metabase

def declaredNames (s : Settings) (q : List Part) : List Text :=
  if s.replaceTokens then (q.flatMap (Part.names s)).eraseDups else []

theorem draft_of_clausesHandled {s : Settings} {q : Text} {gs : List Segment}
    (hquotes : ¬['"', '"'] <:+: q) (hclauses : clausesHandled s q = gs.flatMap Segment.written)
    (hlacks : ∀ g ∈ gs, g.Lacks ['{']) :
    draft s q = ⟨gs.flatMap (Segment.translated s),
      ⟨if s.replaceTokens then (gs.flatMap Segment.names).eraseDups else []⟩⟩ := by
  have hmet : (namesMet s (gs.flatMap Segment.written)).map escape =
      if s.replaceTokens then gs.flatMap Segment.names else [] := by
    unfold namesMet
    split
    · rw [tokenNames_segments hlacks, escape_names]
    · rfl
  have hdistinct : (if s.replaceTokens then gs.flatMap Segment.names else []).eraseDups =
      if s.replaceTokens then (gs.flatMap Segment.names).eraseDups else [] := by
    split <;> rfl
  rw [draft_eq hquotes, hclauses, spelled_tokensHandled hlacks, hmet, Parameters.insertAll_empty,
    hdistinct]

theorem draft_parts {q : List Part} (htext : ∀ p ∈ q, p.Lacks ['{', '}', '[', ']'])
    (hquotes : ¬['"', '"'] <:+: q.flatMap Part.written) (s : Settings) :
    draft s (q.flatMap Part.written) =
      ⟨q.flatMap (Part.translated s), ⟨declaredNames s q⟩⟩ := by
  have hclauses := clausesHandled_parts (fun p hp => Part.Lacks.mono (by simp) (htext p hp)) s
  have hbraces : ∀ p ∈ q, p.Lacks ['{'] := fun p hp => Part.Lacks.mono (by simp) (htext p hp)
  have hnames : (q.flatMap (Part.kept s)).flatMap Segment.names = q.flatMap (Part.names s) := by
    rw [List.flatMap_assoc]
    exact congrArg (q.flatMap ·) (funext (kept_names s))
  have hlacks := kept_lacks (s := s) (.inr (.inr (by decide))) hbraces
  rw [draft_of_clausesHandled hquotes hclauses hlacks, flatMap_kept_translated, hnames,
    declaredNames]

/-- A query of parts, with no two quotes in a row anywhere in it, is translated part by part. -/
theorem run_ofMetabase_parts {q : List Part} (htext : ∀ p ∈ q, p.Lacks ['{', '}', '[', ']'])
    (hquotes : ¬['"', '"'] <:+: q.flatMap Part.written) (s : Settings) (j j' : Journal) :
    ((ofMetabase s (q.flatMap Part.written)).run j).1 =
      ((wrap s ⟨declaredNames s q⟩ (q.flatMap (Part.translated s))).run j').1 := by
  rw [run_ofMetabase_fst, query, draft_parts htext hquotes]
  rfl

def regionQuery : List Part :=
  [.segment (.text "\"a\"\n> ".toList),
    .segment (.token ⟨[' ', '\n'], by decide⟩ ⟨"since".toList, by decide, by decide⟩ Blanks.none),
    .clause [.text "\tand region = ".toList,
      .token Blanks.none ⟨"region".toList, by decide, by decide⟩ Blanks.none],
    .clause [.text " or b > ".toList,
      .token Blanks.none ⟨"since".toList, by decide, by decide⟩ Blanks.none]]

theorem run_ofMetabase_regionQuery :
    ((ofMetabase { useSpaces := true, tabSize := 1 } (regionQuery.flatMap Part.written)).run
      .capture).1 =
        ((wrap { useSpaces := true, tabSize := 1 } ⟨["since".toList, "region".toList]⟩
          "\"\"a\"\"#(lf)> @since and region = @region or b > @since".toList).run .capture).1 := by
  have htext : ∀ p ∈ regionQuery, p.Lacks ['{', '}', '[', ']'] := by decide
  have hquotes : ¬['"', '"'] <:+: regionQuery.flatMap Part.written := by decide +kernel
  have hnames : declaredNames { useSpaces := true, tabSize := 1 } regionQuery =
      ["since".toList, "region".toList] := by decide +kernel
  have hbody : regionQuery.flatMap (Part.translated { useSpaces := true, tabSize := 1 }) =
      "\"\"a\"\"#(lf)> @since and region = @region or b > @since".toList := by
    decide +kernel
  rw [← hnames, ← hbody]
  exact run_ofMetabase_parts htext hquotes _ .capture .capture

end QueryBridge.PowerBI
