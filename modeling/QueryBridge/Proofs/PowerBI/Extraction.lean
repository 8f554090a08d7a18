import Mathlib.Data.List.Basic
import QueryBridge.Proofs.PowerBI.Layout

/-!
Finding the literal in a generated wrapper. No call begins before the generated one, its four
quotes are the ones that delimit the host and the database, and no quote stands behind the literal.
Main statement: what is found is the body that the wrapper was put around.
-/

namespace QueryBridge.PowerBI.Wrapper

def QuoteFree (t : Text) : Prop :=
  ∀ c ∈ t, isQuote c = false

instance (t : Text) : Decidable (QuoteFree t) :=
  List.decidableBAll (fun c => isQuote c = false) t

def callName : Text :=
  ".Database(".toList

def preamble (s : Settings) (ps : Parameters) : Text :=
  Text.joinLines (openingLines s ps) ++ '\n' :: (s.tab ++ s.tab ++ "PostgreSQL".toList)

/-- From the opening quote of the host to the one of the body. -/
def arguments (s : Settings) : Text :=
  '"' :: s.host ++ '"' :: ", ".toList ++ '"' :: s.database ++ '"' ::
    ("),\n".toList ++ s.tab ++ s.tab) ++ ['"']

theorem text_eq (s : Settings) (ps : Parameters) (body : Text) :
    text s ps body = preamble s ps ++ (callName ++ (arguments s ++
      (body ++ '"' :: ',' :: '\n' :: Text.joinLines (linesAfter s ps)))) := by
  have hafter : linesAfter s ps ≠ [] := by simp [linesAfter]
  have hbefore : openingLines s ps ≠ [] := by simp [openingLines]
  have hcall : [databaseLine s, bodyLine s body] ≠ [] := by simp
  have hlines : lines s ps body =
      openingLines s ps ++ ([databaseLine s, bodyLine s body] ++ linesAfter s ps) := by
    simp only [lines, linesBefore_eq, List.append_assoc, List.cons_append, List.nil_append]
  rw [text, hlines, Text.joinLines_append hbefore (by simp), Text.joinLines_append hcall hafter,
    Text.joinLines_cons_cons, Text.joinLines_singleton]
  have hcallText : "PostgreSQL.Database(\"".toList =
      "PostgreSQL".toList ++ (callName ++ ['"']) := by
    decide
  have hcomma : "\", \"".toList = '"' :: (", ".toList ++ ['"']) := by decide
  have hend : "\"),".toList = ['"', ')', ','] := by decide
  have hend' : "),\n".toList = [')', ',', '\n'] := by decide
  have hclose : "\",".toList = ['"', ','] := by decide
  simp only [preamble, arguments, databaseLine, bodyLine, hcallText, hcomma, hend, hend', hclose,
    List.append_assoc, List.cons_append, List.nil_append]

theorem QuoteFree.append {a b : Text} (ha : QuoteFree a) (hb : QuoteFree b) :
    QuoteFree (a ++ b) := by
  intro c hc
  obtain h | h := List.mem_append.1 hc
  · exact ha c h
  · exact hb c h

theorem quoteFree_of_disjoint {t : Text} (h : List.Disjoint t ['"', '\'']) : QuoteFree t := by
  intro c hc
  have hne : c ∉ ['"', '\''] := fun hq => h hc hq
  simpa [isQuote] using hne

theorem quoteFree_tab (s : Settings) : QuoteFree s.tab := by
  intro c hc
  have hblank : QuoteFree [' ', '\t'] := by decide
  exact hblank c (mem_tab hc)

theorem quoteFree_joinLines {ls : List Text} (h : ∀ l ∈ ls, QuoteFree l) :
    QuoteFree (Text.joinLines ls) := by
  intro c hc
  obtain rfl | ⟨l, hl, hc⟩ := Text.mem_joinLines hc
  · rfl
  · exact h l hl c hc

theorem quoteFree_of_ordinary {s : Settings} {ps : Parameters} {l : Text}
    (hnames : ∀ n ∈ ps.names, QuoteFree n) (h : Ordinary s ps l) : QuoteFree l := by
  intro c hc
  have hfixed : QuoteFree ordinaryChars := by decide
  cases h.mem_or hc with
  | inl hc => exact hfixed c hc
  | inr hc =>
    obtain ⟨n, hn, hc⟩ := hc
    exact hnames n hn c hc

theorem quoteFree_preamble {s : Settings} {ps : Parameters} (h : ∀ n ∈ ps.names, QuoteFree n) :
    QuoteFree (preamble s ps) := by
  have ht := quoteFree_tab s
  have hopening : QuoteFree (Text.joinLines (openingLines s ps)) :=
    quoteFree_joinLines fun _ hl => quoteFree_of_ordinary h (ordinary_of_mem_openingLines hl)
  exact hopening.append (QuoteFree.append (a := ['\n']) (by decide)
    ((ht.append ht).append (by decide)))

theorem quoteFree_linesAfter {s : Settings} {ps : Parameters} (h : ∀ n ∈ ps.names, QuoteFree n) :
    QuoteFree (Text.joinLines (linesAfter s ps)) :=
  quoteFree_joinLines fun _ hl => quoteFree_of_ordinary h (ordinary_of_mem_linesAfter hl)

theorem bodyAt_eq (s : Text) :
    bodyAt s = (Text.spelling? callName s).bind fun o => (afterQuotes 4 o.2).bind upToClosing :=
  rfl

theorem bodyAt_eq_none {q rest : Text} (hq : QuoteFree q) (hlen : callName.length < q.length) :
    bodyAt (q ++ rest) = none := by
  rw [bodyAt_eq, Option.bind_eq_none_iff]
  rintro ⟨w, r⟩ hw
  obtain ⟨happ, hfold⟩ := Text.spelling?_eq_some hw
  have hwlen : w.length = callName.length := by
    have h := congrArg List.length hfold
    rwa [List.length_map, List.length_map] at h
  obtain ⟨u, rfl, hr⟩ : ∃ u, q = w ++ u ∧ r = u ++ rest := by
    obtain ⟨u, hqu, hru⟩ | ⟨u, hwu, -⟩ := List.append_eq_append_iff.1 happ
    · exact ⟨u, hqu, hru⟩
    · have := congrArg List.length hwu
      simp only [List.length_append] at this
      omega
  cases u with
  | nil =>
    simp only [List.append_nil] at hlen
    omega
  | cons c u =>
    have hc : isQuote c = false := hq c (by simp)
    simp [hr, afterQuotes, hc]

theorem dropWhile_quoteFree {a : Text} (ha : QuoteFree a) {q : Char} (hq : isQuote q = true)
    (rest : Text) : (a ++ q :: rest).dropWhile (fun d => !isQuote d) = q :: rest := by
  induction a with
  | nil => simp [hq]
  | cons c a ih =>
    have hc : isQuote c = false := ha c (by simp)
    simpa [hc] using ih fun d hd => ha d (List.mem_cons_of_mem c hd)

theorem afterQuotes_argument {a b : Text} (ha : QuoteFree a) (hb : QuoteFree b) (n : Nat)
    (rest : Text) :
    afterQuotes (n + 2) ('"' :: (a ++ '"' :: (b ++ '"' :: rest))) =
      afterQuotes n ('"' :: rest) := by
  have hq : isQuote '"' = true := rfl
  rw [afterQuotes, if_pos hq, dropWhile_quoteFree ha hq, afterQuotes, if_pos hq,
    dropWhile_quoteFree hb hq]

theorem afterQuotes_arguments {s : Settings} (hhost : QuoteFree s.host)
    (hdatabase : QuoteFree s.database) (rest : Text) :
    afterQuotes 4 (arguments s ++ rest) = some rest := by
  have ht := quoteFree_tab s
  have hcomma : QuoteFree ", ".toList := by decide
  have hclose : QuoteFree ("),\n".toList ++ s.tab ++ s.tab) :=
    (QuoteFree.append (by decide) ht).append ht
  have harguments : arguments s ++ rest = '"' :: (s.host ++ '"' :: (", ".toList ++
      '"' :: (s.database ++ '"' :: (("),\n".toList ++ s.tab ++ s.tab) ++ '"' :: rest)))) := by
    simp only [arguments, List.append_assoc, List.cons_append, List.nil_append]
  rw [harguments, afterQuotes_argument hhost hcomma, afterQuotes_argument hdatabase hclose]
  rfl

theorem upToClosing_of_quoteFree {c : Char} {after : Text} (hc : c ≠ '[')
    (h : QuoteFree (c :: after)) (body : Text) :
    upToClosing (body ++ '"' :: c :: after) = some body := by
  rw [upToClosing_eq_some_iff]
  refine ⟨⟨c, after, rfl, hc⟩, fun b d t hb hd => ?_⟩
  by_contra hlen
  obtain ⟨u, hu, -⟩ | ⟨u, hu, hquote⟩ := List.append_eq_append_iff.1 hb
  · have := congrArg List.length hu
    simp only [List.length_append] at this
    omega
  · cases u with
    | nil =>
      simp only [List.append_nil] at hu
      subst hu
      exact hlen (Nat.le_refl _)
    | cons x u =>
      simp only [List.cons_append, List.cons.injEq] at hquote
      have hmem : '"' ∈ c :: after := by
        rw [hquote.2]
        simp
      exact absurd (h _ hmem) (by decide)

theorem body?_preamble {s : Settings} {ps : Parameters} (h : ∀ n ∈ ps.names, QuoteFree n)
    (rest : Text) :
    body? (preamble s ps ++ (callName ++ rest)) = Text.firstAnswer bodyAt (callName ++ rest) := by
  refine Text.firstAnswer_append fun p q hpq hq => ?_
  have hname : QuoteFree callName := by decide
  have hfree : QuoteFree (q ++ callName) := fun c hc => by
    obtain hc | hc := List.mem_append.1 hc
    · exact quoteFree_preamble h c (hpq ▸ List.mem_append_right p hc)
    · exact hname c hc
  have hlen : callName.length < (q ++ callName).length := by
    have := List.length_pos_iff.2 hq
    simp only [List.length_append]
    omega
  rw [← List.append_assoc]
  exact bodyAt_eq_none hfree hlen

theorem body?_text {s : Settings} {ps : Parameters} (hhost : QuoteFree s.host)
    (hdatabase : QuoteFree s.database) (hnames : ∀ n ∈ ps.names, QuoteFree n) (body : Text) :
    body? (text s ps body) = some body := by
  have hafter : QuoteFree (',' :: '\n' :: Text.joinLines (linesAfter s ps)) :=
    QuoteFree.append (a := [',', '\n']) (by decide) (quoteFree_linesAfter hnames)
  have hcall : bodyAt (callName ++ (arguments s ++
      (body ++ '"' :: ',' :: '\n' :: Text.joinLines (linesAfter s ps)))) = some body := by
    have hname := Text.spelling?_append (w := callName) rfl (arguments s ++
      (body ++ '"' :: ',' :: '\n' :: Text.joinLines (linesAfter s ps)))
    rw [bodyAt_eq, hname, Option.bind_some]
    dsimp only
    rw [afterQuotes_arguments hhost hdatabase, Option.bind_some]
    exact upToClosing_of_quoteFree (by decide) hafter body
  rw [text_eq, body?_preamble hnames]
  exact Text.firstAnswer_of_eq_some hcall

/-- Whatever the body is, even another wrapper, it is what is found in the wrapper around it. -/
theorem body?_wrap {s : Settings} {ps : Parameters} (hhost : List.Disjoint s.host ['"', '\''])
    (hdatabase : List.Disjoint s.database ['"', '\''])
    (hnames : ∀ n ∈ ps.names, List.Disjoint n ['"', '\'']) (body : Text) (j : Journal) :
    body? ((wrap s ps body).run j).1 = some body :=
  body?_text (quoteFree_of_disjoint hhost) (quoteFree_of_disjoint hdatabase)
    (fun n hn => quoteFree_of_disjoint (hnames n hn)) body

theorem body?_wrap_imitation :
    body? ((wrap { useSpaces := true, tabSize := 0 } ⟨["id".toList]⟩
      "x.Database(\"a\", \"b\"), \"y\"\"[".toList).run .capture).1 =
        some "x.Database(\"a\", \"b\"), \"y\"\"[".toList :=
  body?_wrap (by decide) (by decide)
    (fun n hn => List.mem_singleton.1 hn ▸ (by decide)) _ _

end QueryBridge.PowerBI.Wrapper
