import Mathlib.Algebra.Ring.Parity
import QueryBridge.Proofs.PowerBI.Drafting
import QueryBridge.Proofs.PowerBI.Extraction

/-!
The string literal that a query ends up in. What it stands for is the query that the stages would
leave if nothing had been escaped, and its quotes stand in runs of even length, so that it ends
where it is closed.
-/

namespace QueryBridge.PowerBI
open Text

/-- Whatever the stages bring together, halving gives what they leave of the query as it was. -/
theorem halveQuotes_runAll {q : Text} (h : ¬['"', '"'] <:+: q) (s : Settings) (ps : Parameters)
    (j j' : Journal) :
    halveQuotes ((Stage.runAll (stages s) ⟨q, ps⟩).run j).1.text =
      ((Stage.runAll ((stages s).filter (· ≠ .doubleQuotes)) ⟨q, ps⟩).run j').1.text := by
  have hfirst : Stage.apply ⟨q, ps⟩ .doubleQuotes = ⟨escape q, ps⟩ :=
    congrArg (Draft.mk · ps) (doubleQuotes_eq_escape h)
  have hlater : (stages s).filter (· ≠ .doubleQuotes) = laterStages s := rfl
  rw [Stage.run_runAll_fst, Stage.run_runAll_fst, hlater, stages_eq, List.foldl_cons, hfirst,
    foldl_laterStages, foldl_laterStages]
  dsimp only
  rw [clausesHandled_escape, tokensHandled_escape, ← spelled_eq, ← escape_finished,
    halveQuotes_escape]

def joinedQuery : Text :=
  "select \"a\"[[, \"b\"]]\"c\"\tfrom \x7b\x7b\nt \x7d\x7d".toList

theorem halveQuotes_runAll_joinedQuery :
    ¬['"', '"'] <:+: joinedQuery ∧
      halveQuotes ((Stage.runAll (stages { removeClauses := true, useSpaces := true, tabSize := 0 })
        ⟨joinedQuery, .empty⟩).run .capture).1.text = "select \"a\"\"c\"from @t".toList := by
  have hquotes : ¬['"', '"'] <:+: joinedQuery := by decide +kernel
  refine ⟨hquotes, ?_⟩
  rw [halveQuotes_runAll hquotes _ .empty .capture .capture, Stage.run_runAll_fst]
  decide +kernel

/-- `n` quotes in a row with none before and none behind them. -/
def MaximalRun (t : Text) (n : Nat) : Prop :=
  0 < n ∧ ∃ a b, a ++ (List.replicate n '"' ++ b) = t ∧
    a.getLast? ≠ some '"' ∧ b.head? ≠ some '"'

theorem getLast?_cons_ne {c : Char} (hc : c ≠ '"') (a : Text) :
    (c :: a).getLast? ≠ some '"' ↔ a.getLast? ≠ some '"' := by
  cases h : a.getLast? <;> simp [List.getLast?_cons, h, hc]

theorem maximalRun_cons {c : Char} (hc : c ≠ '"') {t : Text} {n : Nat} :
    MaximalRun (c :: t) n ↔ MaximalRun t n := by
  constructor
  · rintro ⟨hn, a, b, h, ha, hb⟩
    cases a with
    | nil =>
      obtain ⟨m, rfl⟩ := Nat.exists_eq_succ_of_ne_zero hn.ne'
      exact absurd (List.cons.inj h).1.symm hc
    | cons d a =>
      obtain ⟨rfl, ht⟩ := List.cons.inj h
      exact ⟨hn, a, b, ht, (getLast?_cons_ne hc a).1 ha, hb⟩
  · rintro ⟨hn, a, b, h, ha, hb⟩
    exact ⟨hn, c :: a, b, congrArg (c :: ·) h, (getLast?_cons_ne hc a).2 ha, hb⟩

theorem head?_replicate_append {n : Nat} (hn : 0 < n) (t : Text) :
    (List.replicate n '"' ++ t).head? = some '"' := by
  obtain ⟨m, rfl⟩ := Nat.exists_eq_succ_of_ne_zero hn.ne'
  rfl

theorem quotes_append {n : Nat} {t : Text} (h : t.head? ≠ some '"') :
    quotes (List.replicate n '"' ++ t) = n := by
  have hquotes : ∀ c ∈ List.replicate n '"', decide (c = '"') = true := by simp
  have ht : t.takeWhile (· = '"') = [] := by
    cases t with
    | nil => rfl
    | cons c t => simp_all
  rw [quotes, List.takeWhile_append_of_pos hquotes, ht, List.append_nil, List.length_replicate]

theorem maximalRun_append {m n : Nat} (hm : 0 < m) {t : Text} (ht : t.head? ≠ some '"') :
    MaximalRun (List.replicate m '"' ++ t) n ↔ n = m ∨ MaximalRun t n := by
  constructor
  · rintro ⟨hn, a, b, h, ha, hb⟩
    obtain ⟨u, hu, hrun⟩ | ⟨u, rfl, hrun⟩ := List.append_eq_append_iff.1 h
    · have hnil : a = [] := by
        by_contra hne
        have hmem : a.getLast hne ∈ List.replicate m '"' :=
          hu ▸ List.mem_append_left u (List.getLast_mem hne)
        exact ha (by rw [List.getLast?_eq_getLast_of_ne_nil hne, List.eq_of_mem_replicate hmem])
      subst hnil
      have hlength := congrArg quotes h
      rw [List.nil_append, quotes_append hb, quotes_append ht] at hlength
      exact .inl hlength
    · refine .inr ⟨hn, u, b, hrun.symm, fun hu => ha ?_, hb⟩
      rw [List.getLast?_append, hu, Option.some_or]
  · rintro (rfl | ⟨hn, a, b, rfl, ha, hb⟩)
    · exact ⟨hm, [], t, rfl, by simp, ht⟩
    · refine ⟨hn, List.replicate m '"' ++ a, b, by simp, ?_, hb⟩
      cases h : a.getLast? with
      | none =>
        rw [List.getLast?_eq_none_iff.1 h] at ht
        exact absurd (head?_replicate_append hn b) ht
      | some d => rwa [List.getLast?_append, h, Option.some_or, ← h]

theorem quoteRun_read_eq_some {s t : Text} {n : Nat} (h : quoteRun.read s = some (n, t)) :
    0 < n ∧ List.replicate n '"' ++ t = s ∧ t.head? ≠ some '"' := by
  simp only [quoteRun] at h
  split at h
  · simp at h
  · next hq =>
    simp only [Option.some.injEq, Prod.mk.injEq] at h
    obtain ⟨rfl, rfl⟩ := h
    refine ⟨Nat.pos_of_ne_zero hq, replicate_quotes s, fun hhead => ?_⟩
    have hstop := List.head?_dropWhile_not (· = '"') s
    rw [hhead] at hstop
    simp at hstop

theorem mem_hits_quoteRun {t : Text} {n : Nat} : n ∈ quoteRun.hits t ↔ MaximalRun t n := by
  induction t using quoteRun.scan_induction with
  | nil =>
    simp [MaximalRun]
    omega
  | hit s m rest h ih =>
    obtain ⟨hm, rfl, hrest⟩ := quoteRun_read_eq_some h
    rw [quoteRun.hits_of_read h, List.mem_cons, ih, maximalRun_append hm hrest]
  | plain c s h ih =>
    have hc := ne_quote_of_read h
    rw [quoteRun.hits_cons h, ih, maximalRun_cons hc]

theorem even_of_append_eq_escape {a b u : Text} {n : Nat}
    (h : a ++ (List.replicate n '"' ++ b) = escape u) (ha : a.getLast? ≠ some '"')
    (hb : b.head? ≠ some '"') : Even n := by
  induction u generalizing a n with
  | nil =>
    have hn : a = [] ∧ n = 0 ∧ b = [] := by simpa using congrArg List.length h
    exact hn.2.1 ▸ Even.zero
  | cons c u ih =>
    by_cases hc : c = '"'
    · subst hc
      rw [escape_quote] at h
      match a, n with
      | [], 0 => simp_all
      | [], 1 => simp_all
      | [], n + 2 =>
        have hn : Even n := ih (a := []) (by simpa [List.replicate_succ] using h) ha
        exact hn.add even_two
      | [d], n => simp_all
      | d :: e :: a, n =>
        simp only [List.cons_append, List.cons.injEq] at h
        obtain ⟨rfl, rfl, h⟩ := h
        refine ih h fun hlast => ha ?_
        simp [List.getLast?_cons, hlast]
    · rw [escape_cons hc] at h
      match a, n with
      | [], 0 => exact Even.zero
      | [], n + 1 => exact absurd (List.cons.inj h).1.symm hc
      | d :: a, n =>
        obtain ⟨rfl, ht⟩ := List.cons.inj h
        exact ih ht ((getLast?_cons_ne hc a).1 ha)

theorem even_of_maximalRun_escape {u : Text} {n : Nat} (h : MaximalRun (escape u) n) :
    Even n := by
  obtain ⟨-, a, b, hu, ha, hb⟩ := h
  exact even_of_append_eq_escape hu ha hb

theorem escape_append (t u : Text) : escape (t ++ u) = escape t ++ escape u :=
  List.flatMap_append

theorem escape_replicate (n : Nat) :
    escape (List.replicate n '"') = List.replicate (n + n) '"' := by
  induction n with
  | zero => rfl
  | succ n ih =>
    have hn : n + 1 + (n + 1) = n + n + 1 + 1 := by omega
    rw [List.replicate_succ, escape_quote, ih, hn, List.replicate_succ, List.replicate_succ]

theorem exists_doubleQuotes_eq_escape {q : Text} (h : ∀ n, MaximalRun q n → Odd n → n < 3) :
    ∃ u, doubleQuotes q = escape u := by
  simp only [← mem_hits_quoteRun] at h
  unfold doubleQuotes
  induction q using quoteRun.scan_induction with
  | nil => exact ⟨[], by simp⟩
  | hit s m rest hr ih =>
    rw [quoteRun.hits_of_read hr] at h
    obtain ⟨u, hu⟩ := ih fun n hn => h n (List.mem_cons_of_mem m hn)
    obtain ⟨k, hk⟩ : ∃ k, (if m = 1 then 2 else m) = k + k := by
      by_cases hm : m = 1
      · exact ⟨1, by simp [hm]⟩
      · rw [if_neg hm]
        have heven : ¬Odd m := by
          intro hodd
          have hlt := h m (by simp) hodd
          obtain ⟨j, hj⟩ := hodd
          omega
        exact Nat.not_odd_iff_even.1 heven
    refine ⟨List.replicate k '"' ++ u, ?_⟩
    rw [quoteRun.replace_of_read _ hr, hu, hk, escape_append, escape_replicate]
  | plain c s hr ih =>
    rw [quoteRun.hits_cons hr] at h
    obtain ⟨u, hu⟩ := ih h
    have hc := ne_quote_of_read hr
    exact ⟨c :: u, by rw [quoteRun.replace_cons _ hr, hu, escape_cons hc]⟩

/-- Reads a string literal behind its opening quote: two quotes stand for one, and a lone quote
closes it. Gives the text that it stands for and what follows it. -/
def literal? : Text → Option (Text × Text)
  | [] => none
  | '"' :: '"' :: s => (literal? s).map fun r => ('"' :: r.1, r.2)
  | c :: s => if c = '"' then some ([], s) else (literal? s).map fun r => (c :: r.1, r.2)

theorem literal?_escape (t : Text) {rest : Text} (h : rest.head? ≠ some '"') :
    literal? (escape t ++ '"' :: rest) = some (t, rest) := by
  induction t with
  | nil =>
    cases rest with
    | nil => rfl
    | cons c rest =>
      have hc : c ≠ '"' := by simpa using h
      rw [escape_nil, List.nil_append, literal?]
      · rfl
      · intro s _ hs
        exact hc (List.cons.inj hs).1
  | cons c t ih =>
    by_cases hc : c = '"'
    · subst hc
      rw [escape_quote, List.cons_append, List.cons_append, literal?, ih]
      rfl
    · rw [escape_cons hc, List.cons_append, literal?, if_neg hc, ih]
      · rfl
      · intro s hs
        exact absurd hs hc

theorem Wrapper.exists_text_eq (s : Settings) (ps : Parameters) :
    ∃ before after, after.head? ≠ some '"' ∧
      ∀ body, Wrapper.text s ps body = before ++ '"' :: (body ++ '"' :: after) := by
  obtain ⟨front, hfront⟩ : ∃ front, Wrapper.arguments s = front ++ ['"'] := ⟨_, rfl⟩
  refine ⟨Wrapper.preamble s ps ++ (Wrapper.callName ++ front),
    ',' :: '\n' :: joinLines (Wrapper.linesAfter s ps), by simp, fun body => ?_⟩
  rw [Wrapper.text_eq, hfront]
  simp only [List.append_assoc, List.cons_append, List.nil_append]

/-- Where the query has no odd run of quotes but lone ones, its literal ends at the quote that the
wrapper closes it with. -/
theorem ofMetabase_literal_closed {s : Settings} {q : Text}
    (h : ∀ n, MaximalRun q n → Odd n → n < 3) (j : Journal) :
    (∀ n, MaximalRun (draft s q).text n → Even n) ∧
      ∃ before after,
        (∀ body j', ((wrap s (draft s q).parameters body).run j').1 =
          before ++ '"' :: (body ++ '"' :: after)) ∧
        ((ofMetabase s q).run j).1 = before ++ '"' :: ((draft s q).text ++ '"' :: after) ∧
        literal? ((draft s q).text ++ '"' :: after) =
          some (halveQuotes (draft s q).text, after) := by
  obtain ⟨u, hu⟩ := exists_doubleQuotes_eq_escape h
  have hbody : (draft s q).text = escape (finished s (tokensHandled s (clausesHandled s u))) := by
    rw [draft_of_doubleQuotes hu, escape_finished]
  obtain ⟨before, after, hafter, htext⟩ := Wrapper.exists_text_eq s (draft s q).parameters
  refine ⟨fun n hn => ?_, before, after, fun body j' => ?_, ?_, ?_⟩
  · rw [hbody] at hn
    exact even_of_maximalRun_escape hn
  · rw [run_wrap_fst, htext]
  · rw [run_ofMetabase_fst, query, htext]
  · rw [hbody, literal?_escape _ hafter, halveQuotes_escape]

def emptyValueQuery : Text :=
  "select \"a\"[[, \"b\"]]\"c\", \"\"\t\"\"\nfrom t".toList

theorem ofMetabase_literal_closed_emptyValueQuery :
    (∀ n, MaximalRun emptyValueQuery n → Odd n → n < 3) ∧
      (∀ n, MaximalRun "select \"\"a\"\"\"\"c\"\", \"\"\"\"#(lf)from t".toList n → Even n) ∧
      ∃ before after,
        ((ofMetabase { removeClauses := true, useSpaces := true, tabSize := 0 }
          emptyValueQuery).run .capture).1 = before ++ '"' ::
            ("select \"\"a\"\"\"\"c\"\", \"\"\"\"#(lf)from t".toList ++ '"' :: after) ∧
        literal? ("select \"\"a\"\"\"\"c\"\", \"\"\"\"#(lf)from t".toList ++ '"' :: after) =
          some ("select \"a\"\"c\", \"\"#(lf)from t".toList, after) := by
  have hruns : ∀ n, MaximalRun emptyValueQuery n → Odd n → n < 3 := by
    have hhits : quoteRun.hits emptyValueQuery = [1, 1, 1, 1, 1, 1, 2, 2] := by decide +kernel
    intro n hn _
    rw [← mem_hits_quoteRun, hhits] at hn
    simp only [List.mem_cons, List.not_mem_nil, or_false] at hn
    omega
  have hbody : (draft { removeClauses := true, useSpaces := true, tabSize := 0 }
      emptyValueQuery).text = "select \"\"a\"\"\"\"c\"\", \"\"\"\"#(lf)from t".toList := by
    decide +kernel
  have hvalue : halveQuotes "select \"\"a\"\"\"\"c\"\", \"\"\"\"#(lf)from t".toList =
      "select \"a\"\"c\", \"\"#(lf)from t".toList := by decide +kernel
  obtain ⟨heven, before, after, -, hquery, hliteral⟩ := ofMetabase_literal_closed
    (s := { removeClauses := true, useSpaces := true, tabSize := 0 }) hruns .capture
  rw [hbody] at heven hquery hliteral
  rw [hvalue] at hliteral
  exact ⟨hruns, heven, before, after, hquery, hliteral⟩

end QueryBridge.PowerBI
