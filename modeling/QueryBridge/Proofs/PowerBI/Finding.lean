import Mathlib.Data.List.TakeWhile
import QueryBridge.Proofs.PowerBI.Extraction

/-!
What is found in any text. Main statement: there is a body exactly where some call can have one, and
then it lies between the fifth quote of the leftmost such call and the last closing quote of all.
-/

namespace QueryBridge.PowerBI.Wrapper

/-- Behind `before` stands a double quote that can close a body: some character follows it, and that
is no opening bracket. -/
def IsClosing (s before : Text) : Prop :=
  ∃ c after, before ++ '"' :: c :: after = s ∧ c ≠ '['

def IsLastClosing (s before : Text) : Prop :=
  IsClosing s before ∧ ∀ before', IsClosing s before' → before'.length ≤ before.length

/-- The name of a call, in any letter case, and its arguments: they begin with a quote and have four
of either kind. -/
def IsOpening (opening : Text) : Prop :=
  ∃ name arguments, opening = name ++ arguments ∧ name.map Text.fold = callName.map Text.fold ∧
    arguments.head?.any isQuote = true ∧ arguments.countP isQuote = 4

/-- A call that stands behind `before` and can have a body: the fifth quote is a double one, and
some quote after it can close the body. -/
def Viable (s before opening : Text) : Prop :=
  IsOpening opening ∧ ∃ body, IsClosing s (before ++ (opening ++ '"' :: body))

theorem countP_isQuote_takeWhile (s : Text) :
    (s.takeWhile fun d => !isQuote d).countP isQuote = 0 := by
  rw [List.countP_eq_zero]
  intro c hc
  simpa using List.mem_takeWhile_imp hc

theorem countP_isQuote_dropWhile (s : Text) :
    (s.dropWhile fun d => !isQuote d).countP isQuote = s.countP isQuote := by
  conv => rhs; rw [← List.takeWhile_append_dropWhile (p := fun d => !isQuote d) (l := s)]
  rw [List.countP_append, countP_isQuote_takeWhile, Nat.zero_add]

theorem dropWhile_append_quote (s rest : Text) :
    (s ++ '"' :: rest).dropWhile (fun d => !isQuote d) =
      s.dropWhile (fun d => !isQuote d) ++ '"' :: rest := by
  induction s with
  | nil => rfl
  | cons c s ih =>
    by_cases hc : isQuote c
    · simp [hc]
    · simpa [hc] using ih

theorem head?_dropWhile_quote (s : Text) :
    (s.dropWhile (fun d => !isQuote d) ++ ['"']).head?.any isQuote = true := by
  induction s with
  | nil => rfl
  | cons c s ih =>
    by_cases hc : isQuote c
    · simp [hc]
    · simpa [hc] using ih

theorem exists_of_afterQuotes {n : Nat} {s rest : Text} (h : afterQuotes n s = some rest) :
    ∃ passed, passed ++ '"' :: rest = s ∧ (passed ++ ['"']).head?.any isQuote = true ∧
      passed.countP isQuote = n := by
  induction n generalizing s with
  | zero =>
    cases s with
    | nil => simp [afterQuotes] at h
    | cons c s =>
      simp only [afterQuotes, Option.ite_none_right_eq_some, Option.some.injEq] at h
      obtain ⟨rfl, rfl⟩ := h
      exact ⟨[], rfl, rfl, rfl⟩
  | succ n ih =>
    cases s with
    | nil => simp [afterQuotes] at h
    | cons c s =>
      simp only [afterQuotes, Option.ite_none_right_eq_some] at h
      obtain ⟨hc, h⟩ := h
      obtain ⟨passed, hs, -, hcount⟩ := ih h
      have hsplit := List.takeWhile_append_dropWhile (p := fun d => !isQuote d) (l := s)
      refine ⟨c :: (s.takeWhile (fun d => !isQuote d) ++ passed), ?_, by simpa using hc, ?_⟩
      · rw [List.cons_append, List.append_assoc, hs, hsplit]
      · rw [List.countP_cons_of_pos hc, List.countP_append, countP_isQuote_takeWhile, hcount,
          Nat.zero_add]

theorem afterQuotes_append {n : Nat} {passed : Text}
    (hhead : (passed ++ ['"']).head?.any isQuote = true) (hcount : passed.countP isQuote = n)
    (rest : Text) : afterQuotes n (passed ++ '"' :: rest) = some rest := by
  induction n generalizing passed with
  | zero =>
    cases passed with
    | nil => rfl
    | cons d passed =>
      have hd : isQuote d = true := by simpa using hhead
      simp [hd] at hcount
  | succ n ih =>
    cases passed with
    | nil => simp at hcount
    | cons c passed =>
      have hc : isQuote c = true := by simpa using hhead
      rw [List.countP_cons_of_pos hc, Nat.add_right_cancel_iff] at hcount
      rw [List.cons_append, afterQuotes, if_pos hc, dropWhile_append_quote]
      exact ih (head?_dropWhile_quote passed) (by rw [countP_isQuote_dropWhile, hcount])

theorem afterQuotes_eq_some_iff {n : Nat} {s rest : Text} :
    afterQuotes n s = some rest ↔ ∃ passed, passed ++ '"' :: rest = s ∧
      (passed ++ ['"']).head?.any isQuote = true ∧ passed.countP isQuote = n := by
  refine ⟨exists_of_afterQuotes, fun h => ?_⟩
  obtain ⟨passed, rfl, hhead, hcount⟩ := h
  exact afterQuotes_append hhead hcount rest

theorem isOpening_iff {opening : Text} : IsOpening opening ↔ ∃ name arguments,
    opening = name ++ arguments ∧ name.map Text.fold = callName.map Text.fold ∧
      (arguments ++ ['"']).head?.any isQuote = true ∧ arguments.countP isQuote = 4 := by
  have hhead {arguments : Text} (hcount : arguments.countP isQuote = 4) :
      (arguments ++ ['"']).head? = arguments.head? := by
    cases arguments with
    | nil => simp at hcount
    | cons c arguments => rfl
  constructor
  · rintro ⟨name, arguments, ho, hname, hquote, hcount⟩
    exact ⟨name, arguments, ho, hname, by rwa [hhead hcount], hcount⟩
  · rintro ⟨name, arguments, ho, hname, hquote, hcount⟩
    exact ⟨name, arguments, ho, hname, by rwa [hhead hcount] at hquote, hcount⟩

theorem bodyAt_eq_some_iff {t b : Text} :
    bodyAt t = some b ↔ ∃ opening rest, IsOpening opening ∧ opening ++ '"' :: rest = t ∧
      upToClosing rest = some b := by
  rw [bodyAt_eq]
  constructor
  · intro h
    obtain ⟨⟨name, u⟩, hname, h⟩ := Option.bind_eq_some_iff.1 h
    obtain ⟨rest, hrest, hb⟩ := Option.bind_eq_some_iff.1 h
    obtain ⟨rfl, hfold⟩ := Text.spelling?_eq_some hname
    obtain ⟨arguments, rfl, hquote, hcount⟩ := afterQuotes_eq_some_iff.1 hrest
    exact ⟨name ++ arguments, rest,
      isOpening_iff.2 ⟨name, arguments, rfl, hfold, hquote, hcount⟩, by simp, hb⟩
  · rintro ⟨opening, rest, ho, rfl, hb⟩
    obtain ⟨name, arguments, rfl, hfold, hquote, hcount⟩ := isOpening_iff.1 ho
    have hrest : afterQuotes 4 (arguments ++ '"' :: rest) = some rest :=
      afterQuotes_eq_some_iff.2 ⟨arguments, rfl, hquote, hcount⟩
    rw [List.append_assoc, Text.spelling?_append hfold, Option.bind_some]
    dsimp only
    rw [hrest, Option.bind_some, hb]

theorem isClosing_append {front rest b : Text} :
    IsClosing (front ++ rest) (front ++ b) ↔ IsClosing rest b := by
  simp only [IsClosing, List.append_assoc, List.append_cancel_left_eq]

theorem isLastClosing_append_iff (front : Text) {rest b : Text} :
    IsLastClosing (front ++ rest) (front ++ b) ↔ upToClosing rest = some b := by
  rw [upToClosing_eq_some_iff, IsLastClosing, isClosing_append]
  refine and_congr_right fun _ => ⟨fun hlast b' c after hs hc => ?_, fun hlast before h => ?_⟩
  · have hlen := hlast (front ++ b') (isClosing_append.2 ⟨c, after, hs, hc⟩)
    simpa using hlen
  · obtain ⟨c, after, hs, hc⟩ := h
    obtain ⟨u, rfl, -⟩ | ⟨u, rfl, hu⟩ := List.append_eq_append_iff.1 hs
    · simp only [List.length_append]
      omega
    · have hlen := hlast u c after hu.symm hc
      simp only [List.length_append]
      omega

theorem isLastClosing_opening_iff (before opening : Text) {rest b : Text} :
    IsLastClosing (before ++ (opening ++ '"' :: rest)) (before ++ (opening ++ '"' :: b)) ↔
      upToClosing rest = some b := by
  have h := @isLastClosing_append_iff (before ++ (opening ++ ['"'])) rest b
  simpa only [List.append_assoc, List.singleton_append] using h

theorem upToClosing_ne_none {rest b : Text} (h : IsClosing rest b) : upToClosing rest ≠ none := by
  obtain ⟨c, after, rfl, hc⟩ := h
  intro hnone
  exact hc (beforeClosing_eq_none (Option.map_eq_none_iff.1 hnone) after.reverse c b.reverse
    (by simp))

theorem Viable.exists_append {s before opening : Text} (h : Viable s before opening) :
    ∃ t, before ++ t = s := by
  obtain ⟨-, body, c, after, hs, -⟩ := h
  exact ⟨_, by rw [← hs, List.append_assoc]⟩

theorem bodyAt_ne_none_iff {s before t : Text} (hs : before ++ t = s) :
    bodyAt t ≠ none ↔ ∃ opening, Viable s before opening := by
  subst hs
  rw [Option.ne_none_iff_exists']
  constructor
  · rintro ⟨b, hb⟩
    obtain ⟨opening, rest, ho, rfl, hrest⟩ := bodyAt_eq_some_iff.1 hb
    exact ⟨opening, ho, b, ((isLastClosing_opening_iff before opening).2 hrest).1⟩
  · rintro ⟨opening, ho, body, hclosing⟩
    obtain ⟨c, after, ht, hc⟩ := isClosing_append.1 hclosing
    obtain ⟨b, hb⟩ := Option.ne_none_iff_exists'.1 (upToClosing_ne_none ⟨c, after, rfl, hc⟩)
    exact ⟨b, bodyAt_eq_some_iff.2 ⟨opening, body ++ '"' :: c :: after, ho, by simpa using ht, hb⟩⟩

theorem body?_eq_none_iff {s : Text} :
    body? s = none ↔ ∀ before opening, ¬Viable s before opening := by
  rw [body?, Text.firstAnswer_eq_none]
  constructor
  · intro h before opening hviable
    obtain ⟨t, hs⟩ := hviable.exists_append
    exact (bodyAt_ne_none_iff hs).2 ⟨opening, hviable⟩ (h before t hs)
  · intro h before t hs
    by_contra hne
    obtain ⟨opening, hviable⟩ := (bodyAt_ne_none_iff hs).1 hne
    exact h before opening hviable

theorem body?_eq_some_iff {s b : Text} :
    body? s = some b ↔ ∃ before opening, Viable s before opening ∧
      (∀ before' opening', Viable s before' opening' → before.length ≤ before'.length) ∧
      IsLastClosing s (before ++ (opening ++ '"' :: b)) := by
  rw [body?, Text.firstAnswer_eq_some_iff]
  constructor
  · rintro ⟨before, t, hs, hb, hfirst⟩
    obtain ⟨opening, rest, ho, rfl, hrest⟩ := bodyAt_eq_some_iff.1 hb
    have hlast : IsLastClosing s (before ++ (opening ++ '"' :: b)) :=
      hs ▸ (isLastClosing_opening_iff before opening).2 hrest
    refine ⟨before, opening, ⟨ho, b, hlast.1⟩, fun before' opening' hviable => ?_, hlast⟩
    obtain ⟨t', hs'⟩ := hviable.exists_append
    by_contra hlen
    exact (bodyAt_ne_none_iff hs').2 ⟨opening', hviable⟩ (hfirst before' t' hs' (by omega))
  · rintro ⟨before, opening, ⟨ho, -⟩, hleft, hlast⟩
    obtain ⟨c, after, hs, -⟩ := hlast.1
    obtain rfl : before ++ (opening ++ '"' :: (b ++ '"' :: c :: after)) = s := by
      rw [← hs]
      simp
    have hrest := (isLastClosing_opening_iff before opening).1 hlast
    refine ⟨before, _, rfl, bodyAt_eq_some_iff.2 ⟨opening, _, ho, rfl, hrest⟩,
      fun before' t' hs' hlen => ?_⟩
    by_contra hne
    obtain ⟨opening', hviable⟩ := (bodyAt_ne_none_iff hs').1 hne
    have := hleft before' opening' hviable
    omega

/-- There is a body where some call is viable, and then it lies between the fifth quote of the
leftmost such call and the last closing quote of the text. -/
theorem body?_leftmost_viable (s : Text) :
    (body? s = none ↔ ∀ before opening, ¬Viable s before opening) ∧
      ∀ b, body? s = some b ↔ ∃ before opening, Viable s before opening ∧
        (∀ before' opening', Viable s before' opening' → before.length ≤ before'.length) ∧
        IsLastClosing s (before ++ (opening ++ '"' :: b)) :=
  ⟨body?_eq_none_iff, fun _ => body?_eq_some_iff⟩

end QueryBridge.PowerBI.Wrapper
