import QueryBridge.Parameters
import QueryBridge.Settings.Basic
import QueryBridge.Text.Caseless

/-!
The wrapper around a query: a `let` block that declares the parameters and passes the query to the
database as a string literal. `Wrapper.lines` writes one, `Wrapper.body?` finds the literal in it.
-/

namespace QueryBridge.PowerBI.Wrapper

def declaration (tab name : Text) : Text :=
  tab ++ name ++ " = ".toList ++ name ++ ", /* fill in type */".toList

def entry (tab name : Text) : Text :=
  tab ++ name ++ " = ".toList ++ name

def orEmptyLine : List Text → List Text
  | [] => [[]]
  | line :: lines => line :: lines

def commaSeparated : List Text → List Text
  | [] => []
  | [line] => [line]
  | line :: next :: lines => (line ++ [',']) :: commaSeparated (next :: lines)

def databaseLine (s : Settings) : Text :=
  s.tab ++ s.tab ++ "PostgreSQL.Database(\"".toList ++ s.host ++ "\", \"".toList ++ s.database ++
    "\"),".toList

def bodyLine (s : Settings) (body : Text) : Text :=
  s.tab ++ s.tab ++ '"' :: body ++ "\",".toList

/-- The lines that pass the parameters on. Without parameters there is nothing to pass, unless they
were left in the query. -/
def recordLines (s : Settings) (ps : Parameters) : List Text :=
  let tab₂ := s.tab ++ s.tab
  if ps.isEmpty && s.replaceTokens then [tab₂ ++ "null,".toList]
  else
    [tab₂ ++ ['[']] ++
      orEmptyLine (commaSeparated (ps.names.map (entry (tab₂ ++ s.tab)))) ++
      [tab₂ ++ "],".toList]

def linesBefore (s : Settings) (ps : Parameters) : List Text :=
  ["let".toList] ++ orEmptyLine (ps.names.map (declaration s.tab)) ++
    [s.tab ++ "Source = Value.NativeQuery(".toList, databaseLine s]

def linesAfter (s : Settings) (ps : Parameters) : List Text :=
  recordLines s ps ++
    [s.tab ++ s.tab ++ "[EnableFolding = true]".toList, s.tab ++ [')'], "in".toList,
      s.tab ++ "Source".toList]

def lines (s : Settings) (ps : Parameters) (body : Text) : List Text :=
  linesBefore s ps ++ [bodyLine s body] ++ linesAfter s ps

def text (s : Settings) (ps : Parameters) (body : Text) : Text :=
  Text.joinLines (lines s ps body)

def isQuote (c : Char) : Bool :=
  c = '"' || c = '\''

/-- Passes `n` quotes, each with the text up to the next one, and then a double quote. -/
def afterQuotes : Nat → Text → Option Text
  | _, [] => none
  | 0, c :: s => if c = '"' then some s else none
  | n + 1, c :: s => if isQuote c then afterQuotes n (s.dropWhile fun d => !isQuote d) else none

def beforeClosing : Text → Option Text
  | c :: q :: s => if q = '"' && c ≠ '[' then some s else beforeClosing (q :: s)
  | _ => none

/-- The text up to the last double quote that has a character other than an opening bracket behind
it. -/
def upToClosing (s : Text) : Option Text :=
  (beforeClosing s.reverse).map List.reverse

/-- The body of a call that starts here: from the fifth quote behind the opening to the last one
that can close it. -/
def bodyAt (s : Text) : Option Text :=
  (Text.spelling? ".Database(".toList s).bind fun o =>
    (afterQuotes 4 o.2).bind upToClosing

def body? : Text → Option Text :=
  Text.firstAnswer bodyAt

theorem beforeClosing_eq_none {r : Text} (h : beforeClosing r = none) (p : Text) (c : Char)
    (b : Text) (hr : p ++ c :: '"' :: b = r) : c = '[' := by
  fun_induction beforeClosing r generalizing p with
  | case1 => simp at h
  | case2 c₁ q s hq ih =>
    cases p with
    | nil =>
      simp only [List.nil_append, List.cons.injEq] at hr
      obtain ⟨rfl, rfl, rfl⟩ := hr
      simpa using hq
    | cons d p =>
      simp only [List.cons_append, List.cons.injEq] at hr
      exact ih h p hr.2
  | case3 t ht =>
    cases p with
    | nil => exact absurd hr.symm (ht c '"' b)
    | cons d p => cases p <;> exact absurd hr.symm (ht _ _ _)

theorem beforeClosing_eq_some {r b : Text} (h : beforeClosing r = some b) :
    (∃ p c, p ++ c :: '"' :: b = r ∧ c ≠ '[') ∧
      ∀ p c b', p ++ c :: '"' :: b' = r → c ≠ '[' → b'.length ≤ b.length := by
  fun_induction beforeClosing r with
  | case1 c q s hq =>
    obtain rfl : s = b := by simpa using h
    simp only [Bool.and_eq_true, decide_eq_true_eq] at hq
    refine ⟨⟨[], c, by simp [hq.1], by simpa using hq.2⟩, fun p c' b' hr _ => ?_⟩
    have := congrArg List.length hr
    simp only [List.length_append, List.length_cons] at this
    omega
  | case2 c₁ q s hq ih =>
    obtain ⟨⟨p, c, hr, hc⟩, hmax⟩ := ih h
    refine ⟨⟨c₁ :: p, c, by simp [hr], hc⟩, fun p' c' b' hr' hc' => ?_⟩
    cases p' with
    | nil =>
      simp only [List.nil_append, List.cons.injEq] at hr'
      obtain ⟨rfl, rfl, rfl⟩ := hr'
      exact absurd (by simp [hc']) hq
    | cons d p' =>
      simp only [List.cons_append, List.cons.injEq] at hr'
      exact hmax p' c' b' hr'.2 hc'
  | case3 => simp at h

theorem upToClosing_eq_some_iff {s b : Text} :
    upToClosing s = some b ↔
      (∃ c t, b ++ '"' :: c :: t = s ∧ c ≠ '[') ∧
        ∀ b' c t, b' ++ '"' :: c :: t = s → c ≠ '[' → b'.length ≤ b.length := by
  have key : ∀ {b}, upToClosing s = some b →
      (∃ c t, b ++ '"' :: c :: t = s ∧ c ≠ '[') ∧
        ∀ b' c t, b' ++ '"' :: c :: t = s → c ≠ '[' → b'.length ≤ b.length := by
    intro b h
    obtain ⟨r, hr, rfl⟩ := Option.map_eq_some_iff.1 h
    obtain ⟨⟨p, c, hp, hc⟩, hmax⟩ := beforeClosing_eq_some hr
    refine ⟨⟨c, p.reverse, ?_, hc⟩, fun b' c' t' hs hc' => ?_⟩
    · rw [← List.reverse_reverse s, ← hp]
      simp
    · have := hmax t'.reverse c' b'.reverse (by simp [← hs]) hc'
      simpa using this
  refine ⟨key, fun ⟨⟨c, t, hs, hc⟩, hmax⟩ => ?_⟩
  cases h : upToClosing s with
  | none =>
    have hn := Option.map_eq_none_iff.1 h
    exact absurd (beforeClosing_eq_none hn t.reverse c b.reverse (by simp [← hs])) hc
  | some b₀ =>
    obtain ⟨⟨c₀, t₀, hs₀, hc₀⟩, hmax₀⟩ := key h
    have hlen := Nat.le_antisymm (hmax b₀ c₀ t₀ hs₀ hc₀) (hmax₀ b c t hs hc)
    exact congrArg some (List.append_inj (hs₀.trans hs.symm) hlen).1

end QueryBridge.PowerBI.Wrapper
