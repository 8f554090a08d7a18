import QueryBridge.Text.Blank
import QueryBridge.Text.Cut
import QueryBridge.Text.Scan

/-!
Parameter tokens: a name between doubled braces, with blanks allowed between the two braces of a
pair and around the name. The name stays on one line and ends at the first closing pair.
-/

namespace QueryBridge.Metabase

structure Token where
  openGap : Text
  before : Text
  name : Text
  after : Text
  closeGap : Text
  deriving DecidableEq, Repr

namespace Token

def written (t : Token) : Text :=
  '{' :: t.openGap ++ '{' :: (t.before ++ (t.name ++ (t.after ++ '}' :: t.closeGap ++ ['}'])))

def plain (name : Text) : Token :=
  ⟨[], [], name, [], []⟩

/-- Reads blanks and a closing pair; gives the blanks before it and those inside. -/
def closing? (s : Text) : Option ((Text × Text) × Text) :=
  (Text.pair? '}' (Text.skip s)).map fun p => ((Text.gap s, p.1), p.2)

def read (s : Text) : Option (Token × Text) :=
  (Text.pair? '{' s).bind fun o =>
    (Text.cut (· ≠ '\n') closing? (Text.skip o.2)).map fun n =>
      (⟨o.1, Text.gap o.2, n.1, n.2.1.1, n.2.1.2⟩, n.2.2)

theorem closing?_eq_some {s rest : Text} {g : Text × Text} (h : closing? s = some (g, rest)) :
    g.1 ++ '}' :: g.2 ++ '}' :: rest = s := by
  obtain ⟨⟨g', r⟩, hp, he⟩ := Option.map_eq_some_iff.1 h
  simp only [Prod.mk.injEq] at he
  obtain ⟨rfl, rfl⟩ := he
  conv => rhs; rw [← Text.gap_append_skip s, ← Text.pair?_eq_some hp]
  simp

theorem written_append {s rest : Text} {t : Token} (h : read s = some (t, rest)) :
    t.written ++ rest = s := by
  obtain ⟨⟨g, u⟩, ho, h⟩ := Option.bind_eq_some_iff.1 h
  obtain ⟨⟨n, g', r⟩, hc, he⟩ := Option.map_eq_some_iff.1 h
  simp only [Prod.mk.injEq] at he
  obtain ⟨rfl, rfl⟩ := he
  obtain ⟨v, hv, hr, -⟩ := Text.cut_eq_some_iff.1 hc
  have hs : '{' :: g ++ '{' :: (Text.gap u ++ (n ++ v)) = s := by
    rw [hv, Text.gap_append_skip, Text.pair?_eq_some ho]
  rw [← hs, ← closing?_eq_some hr]
  simp [written]

def recognizer : Text.Recognizer Token where
  written := written
  read := read
  written_append := written_append
  written_ne_nil _ := by simp [written]

end Token

def tokenNames (s : Text) : List Text :=
  (Token.recognizer.hits s).map Token.name

end QueryBridge.Metabase
