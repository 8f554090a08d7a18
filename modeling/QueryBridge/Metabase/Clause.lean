import QueryBridge.Text.Blank
import QueryBridge.Text.Cut
import QueryBridge.Text.Scan

/-!
Optional clauses: a body between doubled square brackets, with blanks allowed between the two
brackets of a pair. A clause ends at the first closing pair behind its opening one.
-/

namespace QueryBridge.Metabase

structure Clause where
  openGap : Text
  body : Text
  closeGap : Text
  deriving DecidableEq, Repr

namespace Clause

def written (c : Clause) : Text :=
  '[' :: c.openGap ++ '[' :: (c.body ++ ']' :: c.closeGap ++ [']'])

def read (s : Text) : Option (Clause × Text) :=
  (Text.pair? '[' s).bind fun o =>
    (Text.cut (fun _ => true) (Text.pair? ']') o.2).map fun b => (⟨o.1, b.1, b.2.1⟩, b.2.2)

theorem written_append {s rest : Text} {c : Clause} (h : read s = some (c, rest)) :
    c.written ++ rest = s := by
  obtain ⟨⟨g, t⟩, ho, h⟩ := Option.bind_eq_some_iff.1 h
  obtain ⟨⟨b, g', r⟩, hc, he⟩ := Option.map_eq_some_iff.1 h
  simp only [Prod.mk.injEq] at he
  obtain ⟨rfl, rfl⟩ := he
  obtain ⟨u, rfl, hu, -⟩ := Text.cut_eq_some_iff.1 hc
  rw [← Text.pair?_eq_some ho, ← Text.pair?_eq_some hu]
  simp [written]

def recognizer : Text.Recognizer Clause where
  written := written
  read := read
  written_append := written_append
  written_ne_nil _ := by simp [written]

def preview (c : Clause) : Text :=
  c.written.take 10

end Clause

def clauses : Text → List Clause :=
  Clause.recognizer.hits

def removeClauses : Text → Text :=
  Clause.recognizer.replace fun _ => []

def stripClauses : Text → Text :=
  Clause.recognizer.replace Clause.body

end QueryBridge.Metabase
