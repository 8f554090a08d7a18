import QueryBridge.Journal.Reporting
import QueryBridge.Metabase.Token
import QueryBridge.PowerBI.Mark
import QueryBridge.PowerBI.Quote
import QueryBridge.PowerBI.Reference
import QueryBridge.PowerBI.Wrapper

/-!
From PowerBI to Metabase: the query is taken out of its wrapper and passes the stages that undo the
string literal. Optional clauses do not come back.
-/

namespace QueryBridge.Metabase

/-- A reference as a token. A spliced name stood inside a quoted value, so quotes go around it. -/
def tokenText : PowerBI.Reference → Text
  | .named name cast => (Token.plain name).written ++ PowerBI.Reference.castText cast
  | .spliced _ _ name _ _ cast =>
    '\'' :: (Token.plain name).written ++ '\'' :: PowerBI.Reference.castText cast

def replaceReferences : Text → Text :=
  PowerBI.Reference.recognizer.replace tokenText

inductive Stage where
  | halveQuotes
  | replaceReferences
  | unmark
  deriving DecidableEq, Repr

namespace Stage

def apply (s : Text) : Stage → Text
  | halveQuotes => PowerBI.halveQuotes s
  | replaceReferences => Metabase.replaceReferences s
  | unmark => PowerBI.unmark s

def report : Stage → Reporting Unit
  | replaceReferences => Reporting.info "Attempting to replace PowerBI parameters...".toList
  | _ => pure ()

def perform (stage : Stage) (s : Text) : Reporting Text := do
  stage.report
  return stage.apply s

def run (stage : Stage) (s : Text) : Reporting Text :=
  Reporting.indented (stage.perform s)

def runAll : List Stage → Text → Reporting Text
  | [], s => pure s
  | stage :: stages, s => do
    runAll stages (← stage.run s)

theorem run_runAll_fst (stages : List Stage) (s : Text) (j : Journal) :
    ((runAll stages s).run j).1 = stages.foldl apply s := by
  induction stages generalizing s j with
  | nil => rfl
  | cons stage stages ih => exact ih (stage.apply s) _

end Stage

/-- The stages in order. Quotes are doubled only inside a string literal, so only a text that came
out of one has them reduced. -/
def stages (s : Settings) (unwrapped : Bool) : List Stage :=
  (if unwrapped then [.halveQuotes] else []) ++
    (if s.replaceReferences then [.replaceReferences] else []) ++ [.unmark]

/-- The body of a wrapped query, or all of a bare one; and whether there was a wrapper. -/
def source (m : Text) : Text × Bool :=
  match PowerBI.Wrapper.body? m with
  | some body => (body, true)
  | none => (m, false)

def query (s : Settings) (m : Text) : Text :=
  (stages s (source m).2).foldl Stage.apply (source m).1

def ofPowerBI (s : Settings) (m : Text) : Reporting Text := do
  Reporting.info "Converting query to Metabase...".toList
  if !(source m).2 then
    Reporting.warn "No Database(...) wrapper found, converting the input as a bare query".toList
  let sql ← Stage.runAll (stages s (source m).2) (source m).1
  Reporting.info "Metabase query assembled!".toList
  return sql

theorem run_ofPowerBI_fst (s : Settings) (m : Text) (j : Journal) :
    ((ofPowerBI s m).run j).1 = query s m := by
  unfold ofPowerBI query
  cases (source m).2 <;> exact Stage.run_runAll_fst _ _ _

end QueryBridge.Metabase
