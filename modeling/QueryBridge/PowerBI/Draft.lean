import QueryBridge.Journal.Reporting
import QueryBridge.Metabase.Clause
import QueryBridge.Metabase.Token
import QueryBridge.Parameters
import QueryBridge.PowerBI.Mark
import QueryBridge.PowerBI.Quote

/-!
A query on its way into a string literal, and the stages that it passes. What a stage does and what
it reports are kept apart.
-/

namespace QueryBridge.PowerBI

structure Draft where
  text : Text
  parameters : Parameters
  deriving DecidableEq, Repr

inductive Stage where
  | doubleQuotes
  | removeClauses
  | stripClauses
  | replaceTokens
  | markBreaks
  | spaceTabs (width : Nat)
  deriving DecidableEq, Repr

def replaceTokens : Text → Text :=
  Metabase.Token.recognizer.replace fun t => '@' :: t.name

namespace Stage

/-- Only the replacement of tokens records parameters. -/
def apply (d : Draft) : Stage → Draft
  | doubleQuotes => { d with text := PowerBI.doubleQuotes d.text }
  | removeClauses => { d with text := Metabase.removeClauses d.text }
  | stripClauses => { d with text := Metabase.stripClauses d.text }
  | replaceTokens =>
    ⟨PowerBI.replaceTokens d.text, d.parameters.insertAll (Metabase.tokenNames d.text)⟩
  | markBreaks => { d with text := PowerBI.markBreaks d.text }
  | spaceTabs width => { d with text := PowerBI.spaceTabs width d.text }

def report (s : Text) : Stage → Reporting Unit
  | removeClauses => do
    Reporting.info "Attempting to remove Metabase Optional Clauses...".toList
    Reporting.warn "This may break queries chaining optional clauses with metabase SQL".toList
    Reporting.indented <| Reporting.each .info <| (Metabase.clauses s).map fun c =>
      "Removed Metabase Optional Clause: ".toList ++ c.preview ++ "...".toList
  | stripClauses => do
    Reporting.info "Attempting to strip Metabase Optional Clauses...".toList
    Reporting.indented <| Reporting.each .info <| (Metabase.clauses s).map fun c =>
      "Stripped Metabase Optional Clause: [[".toList ++ c.body ++ "]]".toList
  | replaceTokens => do
    Reporting.info "Attempting to replace Metabase parameters...".toList
    Reporting.warn "Ensure parameters are properly implemented in PowerBI".toList
  | _ => pure ()

def perform (stage : Stage) (d : Draft) : Reporting Draft := do
  stage.report d.text
  return stage.apply d

def run (stage : Stage) (d : Draft) : Reporting Draft :=
  Reporting.indented (stage.perform d)

def runAll : List Stage → Draft → Reporting Draft
  | [], d => pure d
  | stage :: stages, d => do
    runAll stages (← stage.run d)

theorem run_runAll_fst (stages : List Stage) (d : Draft) (j : Journal) :
    ((runAll stages d).run j).1 = stages.foldl apply d := by
  induction stages generalizing d j with
  | nil => rfl
  | cons stage stages ih => exact ih (stage.apply d) _

end Stage

end QueryBridge.PowerBI
