import QueryBridge.PowerBI.Draft
import QueryBridge.PowerBI.Wrapper

/-!
From Metabase to PowerBI: the query passes the stages that the settings ask for, and the wrapper is
put around the result.
-/

namespace QueryBridge.PowerBI

/-- The stages that the settings ask for, in order. Removing clauses overrides stripping them. -/
def stages (s : Settings) : List Stage :=
  [.doubleQuotes] ++
    (if s.removeClauses then [.removeClauses]
      else if s.stripClauses then [.stripClauses] else []) ++
    (if s.replaceTokens then [.replaceTokens] else []) ++
    (if s.markBreaks then [.markBreaks] else []) ++
    (if s.useSpaces then [.spaceTabs s.tabSize] else [])

def draft (s : Settings) (sql : Text) : Draft :=
  (stages s).foldl Stage.apply ⟨sql, .empty⟩

def query (s : Settings) (sql : Text) : Text :=
  Wrapper.text s (draft s sql).parameters (draft s sql).text

def wrap (s : Settings) (ps : Parameters) (body : Text) : Reporting Text := do
  Reporting.info "Assembling PowerBI query...".toList
  Reporting.info "PowerBI query assembled!".toList
  return Wrapper.text s ps body

theorem run_wrap_fst (s : Settings) (ps : Parameters) (body : Text) (j : Journal) :
    ((wrap s ps body).run j).1 = Wrapper.text s ps body :=
  rfl

def ofMetabase (s : Settings) (sql : Text) : Reporting Text := do
  Reporting.info "Converting query to PowerBI...".toList
  let d ← Stage.runAll (stages s) ⟨sql, .empty⟩
  Reporting.indented (wrap s d.parameters d.text)

theorem run_ofMetabase_fst (s : Settings) (sql : Text) (j : Journal) :
    ((ofMetabase s sql).run j).1 = query s sql := by
  have h := Stage.run_runAll_fst (stages s) ⟨sql, .empty⟩
    (j.note .info "Converting query to PowerBI...".toList)
  exact congrArg (fun d : Draft => Wrapper.text s d.parameters d.text) h

end QueryBridge.PowerBI
