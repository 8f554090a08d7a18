import QueryBridge.Dialect
import QueryBridge.Metabase.OfPowerBI
import QueryBridge.PowerBI.OfMetabase

/-!
Converting a query into the dialect that it is not in. Its result does not depend on the journal.
-/

namespace QueryBridge

def identify (sql : Text) : Reporting (Except Failure Dialect) :=
  match Dialect.ofQuery sql with
  | .error e => pure (.error e)
  | .ok d => do
    Reporting.info "SQL statement detected".toList
    Reporting.success ("Detected encoding: ".toList ++ d.name)
    return .ok d

/-- A query of the other dialect, expressed in this one. -/
def Dialect.query (s : Settings) (sql : Text) : Dialect → Text
  | .powerBI => PowerBI.query s sql
  | .metabase => Metabase.query s sql

def Dialect.express (s : Settings) (sql : Text) : Dialect → Reporting Text
  | .powerBI => PowerBI.ofMetabase s sql
  | .metabase => Metabase.ofPowerBI s sql

def converted (s : Settings) (sql : Text) : Except Failure Text :=
  (Dialect.ofQuery sql).map fun d => d.other.query s sql

def convert (s : Settings) (sql : Text) : Reporting (Except Failure Text) := do
  match ← identify sql with
  | .error e => return .error e
  | .ok d => return .ok (← d.other.express s sql)

theorem run_identify_fst (sql : Text) (j : Journal) :
    ((identify sql).run j).1 = Dialect.ofQuery sql := by
  unfold identify
  cases Dialect.ofQuery sql <;> rfl

theorem Dialect.run_express_fst (s : Settings) (sql : Text) (d : Dialect) (j : Journal) :
    ((d.express s sql).run j).1 = d.query s sql := by
  cases d with
  | powerBI => exact PowerBI.run_ofMetabase_fst s sql j
  | metabase => exact Metabase.run_ofPowerBI_fst s sql j

theorem run_convert_fst (s : Settings) (sql : Text) (j : Journal) :
    ((convert s sql).run j).1 = converted s sql := by
  unfold convert converted
  rw [Reporting.run_bind, run_identify_fst]
  cases Dialect.ofQuery sql with
  | error e => rfl
  | ok d => exact congrArg Except.ok (d.other.run_express_fst s sql _)

end QueryBridge
