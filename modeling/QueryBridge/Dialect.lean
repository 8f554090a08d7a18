import QueryBridge.Failure
import QueryBridge.PowerBI.Mark

/-!
The two dialects and how a query is told to be in one of them.
-/

namespace QueryBridge

inductive Dialect where
  | powerBI
  | metabase
  deriving DecidableEq, Repr

namespace Dialect

def name : Dialect → Text
  | powerBI => "PowerBI".toList
  | metabase => "Metabase".toList

/-- A query is always converted into the dialect that it is not in. -/
def other : Dialect → Dialect
  | powerBI => metabase
  | metabase => powerBI

def hasStatement (s : Text) : Bool :=
  Text.withinCaseless "select".toList s || Text.withinCaseless "from".toList s

def hasPowerBIMarks (s : Text) : Bool :=
  (Text.withinCaseless PowerBI.lineFeedMark s ||
    Text.withinCaseless PowerBI.carriageReturnMark s) &&
    Text.withinCaseless "NativeQuery(".toList s

def hasMetabaseMarks (s : Text) : Bool :=
  Text.within ['{', '{'] s || Text.within ['}', '}'] s ||
    Text.within ['[', '['] s || Text.within [']', ']'] s

/-- The dialect whose marks a query has, if it has those of just one. -/
def ofQuery (s : Text) : Except Failure Dialect :=
  if hasStatement s then
    match hasPowerBIMarks s, hasMetabaseMarks s with
    | true, false => .ok powerBI
    | false, true => .ok metabase
    | true, true => .error (.ambiguous .both)
    | false, false => .error (.ambiguous .neither)
  else .error (.noStatementIn s)

end Dialect

end QueryBridge
