import QueryBridge.Text.Basic

/-!
The settings that conversions consult, and the names that they are given under.
-/

namespace QueryBridge

structure Settings where
  host : Text := "localhost".toList
  database : Text := "postgres".toList
  replaceReferences : Bool := true
  replaceTokens : Bool := true
  /-- Read and checked, but no conversion depends on it. -/
  spliceReferences : Bool := false
  removeClauses : Bool := false
  stripClauses : Bool := true
  markBreaks : Bool := true
  useSpaces : Bool := false
  tabSize : Nat := 4
  verbosity : Nat := 3
  deriving DecidableEq, Repr

namespace Settings

def tab (s : Settings) : Text :=
  if s.useSpaces then List.replicate s.tabSize ' ' else ['\t']

end Settings

inductive Setting where
  | host
  | database
  | replaceReferences
  | replaceTokens
  | spliceReferences
  | removeClauses
  | stripClauses
  | markBreaks
  | useSpaces
  | tabSize
  | verbosity
  deriving DecidableEq, Repr

namespace Setting

def key : Setting → Text
  | host => "DB_HOST".toList
  | database => "DB_NAME".toList
  | replaceReferences => "REPLACE_POWERBI_PARAMS".toList
  | replaceTokens => "REPLACE_METABASE_PARAMS".toList
  | spliceReferences => "POWERBI_PARAMS_USE_CONCATENATION".toList
  | removeClauses => "REMOVE_METABASE_OPTIONAL_CLAUSES".toList
  | stripClauses => "STRIP_METABASE_OPTIONAL_CLAUSES".toList
  | markBreaks => "INLINE_POWERBI_QUERY".toList
  | useSpaces => "USE_SPACES".toList
  | tabSize => "TAB_SIZE".toList
  | verbosity => "VERBOSITY".toList

/-- All settings, in the order in which they are checked. -/
def all : List Setting :=
  [host, database, replaceReferences, replaceTokens, spliceReferences, removeClauses, stripClauses,
    markBreaks, useSpaces, tabSize, verbosity]

end Setting

end QueryBridge
