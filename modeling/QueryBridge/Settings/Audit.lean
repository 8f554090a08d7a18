import QueryBridge.Failure
import QueryBridge.Journal.Reporting
import QueryBridge.Number.Reading
import QueryBridge.Settings.Basic
import QueryBridge.Text.Blank

/-!
Loading the settings from named values. Every setting is required. The first offending one in a
fixed order is reported; what can be put right is only warned about.
-/

namespace QueryBridge

abbrev Values := Text → Option Text

namespace Values

def text (values : Values) (s : Setting) : Except Failure Text :=
  match values s.key with
  | some value => .ok value
  | none => .error (.missing s.key)

/-- A truth value in any ASCII case, blanks around it ignored. -/
def boolean (values : Values) (s : Setting) : Except Failure Bool := do
  let found := (Text.trim (← values.text s)).map Char.toLower
  if found = "true".toList then .ok true
  else if found = "false".toList then .ok false
  else .error (.notBoolean s.key found)

/-- A finite number, blanks around it ignored; an empty value stands for zero. -/
def number (values : Values) (s : Setting) : Except Failure Dyadic := do
  let found := Text.trim (← values.text s)
  if found = [] then .ok ⟨false, 0, 0⟩
  else
    match Number.read found with
    | some (.finite x) => .ok x
    | _ => .error (.notNumber s.key found)

end Values

namespace Settings

def widestTab : Nat := 65535

def tabSizeOf (x : Dyadic) : Except Failure Nat :=
  if x.belowZero then .error (.negativeTab (.finite x))
  else if x.exceeds widestTab then .error (.tabTooWide widestTab (.finite x))
  else .ok x.floor

def verbosityOf? (x : Dyadic) : Option Nat :=
  if x.belowZero || x.exceeds Journal.fullVerbosity then none else some x.ceil

/-- The verbosity at which the audit itself reports, before anything is checked. -/
def auditVerbosity (values : Values) : Nat :=
  match values.number .verbosity with
  | .ok x => (verbosityOf? x).getD Journal.fullVerbosity
  | .error _ => Journal.fullVerbosity

/-- The values as they were asked for: both ways to treat optional clauses may be on, and the
verbosity may be any number. -/
structure Request where
  settings : Settings
  verbosity : Dyadic

namespace Request

def read (values : Values) : Except Failure Request := do
  let host ← values.text .host
  let database ← values.text .database
  let replaceReferences ← values.boolean .replaceReferences
  let replaceTokens ← values.boolean .replaceTokens
  let spliceReferences ← values.boolean .spliceReferences
  let removeClauses ← values.boolean .removeClauses
  let stripClauses ← values.boolean .stripClauses
  let markBreaks ← values.boolean .markBreaks
  let useSpaces ← values.boolean .useSpaces
  let tabSize ← tabSizeOf (← values.number .tabSize)
  let verbosity ← values.number .verbosity
  let settings : Settings :=
    { host, database, replaceReferences, replaceTokens, spliceReferences, removeClauses,
      stripClauses, markBreaks, useSpaces, tabSize }
  return { settings, verbosity }

def conflict (r : Request) : Bool :=
  r.settings.removeClauses && r.settings.stripClauses

/-- The settings in force: a verbosity out of range becomes the highest, and removing clauses
overrides stripping them. -/
def granted (r : Request) : Settings :=
  { r.settings with
    stripClauses := r.settings.stripClauses && !r.settings.removeClauses
    verbosity := (verbosityOf? r.verbosity).getD Journal.fullVerbosity }

def report (r : Request) : Reporting Unit := do
  if verbosityOf? r.verbosity = none then
    Reporting.warn ("Setting \"VERBOSITY\" must be a number 0-3, found ".toList ++
      (Number.finite r.verbosity).text)
    Reporting.info "Defaulting VERBOSITY to 3...".toList
  if r.conflict then
    Reporting.warn "Settings conflict:".toList
    Reporting.indented do
      Reporting.warn ("Both REMOVE_METABASE_OPTIONAL_CLAUSES and ".toList ++
        "STRIP_METABASE_OPTIONAL_CLAUSES are set to true!".toList)
      Reporting.warn "STRIP_METABASE_OPTIONAL_CLAUSES will be ignored.".toList

end Request

def audit (values : Values) : Reporting (Except Failure Settings) := do
  Reporting.info "Performing audit...".toList
  match Request.read values with
  | .error e => return .error e
  | .ok r =>
    r.report
    return .ok r.granted

def load (values : Values) : Reporting (Except Failure Settings) := do
  modify (Journal.setVerbosity (auditVerbosity values))
  Reporting.info "Loading config...".toList
  match ← Reporting.indented (audit values) with
  | .error e => return .error e
  | .ok s =>
    Reporting.success "Config audit complete".toList
    return .ok s

end Settings

end QueryBridge
