import QueryBridge.Command.Options
import QueryBridge.Terminal.Style

/-!
What the command says about itself: its help, its version, and the faults in its arguments. Texts
carry the styles of a terminal that shows them.
-/

namespace QueryBridge.Command

def name : Text :=
  "powerbase".toList

def version : Text :=
  "0.1.0".toList

def fileVariable : Text :=
  "POWERBASE_ENV_FILE".toList

def heading : Style := ⟨["1".toList, "4".toList]⟩

def alarm : Style := ⟨["1".toList, "31".toList]⟩

def literal : Style := ⟨["1".toList]⟩

def faulty : Style := ⟨["33".toList]⟩

def proposed : Style := ⟨["32".toList]⟩

namespace Choice

def typed (choice : Choice) : Text :=
  '-' :: '-' :: choice.word

def placeholder : Choice → Text
  | file => " <ENV_FILE>".toList
  | _ => []

def display (choice : Choice) : Text :=
  choice.typed ++ choice.placeholder

def painted (choice : Choice) : Text :=
  literal.paint choice.typed ++ choice.placeholder

end Choice

def alternatives : Text :=
  '<' :: Choice.file.display ++ '|' :: Choice.dryRun.display ++ ['>']

def usageLine (parts : List Text) : Text :=
  heading.paint "Usage:".toList ++ ' ' ::
    List.intercalate [' '] (literal.paint name :: parts) ++ ['\n']

def anyOptions : Text :=
  "[OPTIONS]".toList

namespace UsageFault

def tip? : UsageFault → Option Choice
  | unknownWord _ similar _ => similar
  | _ => none

def what : UsageFault → Text
  | unknown argument =>
    "unexpected argument '".toList ++ faulty.paint argument ++ "' found".toList
  | unknownWord word _ _ =>
    "unexpected argument '".toList ++ faulty.paint ('-' :: '-' :: word) ++ "' found".toList
  | unexpectedValue value flag _ =>
    "unexpected value '".toList ++ faulty.paint value ++ "' for '".toList ++
      literal.paint flag.display ++ "' found; no more were expected".toList
  | repeated choice =>
    "the argument '".toList ++ faulty.paint choice.display ++
      "' cannot be used multiple times".toList
  | missingValue choice =>
    "a value is required for '".toList ++ faulty.paint choice.display ++
      "' but none was supplied".toList

/-- What follows the name of the command in a usage line. With an unknown word these are the options
that were given, among them the one that may have been meant. -/
def usage? : UsageFault → Option (List Text)
  | unknown _ | repeated _ => some [anyOptions]
  | unknownWord _ similar given =>
    match given ++ similar.toList.filter (· ∉ given) with
    | [] => some [anyOptions]
    | choices => some (choices.map Choice.painted)
  | unexpectedValue _ flag false => some [flag.painted]
  | unexpectedValue _ .dryRun true | unexpectedValue _ .file true => some [alternatives]
  | unexpectedValue _ flag true => some [flag.painted, alternatives]
  | missingValue _ => none

def message (f : UsageFault) : Text :=
  alarm.paint "error:".toList ++ ' ' :: f.what ++ "\n\n".toList ++
    (match f.tip? with
      | some choice =>
        "  ".toList ++ proposed.paint "tip:".toList ++ " a similar argument exists: '".toList ++
          proposed.paint choice.typed ++ "'\n\n".toList
      | none => []) ++
    (match f.usage? with
      | some parts => usageLine parts ++ ['\n']
      | none => []) ++
    "For more information, try '".toList ++ literal.paint Choice.help.typed ++ "'.\n".toList

end UsageFault

def versionText : Text :=
  name ++ ' ' :: version ++ ['\n']

def helpColumn : Nat := 29

def hang (s : Text) : Text :=
  s.flatMap fun c => if c = '\n' then '\n' :: List.replicate helpColumn ' ' else [c]

def helpLine (choice : Choice) (help : Text) : Text :=
  let short := match choice.letter? with
    | some c => "  ".toList ++ literal.paint ['-', c] ++ ", ".toList
    | none => List.replicate 6 ' '
  let gap := List.replicate (helpColumn - 6 - choice.display.length) ' '
  short ++ choice.painted ++ gap ++ hang help ++ ['\n']

def helpText (fallback : Option Text) : Text :=
  "Convert the SQL query on the clipboard between PowerBI M and Metabase\n\n".toList ++
  usageLine [anyOptions] ++ '\n' ::
  heading.paint "Options:".toList ++ '\n' ::
  helpLine .file ("Load settings from this file instead of ./.env [env: ".toList ++
    fileVariable ++ '=' :: fallback.getD [] ++ [']']) ++
  helpLine .dryRun "Print the converted query instead of writing it to the clipboard".toList ++
  helpLine .help "Print help".toList ++
  helpLine .version "Print version".toList ++
  "\nSETTINGS (environment or .env):\n".toList ++
  "    DB_HOST, DB_NAME, REPLACE_POWERBI_PARAMS, REPLACE_METABASE_PARAMS,\n".toList ++
  "    POWERBI_PARAMS_USE_CONCATENATION, REMOVE_METABASE_OPTIONAL_CLAUSES,\n".toList ++
  "    STRIP_METABASE_OPTIONAL_CLAUSES, INLINE_POWERBI_QUERY, USE_SPACES,\n".toList ++
  "    TAB_SIZE, VERBOSITY\n".toList

end QueryBridge.Command
