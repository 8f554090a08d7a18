import QueryBridge.Clipboard
import QueryBridge.Command.Usage
import QueryBridge.Folder
import QueryBridge.Settings.File
import QueryBridge.Terminal.Plain

/-!
A run of the command: from arguments, environment, files and clipboard to an exit code, the two
output streams and the clipboard afterwards.
-/

namespace QueryBridge.Command

/-- What a run can see. A clipboard that cannot be opened gives the reason. -/
structure Invocation where
  arguments : List Text
  environment : Values
  files : Text → Except ReadFault Text
  clipboard : Except Text Clipboard

def noDisplay : Text :=
  ("Unknown error while interacting with the clipboard: " ++
    "X11 server connection timed out because it was unreachable").toList

structure Outcome where
  code : Nat
  standardOutput : Text
  standardError : Text
  clipboard : Option Clipboard

def defaultFile : Text :=
  ".env".toList

/-- The values in force, and what went wrong with the settings file. A file that nobody named may
be missing, and the faults in it are passed over. -/
def loadFile (i : Invocation) (file : Option Text) : Values × Option Text :=
  match i.files (file.getD defaultFile), file with
  | .ok text, some path =>
    let (values, misreading) := Settings.File.load i.environment text
    (values, misreading.map fun m =>
      "Failed to load settings from ".toList ++ path ++ ": ".toList ++ m.message)
  | .ok text, none => ((Settings.File.load i.environment text).1, none)
  | .error fault, some path =>
    (i.environment,
      some ("Failed to load settings from ".toList ++ path ++ ": ".toList ++ fault.message ++
        ": ".toList ++ fault.message))
  | .error _, none => (i.environment, none)

def forceVariable : Text :=
  "CLICOLOR_FORCE".toList

def coloursVariable : Text :=
  "COLORTERM".toList

def plainVariable : Text :=
  "NO_COLOR".toList

/-- The colours of the status lines. A zero asks for none. -/
def palette (values : Values) : Terminal.Palette :=
  match values forceVariable with
  | none | some ['0'] => .none
  | some _ =>
    match values coloursVariable with
    | some colours =>
      if colours = "truecolor".toList || colours = "24bit".toList then .full else .named
    | none => .named

/-- What the command says about itself has its styles where any text asks for them and none forbids
them. -/
def styled (values : Values) : Bool :=
  (values forceVariable).getD [] ≠ [] && (values plainVariable).getD [] = []

def shown (values : Values) (s : Text) : Text :=
  if styled values then s else Terminal.plain s

def loadSettings (values : Values) : Reporting (Except Text Settings) := do
  match ← Settings.load values with
  | .error e => return .error e.message
  | .ok s =>
    modify (Journal.setVerbosity s.verbosity)
    return .ok s

def openClipboard (i : Invocation) : Except Text Clipboard :=
  match i.clipboard with
  | .ok c => .ok c
  | .error cause =>
    .error ("Failed to open the system clipboard: ".toList ++ (Failure.clipboard cause).message)

def convertClipboard (s : Settings) (dryRun : Bool) (c : Clipboard) :
    Reporting (Except Text (Text × Clipboard)) := do
  if dryRun then
    match c.read with
    | .error e => return .error e.message
    | .ok sql =>
      match ← convert s sql with
      | .error e => return .error e.message
      | .ok out => return .ok (out ++ ['\n'], c)
  else
    match ← c.convert s with
    | (.error e, _) => return .error e.message
    | (.ok _, c) =>
      modify Journal.reset
      Reporting.success "Transpiled query copied to clipboard!".toList
      return .ok ([], c)

def steps (i : Invocation) (dryRun : Bool) (values : Values) (fault : Option Text) :
    Reporting (Except Text (Text × Clipboard)) := do
  match fault with
  | some message => return .error message
  | none =>
    match ← loadSettings values with
    | .error message => return .error message
    | .ok s =>
      match openClipboard i with
      | .error message => return .error message
      | .ok c => convertClipboard s dryRun c

def conversion (i : Invocation) (dryRun : Bool) (file : Option Text) : Outcome :=
  let (values, fault) := loadFile i file
  let (result, journal) := (steps i dryRun values fault).run (.console (palette values))
  match result with
  | .ok (printed, c) => ⟨0, journal.standardOutput ++ printed, journal.standardError, some c⟩
  | .error message =>
    let journal := journal.reset.abort message
    ⟨1, journal.standardOutput, journal.standardError, i.clipboard.toOption⟩

def run (i : Invocation) : Outcome :=
  let fallback := i.environment fileVariable
  match Wish.read fallback i.arguments with
  | .error fault => ⟨2, [], shown i.environment fault.message, i.clipboard.toOption⟩
  | .ok .help => ⟨0, shown i.environment (helpText fallback), [], i.clipboard.toOption⟩
  | .ok .version => ⟨0, versionText, [], i.clipboard.toOption⟩
  | .ok (.convert dryRun file) => conversion i dryRun file

end QueryBridge.Command
