import QueryBridge.Text.Similarity

/-!
The options of the command: what the arguments ask for, and what is wrong with arguments that ask
for nothing. Arguments are read from left to right; the first fault decides.
-/

namespace QueryBridge.Command

inductive Choice where
  | file
  | dryRun
  | help
  | version
  deriving DecidableEq, Repr

namespace Choice

def all : List Choice :=
  [file, dryRun, help, version]

def word : Choice → Text
  | file => "env-file".toList
  | dryRun => "dry-run".toList
  | help => "help".toList
  | version => "version".toList

def letter? : Choice → Option Char
  | file => none
  | dryRun => some 'd'
  | help => some 'h'
  | version => some 'V'

def ofWord? (word : Text) : Option Choice :=
  all.find? (·.word = word)

def ofLetter? (c : Char) : Option Choice :=
  all.find? (·.letter? = some c)

def similarTo? (word : Text) : Option Choice :=
  Text.nearest? Choice.word word all

end Choice

/-- What is wrong with the arguments. An unknown word comes with the option that it may have been
meant for and those given before; a value that a flag cannot take, with whether any were given. -/
inductive UsageFault where
  | unknown (argument : Text)
  | unknownWord (word : Text) (similar : Option Choice) (given : List Choice)
  | unexpectedValue (value : Text) (flag : Choice) (anyGiven : Bool)
  | repeated (choice : Choice)
  | missingValue (choice : Choice)
  deriving DecidableEq, Repr

/-- What was given so far: the options in their order, and the settings file. An option that takes
its value from the next argument is pending, with that value once it has been seen, until another
option or the end completes it. -/
structure Given where
  choices : List Choice
  file : Option Text
  pending : Option (Option Text)
  deriving DecidableEq, Repr

inductive Wish where
  | convert (dryRun : Bool) (file : Option Text)
  | help
  | version
  deriving DecidableEq, Repr

namespace Given

def nothing : Given :=
  ⟨[], none, none⟩

/-- Notes an option, and says where it cannot stand. One that stands twice no longer counts. -/
def note (g : Given) (choice : Choice) : Given × Option UsageFault :=
  if choice ∈ g.choices then
    ({ g with choices := g.choices.erase choice }, some (.repeated choice))
  else ({ g with choices := g.choices ++ [choice] }, none)

/-- Notes the settings file. An empty value is a missing one, though the option counts. -/
def noteFile (g : Given) (value : Text) : Given × Option UsageFault :=
  match g.note .file with
  | (g, some fault) => (g, some fault)
  | (g, none) =>
    if value = [] then (g, some (.missingValue .file)) else ({ g with file := some value }, none)

def complete (g : Given) : Given × Option UsageFault :=
  match g.pending with
  | none => (g, none)
  | some none => (g, some (.missingValue .file))
  | some (some value) => { g with pending := none }.noteFile value

def sound : Given × Option UsageFault → Except UsageFault Given
  | (g, none) => .ok g
  | (_, some fault) => .error fault

def takeFlag (g : Given) (flag : Choice) : Except UsageFault (Given ⊕ Wish) := do
  let g ← sound g.complete
  match flag with
  | .help => return .inr .help
  | .version => return .inr .version
  | flag => return .inl (← sound (g.note flag))

def takeFile (g : Given) (value : Option Text) : Except UsageFault Given := do
  let g ← sound g.complete
  match value with
  | some v => sound (g.noteFile v)
  | none => return { g with pending := some none }

def takeLetters (g : Given) : Text → Except UsageFault (Given ⊕ Wish)
  | [] => .ok (.inl g)
  | c :: letters =>
    match Choice.ofLetter? c with
    | none => .error (.unknown ['-', c])
    | some flag => do
      match ← g.takeFlag flag with
      | .inl g => g.takeLetters letters
      | .inr wish => return .inr wish

def takeWord (g : Given) (s : Text) : Except UsageFault (Given ⊕ Wish) :=
  let word := s.takeWhile (· ≠ '=')
  let value := (s.dropWhile (· ≠ '=')).tail?
  match Choice.ofWord? word, value with
  | some .file, value => (g.takeFile value).map .inl
  | some flag, none => g.takeFlag flag
  | some flag, some v => .error (.unexpectedValue v flag (g.choices ≠ []))
  | none, _ => .error (.unknownWord word (Choice.similarTo? word) g.complete.1.choices)

def takePlain (g : Given) (s : Text) : Except UsageFault Given :=
  match g.pending with
  | some none => .ok { g with pending := some (some s) }
  | _ => .error (.unknown s)

def read (g : Given) : List Text → Except UsageFault Wish
  | [] => do
    let g ← sound g.complete
    return .convert (.dryRun ∈ g.choices) g.file
  | argument :: arguments =>
    match argument with
    | ['-', '-'] =>
      match arguments with
      | [] => g.read []
      | s :: _ => .error (.unknown s)
    | '-' :: '-' :: s => do
      match ← g.takeWord s with
      | .inl g => g.read arguments
      | .inr wish => return wish
    | '-' :: c :: s => do
      match ← g.takeLetters (c :: s) with
      | .inl g => g.read arguments
      | .inr wish => return wish
    | s => do
      let g ← g.takePlain s
      g.read arguments

end Given

/-- What the arguments ask for. Where they name no settings file the fallback does so, and then it
may not be empty. -/
def Wish.read (fallback : Option Text) (arguments : List Text) : Except UsageFault Wish := do
  match ← Given.nothing.read arguments, fallback with
  | .convert dryRun none, some value =>
    if value = [] then .error (.missingValue .file) else return .convert dryRun (some value)
  | wish, _ => return wish

end QueryBridge.Command
