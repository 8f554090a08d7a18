import QueryBridge.Command.Run

/-!
The command line. Reads what a run can see and writes what it gives; all decisions are made in
`Command.run`.
-/

namespace QueryBridge.Command

/-- Names that a run may look up: those of the settings and the colours, and all that a settings
file may mention, be it that it defines them or that it refers to them with or without braces. -/
def names (file : Text) : List Text :=
  Setting.all.map Setting.key ++ [fileVariable, forceVariable, coloursVariable, plainVariable] ++
    (file.splitBy fun a b => Settings.File.isKeyPart a = Settings.File.isKeyPart b) ++
    (file.splitBy fun a b => Text.isAlphanumeric a = Text.isAlphanumeric b) ++
    file.splitBy fun a b => a ∉ bounds && b ∉ bounds
where
  bounds : List Char := ['\x7b', '\x7d', '=']

def environmentOf : List Text → IO (List (Text × Text))
  | [] => pure []
  | name :: names => do
    let rest ← environmentOf names
    match ← IO.getEnv (String.ofList name) with
    | some value => return (name, value.toList) :: rest
    | none => return rest

def fileFor (arguments : List Text) (fallback : Option Text) : Text :=
  match Wish.read fallback arguments with
  | .ok (.convert _ (some file)) => file
  | _ => defaultFile

/-- The fault behind a system error; one that is not foreseen counts as a missing file. -/
def faultOf : IO.Error → ReadFault
  | .permissionDenied _ _ _ => .forbidden
  | .inappropriateType _ code _ => if code = 21 then .folder else .notFolder
  | .invalidArgument _ _ _ => .longName
  | _ => .missing

def contentsOf (file : Text) : IO (Except ReadFault Text) := do
  try
    let text ← IO.FS.readFile (String.ofList file)
    return .ok text.toList
  catch e => return .error (faultOf e)

end QueryBridge.Command

open QueryBridge Command in
def main (arguments : List String) : IO UInt32 := do
  let arguments := arguments.map String.toList
  let named ← environmentOf [fileVariable]
  let file := fileFor arguments (named.lookup fileVariable)
  let contents ← contentsOf file
  let found ← environmentOf (names (contents.toOption.getD []))
  let outcome := run
    { arguments
      environment := fun name => found.lookup name
      files := fun name => if name = file then contents else .error .missing
      clipboard := .error noDisplay }
  IO.print (String.ofList outcome.standardOutput)
  IO.eprint (String.ofList outcome.standardError)
  return outcome.code.toUInt32
