import QueryBridge.Settings.Audit
import QueryBridge.Text.Alphanumeric

/-!
Settings files: lines `KEY=value`, blank lines and comments. A value may stand in quotes and then
goes on over line ends; outside single quotes a dollar sign stands for the value of a name. What is
already defined is not redefined.
-/

namespace QueryBridge

def Values.define (values : Values) (key value : Text) : Values := fun k =>
  if k = key && (values k).isNone then some value else values k

/-- What a name stands for in the list of all entries `NAME=value`. A name with an equals sign can
only be the head of an entry that goes on with another one: its variable ends at the first equals
sign, and the value has to begin with the rest. -/
def Values.expand (values : Values) (name : Text) : Option Text :=
  match name.dropWhile (· ≠ '=') with
  | [] => values name
  | _ :: rest => (values (name.takeWhile (· ≠ '='))).bind (Text.after? (rest ++ ['=']))

namespace Settings.File

structure Misreading where
  line : Text
  index : Nat
  deriving DecidableEq, Repr

def Misreading.message (m : Misreading) : Text :=
  "Error parsing line: '".toList ++ m.line ++ "', error at line index: ".toList ++
    Nat.toDigits 10 m.index

/-- What is open at a place of a line: an escape, a quotation, or a blank that a comment may
follow. -/
inductive Openness where
  | closed
  | blank
  | escape
  | weak
  | weakEscape
  | strong
  | strongEscape
  deriving DecidableEq, Repr

namespace Openness

def bare (c : Char) (afterBlank : Bool) : Openness :=
  if c = '\\' then escape
  else if c = '"' then weak
  else if c = '\'' then strong
  else if !afterBlank && Text.isBlank c && c ≠ '\n' && c ≠ '\r' then blank
  else closed

def next (c : Char) : Openness → Openness
  | closed => bare c false
  | blank => bare c true
  | escape => closed
  | weak => if c = '\\' then weakEscape else if c = '"' then closed else weak
  | weakEscape => weak
  | strong => if c = '\\' then strongEscape else if c = '\'' then closed else strong
  | strongEscape => strong

end Openness

def scanLine (before : Text) : Openness → Text → Text ⊕ Openness
  | o, [] => .inr o
  | o, c :: s =>
    if o = .blank && c = '#' then .inl before.reverse else scanLine (c :: before) (o.next c) s

def physicalLines (before : Text) : Text → List Text
  | [] => if before = [] then [] else [before.reverse]
  | c :: s =>
    if c = '\n' then (c :: before).reverse :: physicalLines [] s
    else physicalLines (c :: before) s

def dropLineEnd (line : Text) : Text :=
  match line.reverse with
  | '\n' :: '\r' :: s => s.reverse
  | '\n' :: s => s.reverse
  | _ => line

/-- Joins lines as long as something is open, and drops comments. -/
def logicalLines (o : Openness) (pending : Text) : List Text → List (Except Misreading Text)
  | [] => if o = .closed then [] else [.error ⟨pending, Text.byteLength pending⟩]
  | line :: lines =>
    if pending = [] && (Text.skip line).head? = some '#' then logicalLines .closed [] lines
    else
      match scanLine [] o line with
      | .inl kept => .ok (pending ++ kept) :: logicalLines .closed [] lines
      | .inr .closed => .ok (dropLineEnd (pending ++ line)) :: logicalLines .closed [] lines
      | .inr o => logicalLines o (pending ++ line) lines

inductive Mode where
  | copying
  | strong
  | escape
  | finished
  | name (found : Text)
  | bracedName (found : Text)
  deriving DecidableEq, Repr

structure Reader where
  mode : Mode
  weak : Bool
  value : Text
  deriving DecidableEq, Repr

namespace Reader

def push (r : Reader) (c : Char) : Reader :=
  { r with mode := .copying, value := c :: r.value }

def substitute (values : Values) (found : Text) (r : Reader) : Reader :=
  { r with mode := .copying, value := ((values.expand found.reverse).getD []).reverse ++ r.value }

def copy (c : Char) (r : Reader) : Reader :=
  if c = '$' then { r with mode := .name [] }
  else if c = '\\' then { r with mode := .escape }
  else if c = '"' then { r with weak := !r.weak }
  else if r.weak then r.push c
  else if c = '\'' then { r with mode := .strong }
  else if c = ' ' || c = '\t' then { r with mode := .finished }
  else r.push c

def step (values : Values) (c : Char) (r : Reader) : Option Reader :=
  match r.mode with
  | .copying => some (r.copy c)
  | .strong =>
    some (if c = '\'' then { r with mode := .copying } else { r with value := c :: r.value })
  | .escape =>
    if c = 'n' then some (r.push '\n')
    else if c ∈ ['\\', '\'', '"', '$', ' '] then some (r.push c)
    else none
  | .finished => if c = ' ' || c = '\t' then some r else none
  | .name found =>
    if Text.isAlphanumeric c then some { r with mode := .name (c :: found) }
    else if c = '{' && found = [] then some { r with mode := .bracedName [] }
    else
      let r := r.substitute values found
      some (if c = '$' then { r with mode := .name [] } else r.push c)
  | .bracedName found =>
    some (if c = '}' then r.substitute values found
      else { r with mode := .bracedName (c :: found) })

def run (values : Values) (s : Text) (index : Nat) (r : Reader) : Text → Except Misreading Text
  | [] =>
    match r.mode with
    | .strong | .bracedName _ => .error ⟨s, Text.byteLength s - 1⟩
    | mode =>
      if r.weak then .error ⟨s, Text.byteLength s - 1⟩
      else
        match mode with
        | .name found => .ok (r.substitute values found).value.reverse
        | _ => .ok r.value.reverse
  | c :: rest =>
    if r.mode = .finished && c = '#' then .ok r.value.reverse
    else
      match r.step values c with
      | some r => run values s (index + 1) r rest
      | none => .error ⟨s, index⟩

end Reader

def readValue (values : Values) (s : Text) : Except Misreading Text :=
  Reader.run values s 0 ⟨.copying, false, []⟩ s

def isKeyStart (c : Char) : Bool :=
  c.isAlpha || c = '_'

def isKeyPart (c : Char) : Bool :=
  c.isAlphanum || c = '_' || c = '.'

def readKey : Text → Option (Text × Text)
  | [] => none
  | c :: s =>
    if isKeyStart c then some ((c :: s).takeWhile isKeyPart, (c :: s).dropWhile isKeyPart) else none

def readEquals (s : Text) : Except Text Text :=
  match Text.skip s with
  | '=' :: t => .ok t
  | t => .error t

def readDefinition (s : Text) : Except Text (Text × Text) := do
  match readKey s with
  | none => .error s
  | some (key, rest) => return (key, ← readEquals rest)

/-- The word `export` may stand before a definition; it may also be the name defined. -/
def readHead (s : Text) : Except Text (Text × Text) :=
  match readKey s with
  | none => .error s
  | some (key, rest) =>
    if key = "export".toList && (readEquals rest).toOption.isNone then
      readDefinition (Text.skip rest)
    else readDefinition s

/-- The name that a line defines and its value; `none` for a line without content. -/
def readEntry (values : Values) (line : Text) : Except Misreading (Option (Text × Text)) :=
  let s := Text.trimEnd line
  match Text.skip s with
  | [] => .ok none
  | c :: t =>
    if c = '#' then .ok none
    else
      match readHead (c :: t) with
      | .error rest => .error ⟨line, Text.byteLength s - Text.byteLength rest⟩
      | .ok (key, rest) =>
        match Text.skip rest with
        | [] => .ok (some (key, []))
        | '#' :: _ => .ok (some (key, []))
        | value => (readValue values value).map fun v => some (key, v)

def define (values : Values) : List (Except Misreading Text) → Values × Option Misreading
  | [] => (values, none)
  | .error e :: _ => (values, some e)
  | .ok line :: lines =>
    match readEntry values line with
    | .error e => (values, some e)
    | .ok none => define values lines
    | .ok (some (key, value)) => define (values.define key value) lines

def withoutMark : Text → Text
  | [] => []
  | c :: s => if c = '\ufeff' then s else c :: s

def load (values : Values) (file : Text) : Values × Option Misreading :=
  define values (logicalLines .closed [] (physicalLines [] (withoutMark file)))

end Settings.File

end QueryBridge
