import QueryBridge.Journal.Severity

/-!
The journal of a run: it lets status lines through by verbosity, indents them by depth and keeps
them. One medium collects plain lines, the other the two streams of a terminal.
-/

namespace QueryBridge

/-- What holds the lines. A console has those of standard output and of standard error. -/
inductive Medium where
  | captured (lines : List Text)
  | console (palette : Terminal.Palette) (out err : List Text)
  deriving DecidableEq, Repr

namespace Medium

/-- A line as a console shows it: the padding and the label are styled each on its own. -/
def consoleLine (palette : Terminal.Palette) (pad : Text) (severity : Severity) (label : Text) :
    Text :=
  if palette = .none then pad ++ label
  else Style.dim.paintAll pad ++ (severity.style palette).paintAll label

def write (pad : Text) (severity : Severity) (label : Text) : Medium → Medium
  | captured lines => captured (lines ++ [pad ++ label])
  | console palette out err =>
    let line := consoleLine palette pad severity label
    if severity = .error then console palette out (err ++ [line])
    else console palette (out ++ [line]) err

end Medium

structure Journal where
  verbosity : Nat
  depth : Nat
  medium : Medium
  deriving DecidableEq, Repr

namespace Journal

def fullVerbosity : Nat := 3

def indentWidth : Nat := 4

def capture : Journal :=
  ⟨fullVerbosity, 0, .captured []⟩

def console (palette : Terminal.Palette) : Journal :=
  ⟨fullVerbosity, 0, .console palette [] []⟩

def lines (j : Journal) : List Text :=
  match j.medium with
  | .captured lines => lines
  | .console _ _ _ => []

def standardOutput (j : Journal) : Text :=
  match j.medium with
  | .captured _ => []
  | .console _ out _ => out.flatMap (· ++ ['\n'])

def standardError (j : Journal) : Text :=
  match j.medium with
  | .captured _ => []
  | .console _ _ err => err.flatMap (· ++ ['\n'])

def setVerbosity (v : Nat) (j : Journal) : Journal :=
  { j with verbosity := min v fullVerbosity }

def indent (j : Journal) : Journal :=
  { j with depth := j.depth + indentWidth }

/-- At the left margin there is nothing to undo. -/
def dedent (j : Journal) : Journal :=
  { j with depth := j.depth - indentWidth }

def reset (j : Journal) : Journal :=
  { j with depth := 0 }

def shows (severity : Severity) (j : Journal) : Bool :=
  severity.mutedAt < j.verbosity

def note (severity : Severity) (msg : Text) (j : Journal) : Journal :=
  if j.shows severity then
    { j with
      medium := j.medium.write (List.replicate j.depth '-') severity (severity.label msg) }
  else j

/-- Reports what ends the run, whatever the verbosity was, and leaves it full. -/
def abort (msg : Text) (j : Journal) : Journal :=
  (j.setVerbosity fullVerbosity).note .error ("Fatal Error: ".toList ++ msg)
    |>.note .error "Aborting...".toList

end Journal

end QueryBridge
