import QueryBridge.Text.Scan

/-!
What a terminal is told beside the text: control sequences, and the styles that they set and reset.
-/

namespace QueryBridge

namespace Terminal

def sequence (code : Text) : Text :=
  "\x1b[".toList ++ code ++ ['m']

def reset : Text :=
  sequence ['0']

def resetMark : Text.Recognizer Unit :=
  .literal reset (by decide)

inductive Palette where
  | none
  | named
  | full
  deriving DecidableEq, Repr

end Terminal

structure Style where
  codes : List Text

namespace Style

def dim : Style := ⟨["2".toList]⟩

def opening (style : Style) : Text :=
  style.codes.flatMap Terminal.sequence

def paint (style : Style) (s : Text) : Text :=
  style.opening ++ s ++ Terminal.reset

/-- A text in the style; where the text itself resets the terminal the style is set again. -/
def paintAll (style : Style) (s : Text) : Text :=
  style.paint (Terminal.resetMark.replace (fun _ => Terminal.reset ++ style.opening) s)

end Style

end QueryBridge
