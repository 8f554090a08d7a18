import QueryBridge.Terminal.Style

/-!
The four kinds of status line: from which verbosity on a line shows, how it is tagged and how a
terminal colours it.
-/

namespace QueryBridge

inductive Severity where
  | info
  | success
  | warning
  | error
  deriving DecidableEq, Repr

namespace Severity

/-- The highest verbosity at which lines of this kind do not show. -/
def mutedAt : Severity → Nat
  | info => 2
  | success | warning => 1
  | error => 0

def tag : Severity → Text
  | info => "[i]".toList
  | success => "[✓]".toList
  | warning => "[?]".toList
  | error => "[!]".toList

def label (severity : Severity) (msg : Text) : Text :=
  severity.tag ++ ' ' :: msg

/-- Warnings are orange, or yellow where colours cannot be mixed. -/
def style (palette : Terminal.Palette) : Severity → Style
  | info => .dim
  | success => ⟨["1;32".toList]⟩
  | warning => if palette = .full then ⟨["38;2;255;165;0".toList]⟩ else ⟨["33".toList]⟩
  | error => ⟨["1;31".toList]⟩

end Severity

end QueryBridge
