import QueryBridge.Text.Caseless

/-!
Marks for the characters that do not stand in a string literal as they are: `#(lf)`, `#(cr)` and
`#(tab)`. They are written in lower case and read in any.
-/

namespace QueryBridge.PowerBI

def lineFeedMark : Text :=
  "#(lf)".toList

def carriageReturnMark : Text :=
  "#(cr)".toList

def tabMark : Text :=
  "#(tab)".toList

def markBreaks (s : Text) : Text :=
  s.flatMap fun c =>
    if c = '\n' then lineFeedMark else if c = '\r' then carriageReturnMark else [c]

def spaceTabs (width : Nat) (s : Text) : Text :=
  s.flatMap fun c => if c = '\t' then List.replicate width ' ' else [c]

def unmarkLineFeeds : Text → Text :=
  (Text.Recognizer.caseless lineFeedMark (by decide)).replace fun _ => ['\n']

def unmarkCarriageReturns : Text → Text :=
  (Text.Recognizer.caseless carriageReturnMark (by decide)).replace fun _ => ['\r']

def unmarkTabs : Text → Text :=
  (Text.Recognizer.caseless tabMark (by decide)).replace fun _ => ['\t']

/-- All marks become the characters they stand for, one kind after the other. -/
def unmark (s : Text) : Text :=
  unmarkTabs (unmarkCarriageReturns (unmarkLineFeeds s))

end QueryBridge.PowerBI
