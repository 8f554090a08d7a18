import QueryBridge.Conversion

/-!
A clipboard, and converting the query on it in place.
-/

namespace QueryBridge

structure Clipboard where
  contents : Option Text
  deriving DecidableEq, Repr

namespace Clipboard

def empty : Clipboard :=
  ⟨none⟩

def read (c : Clipboard) : Except Failure Text :=
  match c.contents with
  | some s => .ok s
  | none => .error (.clipboard "clipboard is empty".toList)

def write (s : Text) (_ : Clipboard) : Clipboard :=
  ⟨some s⟩

/-- Converts what the clipboard holds and puts the result back. Where either fails the clipboard
stays as it was. -/
def convert (s : Settings) (c : Clipboard) : Reporting (Except Failure Text × Clipboard) := do
  Reporting.info "Reading clipboard...".toList
  match c.read with
  | .error e => return (.error e, c)
  | .ok sql =>
    match ← QueryBridge.convert s sql with
    | .error e => return (.error e, c)
    | .ok out => return (.ok out, c.write out)

end Clipboard

end QueryBridge
