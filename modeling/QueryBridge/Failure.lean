import QueryBridge.Number.Writing

/-!
The reasons why a run stops, and their wording.
-/

namespace QueryBridge

inductive Ambiguity where
  | both
  | neither
  deriving DecidableEq, Repr

inductive Failure where
  | missing (key : Text)
  | notBoolean (key found : Text)
  | notNumber (key found : Text)
  | negativeTab (found : Number)
  | tabTooWide (most : Nat) (found : Number)
  | noStatement (preview : Text)
  | ambiguous (reason : Ambiguity)
  | clipboard (cause : Text)
  deriving DecidableEq, Repr

inductive FailureKind where
  | settings
  | detection
  | device
  deriving DecidableEq, Repr

def Ambiguity.message : Ambiguity → Text
  | both => "query carries both PowerBI and Metabase markers".toList
  | neither => "query carries neither PowerBI nor Metabase markers".toList

namespace Failure

def kind : Failure → FailureKind
  | missing _ | notBoolean _ _ | notNumber _ _ | negativeTab _
  | tabTooWide _ _ => .settings
  | noStatement _ | ambiguous _ => .detection
  | clipboard _ => .device

/-- A text without a statement is shown by its first 30 characters. -/
def noStatementIn (s : Text) : Failure :=
  noStatement (s.take 30)

def expected (type key found : Text) : Text :=
  "Expected type \"".toList ++ type ++ "\" for setting \"".toList ++ key ++
    "\", found \"".toList ++ found ++ ['"']

def message : Failure → Text
  | missing key => "Missing configuration: ".toList ++ key
  | notBoolean key found => expected "boolean".toList key found
  | notNumber key found => expected "number".toList key found
  | negativeTab found =>
    "Setting \"TAB_SIZE\" must be a non-negative number, found ".toList ++ found.text
  | tabTooWide most found =>
    "Setting \"TAB_SIZE\" must be at most ".toList ++ Nat.toDigits 10 most ++
      ", found ".toList ++ found.text
  | noStatement preview => "No SQL statement found in ".toList ++ preview ++ "...".toList
  | ambiguous reason => "Ambiguous encoding detected: ".toList ++ reason.message
  | clipboard cause => "Clipboard error: ".toList ++ cause

end Failure

end QueryBridge
