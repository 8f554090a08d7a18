import QueryBridge.Text.Basic

/-!
A text without what only steers a terminal. Escape sequences go whole, also unfinished ones, and
so do control characters other than those that lay out a text. A text with nothing to take out
stays as it is.
-/

namespace QueryBridge.Terminal

/-- The escape sequence that a place of a text lies in. A control sequence sets or asks something; a
device control string has a head of its own before its text; a command ends at the bell. -/
inductive Pending where
  | nothing
  | escape
  | intermediate
  | control
  | deviceEntry
  | deviceParameter
  | deviceIntermediate
  | deviceText
  | message
  | command
  deriving DecidableEq, Repr

def isLayout (c : Char) : Bool :=
  c = '\t' || c = '\n' || c = '\x0c' || c = '\r'

def isIntermediate (c : Char) : Bool :=
  ' ' ≤ c && c ≤ '/'

def isParameter (c : Char) : Bool :=
  '0' ≤ c && c ≤ '?'

def isFinal (c : Char) : Bool :=
  '@' ≤ c && c ≤ '~'

def endsString (c : Char) : Bool :=
  let n := c.toNat
  128 ≤ n && n % 64 = 28 || 0x800 ≤ n && n / 64 % 64 = 28 || 0x10000 ≤ n && n / 4096 % 64 = 28

namespace Pending

def shows (c : Char) : Pending → Bool
  | nothing => isLayout c || ' ' ≤ c && c ≤ '~' || 128 ≤ c.toNat
  | escape | intermediate | control => isLayout c
  | _ => false

def next (c : Char) (p : Pending) : Pending :=
  if c = '\x1b' then escape
  else if c = '\x18' || c = '\x1a' then nothing
  else
    match p with
    | nothing => nothing
    | escape =>
      if isIntermediate c then intermediate
      else if c = '[' then control
      else if c = ']' then command
      else if c = 'P' then deviceEntry
      else if c = 'X' || c = '^' || c = '_' then message
      else if isParameter c || isFinal c then nothing
      else escape
    | intermediate => if isParameter c || isFinal c then nothing else intermediate
    | control => if isFinal c then nothing else control
    | deviceEntry =>
      if isIntermediate c then deviceIntermediate
      else if isParameter c then deviceParameter
      else if isFinal c then deviceText
      else deviceEntry
    | deviceParameter =>
      if isIntermediate c then deviceIntermediate
      else if '<' ≤ c && c ≤ '~' then deviceText
      else deviceParameter
    | deviceIntermediate => if isParameter c || isFinal c then deviceText else deviceIntermediate
    | deviceText => if endsString c then nothing else deviceText
    | message => if endsString c then nothing else message
    | command => if c = '\x07' then nothing else command

end Pending

/-- Goes on from a place, with what is shown so far in reverse. While text is shown what was pending
is put off, up to the next character that is no text; a character beyond ASCII ends it. -/
def plainFrom (shown : Text) (p : Pending) (showing : Bool) : Text → Text
  | [] => shown.reverse
  | c :: s =>
    if (if showing then .nothing else p : Pending).shows c then
      plainFrom (c :: shown) (if c.toNat < 128 then p else .nothing) true s
    else plainFrom shown (p.next c) false s

def plain (s : Text) : Text :=
  plainFrom [] .nothing false s

end QueryBridge.Terminal
