import QueryBridge.Journal.Basic

/-!
Computations that report on the way: they thread a journal and give a result. The equations say
what each way to build one does to the journal.
-/

namespace QueryBridge

abbrev Reporting := StateM Journal

namespace Reporting

variable {α β : Type}

def note (severity : Severity) (msg : Text) : Reporting Unit :=
  modify (Journal.note severity msg)

def info (msg : Text) : Reporting Unit :=
  note .info msg

def success (msg : Text) : Reporting Unit :=
  note .success msg

def warn (msg : Text) : Reporting Unit :=
  note .warning msg

def indented (x : Reporting α) : Reporting α := do
  modify Journal.indent
  let a ← x
  modify Journal.dedent
  return a

def each (severity : Severity) : List Text → Reporting Unit
  | [] => pure ()
  | msg :: msgs => do
    note severity msg
    each severity msgs

theorem run_pure (a : α) (j : Journal) : (pure a : Reporting α).run j = (a, j) :=
  rfl

theorem run_bind (x : Reporting α) (f : α → Reporting β) (j : Journal) :
    (x >>= f).run j = (f (x.run j).1).run (x.run j).2 :=
  rfl

theorem run_note (severity : Severity) (msg : Text) (j : Journal) :
    (note severity msg).run j = ((), j.note severity msg) :=
  rfl

theorem run_indented (x : Reporting α) (j : Journal) :
    (indented x).run j = ((x.run j.indent).1, (x.run j.indent).2.dedent) :=
  rfl

end Reporting

end QueryBridge
