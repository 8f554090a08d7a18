import QueryBridge.Journal.Basic

/-!
Programs of journal steps, with blocks that run one step deeper.
-/

namespace QueryBridge.Journal

inductive Step where
  | note (severity : Severity) (msg : Text)
  | abort (msg : Text)
  | indent
  | dedent
  | reset
  | setVerbosity (v : Nat)
  | block (steps : List Step)

mutual

def Step.run : Step → Journal → Journal
  | .note severity msg, j => j.note severity msg
  | .abort msg, j => j.abort msg
  | .indent, j => j.indent
  | .dedent, j => j.dedent
  | .reset, j => j.reset
  | .setVerbosity v, j => j.setVerbosity v
  | .block steps, j => (Step.runAll steps j.indent).dedent

def Step.runAll : List Step → Journal → Journal
  | [], j => j
  | step :: steps, j => Step.runAll steps (step.run j)

end

end QueryBridge.Journal
