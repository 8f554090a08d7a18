import QueryBridge.Journal.Program
import QueryBridge.Proofs.Journal.Observation

/-!
Programs of journal steps on the two media. A console without colours shows just the lines that
another journal captures, whatever a program does to depth and verbosity on its way.
-/

namespace QueryBridge

namespace Severity

def isErrorLine (line : Text) : Bool :=
  ofLine? line = some .error

theorem isErrorLine_line (d : Nat) (severity : Severity) (msg : Text) :
    isErrorLine (List.replicate d '-' ++ severity.label msg) = decide (severity = .error) := by
  have h := ofLine?_line d ⟨0, severity, msg⟩
  rw [Remark.line, Nat.add_zero] at h
  rw [isErrorLine, h]
  simp

end Severity

namespace Journal

theorem Step.runAll_append (steps later : List Step) (j : Journal) :
    Step.runAll (steps ++ later) j = Step.runAll later (Step.runAll steps j) := by
  induction steps generalizing j with
  | nil => rfl
  | cons step steps ih => exact ih (step.run j)

/-- A relation between journals that stays when the same is done to both. -/
structure Parallel (R : Journal → Journal → Prop) : Prop where
  note : ∀ {j k}, R j k → ∀ severity msg, R (j.note severity msg) (k.note severity msg)
  indent : ∀ {j k}, R j k → R j.indent k.indent
  dedent : ∀ {j k}, R j k → R j.dedent k.dedent
  reset : ∀ {j k}, R j k → R j.reset k.reset
  setVerbosity : ∀ {j k}, R j k → ∀ v, R (j.setVerbosity v) (k.setVerbosity v)

namespace Parallel

variable {R : Journal → Journal → Prop}

theorem abort (hR : Parallel R) {j k : Journal} (h : R j k) (msg : Text) :
    R (j.abort msg) (k.abort msg) :=
  hR.note (hR.note (hR.setVerbosity h fullVerbosity) .error _) .error _

mutual

theorem run (hR : Parallel R) {j k : Journal} (h : R j k) (step : Step) :
    R (step.run j) (step.run k) := by
  cases step with
  | note severity msg => exact hR.note h severity msg
  | abort msg => exact hR.abort h msg
  | indent => exact hR.indent h
  | dedent => exact hR.dedent h
  | reset => exact hR.reset h
  | setVerbosity v => exact hR.setVerbosity h v
  | block steps => exact hR.dedent (hR.runAll (hR.indent h) steps)

theorem runAll (hR : Parallel R) {j k : Journal} (h : R j k) (steps : List Step) :
    R (Step.runAll steps j) (Step.runAll steps k) := by
  cases steps with
  | nil => exact h
  | cons step steps => exact hR.runAll (hR.run h step) steps

end

end Parallel

mutual

/-- A step with its blocks written out: one step deeper, their steps, and back. -/
def Step.flat : Step → List Step
  | .block steps => .indent :: (Step.flatAll steps ++ [.dedent])
  | step => [step]

def Step.flatAll : List Step → List Step
  | [] => []
  | step :: steps => step.flat ++ Step.flatAll steps

end

mutual

theorem Step.runAll_flat (step : Step) (j : Journal) : Step.runAll step.flat j = step.run j := by
  cases step with
  | block steps =>
    have hsteps := Step.runAll_flatAll steps j.indent
    rw [Step.flat, Step.runAll, Step.runAll_append, Step.run, hsteps]
    rfl
  | note severity msg => rfl
  | abort msg => rfl
  | indent => rfl
  | dedent => rfl
  | reset => rfl
  | setVerbosity v => rfl

theorem Step.runAll_flatAll (steps : List Step) (j : Journal) :
    Step.runAll (Step.flatAll steps) j = Step.runAll steps j := by
  cases steps with
  | nil => rfl
  | cons step steps =>
    rw [Step.flatAll, Step.runAll_append, Step.runAll_flat step j, Step.runAll_flatAll steps]
    rfl

end

/-- The console shows what the other journal captures: each line in its stream, in order. -/
structure Mirrors (c j : Journal) : Prop where
  output : c.standardOutput = (j.lines.filter (!Severity.isErrorLine ·)).flatMap (· ++ ['\n'])
  error : c.standardError = (j.lines.filter Severity.isErrorLine).flatMap (· ++ ['\n'])
  lines : c.lines = []
  depth : c.depth = j.depth
  verbosity : c.verbosity = j.verbosity

end Journal

def Medium.shown (ls : List Text) : Medium :=
  .console .none (ls.filter (!Severity.isErrorLine ·)) (ls.filter Severity.isErrorLine)

theorem Medium.write_shown (d : Nat) (severity : Severity) (msg : Text) (ls : List Text) :
    (shown ls).write (List.replicate d '-') severity (severity.label msg) =
      shown (ls ++ [List.replicate d '-' ++ severity.label msg]) := by
  have hline := Severity.isErrorLine_line d severity msg
  by_cases h : severity = .error
  · subst h
    simp [shown, write, consoleLine, hline]
  · simp [shown, write, consoleLine, hline, h]

namespace Journal

inductive Twin : Journal → Journal → Prop
  | mk (v d : Nat) (ls : List Text) : Twin ⟨v, d, .captured ls⟩ ⟨v, d, .shown ls⟩

theorem parallel_twin : Parallel Twin where
  note := by
    rintro _ _ ⟨v, d, ls⟩ severity msg
    unfold note
    by_cases h : severity.mutedAt < v
    · simp only [shows, h, Medium.write_shown]
      exact .mk v d _
    · simp only [shows, h]
      exact .mk v d ls
  indent := by
    rintro _ _ ⟨v, d, ls⟩
    exact .mk v (d + indentWidth) ls
  dedent := by
    rintro _ _ ⟨v, d, ls⟩
    exact .mk v (d - indentWidth) ls
  reset := by
    rintro _ _ ⟨v, d, ls⟩
    exact .mk v 0 ls
  setVerbosity := by
    rintro _ _ ⟨v, d, ls⟩ w
    exact .mk (min w fullVerbosity) d ls

theorem Twin.mirrors {j c : Journal} (h : Twin j c) : Mirrors c j := by
  cases h with
  | mk v d ls => exact ⟨rfl, rfl, rfl, rfl, rfl⟩

/-- The verbosity is within its range, and the depth a whole number of steps. -/
def Regular (j : Journal) : Prop :=
  j.verbosity ≤ 3 ∧ 4 ∣ j.depth

theorem verbosity_note (severity : Severity) (msg : Text) (j : Journal) :
    (j.note severity msg).verbosity = j.verbosity := by
  unfold note
  split
  · rfl
  · rfl

theorem depth_note (severity : Severity) (msg : Text) (j : Journal) :
    (j.note severity msg).depth = j.depth := by
  unfold note
  split
  · rfl
  · rfl

theorem lines_prefix_note (severity : Severity) (msg : Text) (j : Journal) :
    j.lines <+: (j.note severity msg).lines := by
  unfold note
  split
  · obtain ⟨v, d, ls | ⟨palette, out, err⟩⟩ := j
    · exact List.prefix_append ls _
    · exact List.nil_prefix
  · exact List.prefix_rfl

theorem parallel_regular : Parallel fun j _ => Regular j where
  note := fun ⟨hv, hd⟩ severity msg => by
    rw [Regular, verbosity_note, depth_note]
    exact ⟨hv, hd⟩
  indent := fun ⟨hv, hd⟩ => ⟨hv, Nat.dvd_add hd (Nat.dvd_refl _)⟩
  dedent := fun ⟨hv, hd⟩ => ⟨hv, Nat.dvd_sub hd (Nat.dvd_refl _)⟩
  reset := fun ⟨hv, _⟩ => ⟨hv, Nat.dvd_zero _⟩
  setVerbosity := fun ⟨_, hd⟩ v => ⟨Nat.min_le_right v _, hd⟩

theorem parallel_extends (ls : List Text) : Parallel fun j _ => ls <+: j.lines where
  note := fun {j} _ h severity msg => h.trans (lines_prefix_note severity msg j)
  indent := id
  dedent := id
  reset := id
  setVerbosity := fun h _ => h

def lastLines (d : Nat) (msg : Text) : List Text :=
  [List.replicate d '-' ++ "[!] Fatal Error: ".toList ++ msg,
    List.replicate d '-' ++ "[!] Aborting...".toList]

theorem abort_eq (j : Journal) (msg : Text) :
    j.abort msg = ⟨fullVerbosity, j.depth,
      (j.medium.write (List.replicate j.depth '-') .error
          (Severity.error.label ("Fatal Error: ".toList ++ msg))).write
        (List.replicate j.depth '-') .error (Severity.error.label "Aborting...".toList)⟩ :=
  rfl

theorem abort_captured (v d : Nat) (ls : List Text) (msg : Text) :
    abort msg ⟨v, d, .captured ls⟩ = ⟨fullVerbosity, d, .captured (ls ++ lastLines d msg)⟩ := by
  rw [abort_eq]
  simp [Medium.write, lastLines, Severity.label, Severity.tag]

theorem abort_console (v d : Nat) (out err : List Text) (msg : Text) :
    abort msg ⟨v, d, .console .none out err⟩ =
      ⟨fullVerbosity, d, .console .none out (err ++ lastLines d msg)⟩ := by
  rw [abort_eq]
  simp [Medium.write, Medium.consoleLine, lastLines, Severity.label, Severity.tag]

theorem isErrorLine_of_mem_lastLines {d : Nat} {msg line : Text} (h : line ∈ lastLines d msg) :
    Severity.isErrorLine line = true := by
  simp only [lastLines, List.mem_cons, List.not_mem_nil, or_false] at h
  obtain rfl | rfl := h
  · rw [List.append_assoc]
    exact Severity.isErrorLine_line d .error ("Fatal Error: ".toList ++ msg)
  · exact Severity.isErrorLine_line d .error "Aborting...".toList

theorem twin_start (v : Nat) :
    Twin (capture.setVerbosity v) ((console .none).setVerbosity v) :=
  .mk (min v fullVerbosity) 0 []

theorem regular_start (v : Nat) : Regular (capture.setVerbosity v) :=
  ⟨Nat.min_le_right v _, Nat.dvd_zero _⟩

/-- At the end of a program and at every point of it, whatever it does to depth and verbosity, a
console without colours shows what is captured. Depth and verbosity stay regular, captured lines
stay as they are, and an abort adds its two lines at any verbosity. -/
theorem mirrors_runAll (v : Nat) (steps : List Step) :
    Mirrors (Step.runAll steps ((console .none).setVerbosity v))
      (Step.runAll steps (capture.setVerbosity v)) ∧
    (∀ j, Step.runAll (Step.flatAll steps) j = Step.runAll steps j) ∧
    (∀ before, before <+: Step.flatAll steps →
      Mirrors (Step.runAll before ((console .none).setVerbosity v))
        (Step.runAll before (capture.setVerbosity v)) ∧
      Regular (Step.runAll before (capture.setVerbosity v)) ∧
      ∀ later, before <+: later → later <+: Step.flatAll steps →
        (Step.runAll before (capture.setVerbosity v)).lines <+:
          (Step.runAll later (capture.setVerbosity v)).lines) ∧
    ∀ w d msg,
      (∀ line ∈ lastLines d msg, Severity.isErrorLine line = true) ∧
      (∀ ls, (Step.abort msg).run ⟨w, d, .captured ls⟩ =
        ⟨fullVerbosity, d, .captured (ls ++ lastLines d msg)⟩) ∧
      ∀ out err, (Step.abort msg).run ⟨w, d, .console .none out err⟩ =
        ⟨fullVerbosity, d, .console .none out (err ++ lastLines d msg)⟩ := by
  have hmirrors (steps : List Step) := (parallel_twin.runAll (twin_start v) steps).mirrors
  refine ⟨hmirrors steps, Step.runAll_flatAll steps, fun before _ => ⟨hmirrors before, ?_, ?_⟩,
    fun w d msg => ⟨fun line => isErrorLine_of_mem_lastLines, fun ls => abort_captured w d ls msg,
      fun out err => abort_console w d out err msg⟩⟩
  · exact parallel_regular.runAll (k := capture) (regular_start v) before
  · rintro _ ⟨between, rfl⟩ _
    rw [Step.runAll_append]
    exact (parallel_extends _).runAll (k := capture) List.prefix_rfl between

def unevenProgram : List Step :=
  [.dedent, .note .success "start".toList,
    .block [.indent, .note .warning "deep".toList,
      .block [.reset, .setVerbosity 0, .note .error "mute".toList, .abort "stop".toList],
      .note .info "back".toList],
    .setVerbosity 255, .indent, .note .error "end".toList]

theorem mirrors_runAll_unevenProgram :
    ∃ before, before <+: Step.flatAll unevenProgram ∧
      (Step.runAll before (capture.setVerbosity 2)).lines = ["[✓] start".toList] ∧
      ["[✓] start".toList] <+: (Step.runAll unevenProgram (capture.setVerbosity 2)).lines ∧
      Regular (Step.runAll before (capture.setVerbosity 2)) ∧
      Mirrors (Step.runAll unevenProgram ((console .none).setVerbosity 2))
        ⟨3, 4, .captured ["[✓] start".toList, "--------[?] deep".toList,
          "[!] Fatal Error: stop".toList, "[!] Aborting...".toList, "[i] back".toList,
          "----[!] end".toList]⟩ := by
  have hbefore : [.dedent, .note .success "start".toList, .indent] <+:
      Step.flatAll unevenProgram := ⟨_, rfl⟩
  have hlines : (Step.runAll [.dedent, .note .success "start".toList, .indent]
      (capture.setVerbosity 2)).lines = ["[✓] start".toList] := by decide +kernel
  have hend : Step.runAll unevenProgram (capture.setVerbosity 2) =
      ⟨3, 4, .captured ["[✓] start".toList, "--------[?] deep".toList,
        "[!] Fatal Error: stop".toList, "[!] Aborting...".toList, "[i] back".toList,
        "----[!] end".toList]⟩ := by decide +kernel
  obtain ⟨hmirrors, hflat, hpoints, -⟩ := mirrors_runAll 2 unevenProgram
  obtain ⟨-, hregular, hlater⟩ := hpoints _ hbefore
  have hstays := hlater _ hbefore List.prefix_rfl
  rw [hflat, hlines] at hstays
  rw [hend] at hmirrors
  exact ⟨_, hbefore, hlines, hstays, hregular, hmirrors⟩

end Journal

end QueryBridge
