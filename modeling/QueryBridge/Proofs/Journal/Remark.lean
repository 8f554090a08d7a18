import QueryBridge.Journal.Reporting

/-!
Computations whose result does not depend on the journal. What such a one reports is a fixed list
of remarks; the journal decides which of them show and how far they are indented.
-/

namespace QueryBridge

/-- A line that is reported, and how much deeper than the caller it stands. -/
structure Remark where
  depth : Nat
  severity : Severity
  msg : Text

namespace Remark

def deeper (r : Remark) : Remark :=
  { r with depth := r.depth + Journal.indentWidth }

def line (depth : Nat) (r : Remark) : Text :=
  List.replicate (depth + r.depth) '-' ++ r.severity.label r.msg

theorem line_eq (depth : Nat) (r : Remark) :
    r.line depth = List.replicate depth '-' ++ r.line 0 := by
  rw [line, line, Nat.zero_add, ← List.append_assoc, List.replicate_append_replicate]

end Remark

namespace Medium

def tell (depth : Nat) (m : Medium) (rs : List Remark) : Medium :=
  rs.foldl (fun m r => m.write (List.replicate (depth + r.depth) '-') r.severity
    (r.severity.label r.msg)) m

theorem tell_captured (depth : Nat) (ls : List Text) (rs : List Remark) :
    tell depth (.captured ls) rs = .captured (ls ++ rs.map (Remark.line depth)) := by
  induction rs generalizing ls with
  | nil => simp [tell]
  | cons r rs ih => simpa [tell, Remark.line, write] using ih (ls ++ [r.line depth])

theorem tell_append (depth : Nat) (m : Medium) (rs rs' : List Remark) :
    m.tell depth (rs ++ rs') = (m.tell depth rs).tell depth rs' :=
  List.foldl_append

theorem tell_add (depth k : Nat) (m : Medium) (rs : List Remark) :
    m.tell (depth + k) rs = m.tell depth (rs.map fun r => { r with depth := k + r.depth }) := by
  simp only [tell, List.foldl_map, Nat.add_assoc]

end Medium

namespace Journal

def add (j : Journal) (r : Remark) : Journal :=
  if j.shows r.severity then
    { j with
      medium := j.medium.write (List.replicate (j.depth + r.depth) '-') r.severity
        (r.severity.label r.msg) }
  else j

def record (j : Journal) (rs : List Remark) : Journal :=
  rs.foldl add j

theorem record_append (j : Journal) (rs rs' : List Remark) :
    j.record (rs ++ rs') = (j.record rs).record rs' :=
  List.foldl_append

theorem note_eq (j : Journal) (severity : Severity) (msg : Text) :
    j.note severity msg = j.record [⟨0, severity, msg⟩] :=
  rfl

theorem add_indent (j : Journal) (r : Remark) : j.indent.add r = (j.add r.deeper).indent := by
  have hdepth : j.indent.depth + r.depth = j.depth + r.deeper.depth := by
    simp only [indent, Remark.deeper]
    omega
  have hshows : j.indent.shows r.severity = j.shows r.deeper.severity := rfl
  unfold add
  rw [hdepth, hshows]
  split
  · rfl
  · rfl

theorem record_indent (j : Journal) (rs : List Remark) :
    j.indent.record rs = (j.record (rs.map Remark.deeper)).indent := by
  induction rs generalizing j with
  | nil => rfl
  | cons r rs ih =>
    have h : j.indent.record (r :: rs) = (j.add r.deeper).indent.record rs :=
      congrArg (fun j' => record j' rs) (add_indent j r)
    rw [h, ih]
    rfl

theorem dedent_indent (j : Journal) : j.indent.dedent = j := by
  simp [indent, dedent]

theorem record_eq (j : Journal) (rs : List Remark) :
    j.record rs = ⟨j.verbosity, j.depth,
      j.medium.tell j.depth (rs.filter fun r => r.severity.mutedAt < j.verbosity)⟩ := by
  induction rs generalizing j with
  | nil => rfl
  | cons r rs ih =>
    by_cases h : r.severity.mutedAt < j.verbosity
    · have hadd : j.add r =
          { j with
            medium := j.medium.write (List.replicate (j.depth + r.depth) '-') r.severity
              (r.severity.label r.msg) } :=
        if_pos (decide_eq_true h)
      rw [record, List.foldl_cons, hadd, ← record, ih, List.filter_cons_of_pos (by simpa using h)]
      rfl
    · have hadd : j.add r = j := if_neg (by simpa [shows] using h)
      rw [record, List.foldl_cons, hadd, ← record, ih, List.filter_cons_of_neg (by simpa using h)]

theorem record_captured (v d : Nat) (ls : List Text) (rs : List Remark) :
    record ⟨v, d, .captured ls⟩ rs =
      ⟨v, d, .captured
        (ls ++ (rs.filter fun r => r.severity.mutedAt < v).map (Remark.line d))⟩ := by
  rw [record_eq, Medium.tell_captured]

theorem record_full (d : Nat) (ls : List Text) (rs : List Remark) :
    record ⟨fullVerbosity, d, .captured ls⟩ rs =
      ⟨fullVerbosity, d, .captured (ls ++ rs.map (Remark.line d))⟩ := by
  have hall : (rs.filter fun r => r.severity.mutedAt < fullVerbosity) = rs := by
    refine List.filter_eq_self.2 fun r _ => ?_
    cases r.severity <;> rfl
  rw [record_captured, hall]

end Journal

namespace Reporting

variable {α β : Type}

def Reports (x : Reporting α) (a : α) (rs : List Remark) : Prop :=
  ∀ j, x.run j = (a, j.record rs)

theorem reports_pure (a : α) : Reports (pure a) a [] :=
  fun _ => rfl

theorem reports_note (severity : Severity) (msg : Text) :
    Reports (note severity msg) () [⟨0, severity, msg⟩] :=
  fun j => by rw [run_note, Journal.note_eq]

theorem Reports.bind {x : Reporting α} {f : α → Reporting β} {a : α} {b : β} {rs rs' : List Remark}
    (hx : x.Reports a rs) (hf : (f a).Reports b rs') : (x >>= f).Reports b (rs ++ rs') := by
  intro j
  rw [run_bind, hx, hf, Journal.record_append]

theorem Reports.returning {x : Reporting α} {f : α → β} {a : α} {rs : List Remark}
    (hx : x.Reports a rs) : (x >>= fun a => pure (f a)).Reports (f a) rs := by
  intro j
  rw [run_bind, hx, run_pure]

theorem Reports.indented {x : Reporting α} {a : α} {rs : List Remark} (hx : x.Reports a rs) :
    (indented x).Reports a (rs.map Remark.deeper) := by
  intro j
  rw [run_indented, hx, Journal.record_indent, Journal.dedent_indent]

theorem reports_each (severity : Severity) (msgs : List Text) :
    Reports (each severity msgs) () (msgs.map fun msg => ⟨0, severity, msg⟩) := by
  induction msgs with
  | nil => exact reports_pure ()
  | cons msg msgs ih => exact (reports_note severity msg).bind ih

/-- Whatever the journal, the result is the same and so are the remarks. -/
def Steady (x : Reporting α) : Prop :=
  ∃ a rs, ∀ j, x.run j = (a, j.record rs)

theorem steady_pure (a : α) : Steady (pure a) :=
  ⟨a, [], reports_pure a⟩

theorem Steady.bind {x : Reporting α} {f : α → Reporting β} (hx : x.Steady)
    (hf : ∀ a, (f a).Steady) : (x >>= f).Steady := by
  obtain ⟨a, rs, hx⟩ := hx
  obtain ⟨b, rs', hf⟩ := hf a
  exact ⟨b, rs ++ rs', Reports.bind hx hf⟩

theorem steady_note (severity : Severity) (msg : Text) : Steady (note severity msg) :=
  ⟨(), [⟨0, severity, msg⟩], reports_note severity msg⟩

theorem Steady.indented {x : Reporting α} (hx : x.Steady) : (indented x).Steady := by
  obtain ⟨a, rs, hx⟩ := hx
  exact ⟨a, rs.map Remark.deeper, Reports.indented hx⟩

theorem steady_each (severity : Severity) (msgs : List Text) : Steady (each severity msgs) :=
  ⟨(), msgs.map fun msg => ⟨0, severity, msg⟩, reports_each severity msgs⟩

end Reporting

end QueryBridge
