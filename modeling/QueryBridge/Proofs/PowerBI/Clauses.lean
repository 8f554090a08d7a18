import QueryBridge.PowerBI.Draft
import QueryBridge.Proofs.Journal.Remark
import QueryBridge.Proofs.Metabase.Delimiting

/-!
The two stages that handle clauses. Main statement: both find the same clauses of a text and report
each in one line; one leaves the clauses out, the other what delimits them, and neither anything
else.
-/

namespace QueryBridge.PowerBI
open Text Metabase Reporting

namespace Stage

def removalHeader : List Remark :=
  [⟨0, .info, "Attempting to remove Metabase Optional Clauses...".toList⟩,
    ⟨0, .warning, "This may break queries chaining optional clauses with metabase SQL".toList⟩]

def removalRemark (c : Clause) : Remark :=
  ⟨Journal.indentWidth, .info,
    "Removed Metabase Optional Clause: ".toList ++ c.preview ++ "...".toList⟩

def strippingHeader : List Remark :=
  [⟨0, .info, "Attempting to strip Metabase Optional Clauses...".toList⟩]

def strippingRemark (c : Clause) : Remark :=
  ⟨Journal.indentWidth, .info,
    "Stripped Metabase Optional Clause: [[".toList ++ c.body ++ "]]".toList⟩

theorem reports_perform {stage : Stage} {d : Draft} {rs : List Remark}
    (h : (stage.report d.text).Reports () rs) : (stage.perform d).Reports (stage.apply d) rs := by
  have hperform := h.bind (f := fun _ => pure (stage.apply d)) (reports_pure _)
  rwa [List.append_nil] at hperform

theorem reports_clauses (f : Clause → Text) (cs : List Clause) :
    (indented (each .info (cs.map f))).Reports ()
      (cs.map fun c => ⟨Journal.indentWidth, .info, f c⟩) := by
  have h := (reports_each .info (cs.map f)).indented
  rwa [List.map_map, List.map_map] at h

theorem reports_removeClauses (d : Draft) :
    (removeClauses.perform d).Reports ⟨Metabase.removeClauses d.text, d.parameters⟩
      (removalHeader ++ (clauses d.text).map removalRemark) :=
  reports_perform ((reports_note _ _).bind ((reports_note _ _).bind (reports_clauses _ _)))

theorem reports_stripClauses (d : Draft) :
    (stripClauses.perform d).Reports ⟨Metabase.stripClauses d.text, d.parameters⟩
      (strippingHeader ++ (clauses d.text).map strippingRemark) :=
  reports_perform ((reports_note _ _).bind (reports_clauses _ _))

end Stage

/-- The two stages on a text taken apart into clauses. -/
theorem exists_delimits (s : Text) : ∃ d, Delimits s d ∧
    removeClauses s = d.render (fun _ => []) ∧ stripClauses s = d.render Clause.body ∧
    (∀ ps depth ls,
      (Stage.removeClauses.perform ⟨s, ps⟩).run ⟨3, depth, .captured ls⟩ =
        (⟨removeClauses s, ps⟩, ⟨3, depth, .captured (ls ++
          (Stage.removalHeader ++ d.hits.map Stage.removalRemark).map (Remark.line depth))⟩) ∧
      (Stage.stripClauses.perform ⟨s, ps⟩).run ⟨3, depth, .captured ls⟩ =
        (⟨stripClauses s, ps⟩, ⟨3, depth, .captured (ls ++
          (Stage.strippingHeader ++ d.hits.map Stage.strippingRemark).map (Remark.line depth))⟩)) ∧
    (stripClauses s).Sublist s ∧
    ∀ x, s.count x = (stripClauses s).count x +
      if x = '[' ∨ x = ']' then 2 * d.hits.length else (d.hits.flatMap Clause.gaps).count x := by
  obtain ⟨d, hd⟩ := Clause.recognizer.exists_scan s
  have hdelimits := delimits_of_scan hd
  have hclauses : clauses s = d.hits := hd.hits_eq
  refine ⟨d, hdelimits, hd.replace_eq _, hd.replace_eq _, fun ps depth ls => ⟨?_, ?_⟩, ?_, ?_⟩
  · rw [Stage.reports_removeClauses, hclauses]
    exact congrArg _ (Journal.record_full _ _ _)
  · rw [Stage.reports_stripClauses, hclauses]
    exact congrArg _ (Journal.record_full _ _ _)
  · have hsublist := d.render_sublist Clause.body_sublist
    rwa [hdelimits.text, ← hd.replace_eq] at hsublist
  · intro x
    have hwritten := d.count_render Clause.written x
    have hbody := d.count_render Clause.body x
    rw [hdelimits.text, Clause.count_flatMap_written hdelimits.spaced] at hwritten
    rw [← hd.replace_eq] at hbody
    rw [hwritten, stripClauses, hbody, Nat.add_assoc]

end QueryBridge.PowerBI
