import QueryBridge.Clipboard
import QueryBridge.Proofs.Journal.Remark

/-!
Reporting is only an observation. Main statement: whatever the verbosity and the depth, a conversion
gives the same result, leaves both as they were and adds those lines of a full report that show.
-/

namespace QueryBridge

namespace Severity

def ofLine? (line : Text) : Option Severity :=
  [info, success, warning, error].find? fun severity =>
    severity.tag.isPrefixOf (line.dropWhile (· = '-'))

def lineShows (v : Nat) (line : Text) : Bool :=
  match ofLine? line with
  | some info => 2 < v
  | some success | some warning => 1 < v
  | some error => 0 < v
  | none => false

theorem ofLine?_line (d : Nat) (r : Remark) : ofLine? (r.line d) = some r.severity := by
  have hdashes : ∀ c ∈ List.replicate (d + r.depth) '-', decide (c = '-') = true := by simp
  have hlabel : (r.line d).dropWhile (· = '-') = r.severity.label r.msg := by
    rw [Remark.line, List.dropWhile_append_of_pos hdashes]
    cases r.severity <;> rfl
  rw [ofLine?, hlabel]
  cases r.severity <;> rfl

theorem lineShows_line (v d : Nat) (r : Remark) :
    lineShows v (r.line d) = decide (r.severity.mutedAt < v) := by
  rw [lineShows, ofLine?_line]
  cases r.severity <;> rfl

end Severity

namespace Reporting

variable {α : Type}

/-- Run with a captured journal the computation gives what it gives at full verbosity and from the
margin. The journal keeps its verbosity, depth and lines; what is added are the lines of the full
report that show, in order and indented by the depth. -/
def Unobtrusive (x : Reporting α) : Prop :=
  ∀ v d ls, x.run ⟨v, d, .captured ls⟩ =
    ((x.run .capture).1, ⟨v, d, .captured (ls ++
      ((x.run .capture).2.lines.filter (Severity.lineShows v)).map (List.replicate d '-' ++ ·))⟩)

theorem Steady.unobtrusive {x : Reporting α} (hx : x.Steady) : x.Unobtrusive := by
  obtain ⟨a, rs, hx⟩ := hx
  intro v d ls
  have hfull : (Journal.capture.record rs).lines = rs.map (Remark.line 0) := by
    rw [Journal.capture, Journal.record_full]
    rfl
  have hshown : (rs.map (Remark.line 0)).filter (Severity.lineShows v) =
      (rs.filter fun r => r.severity.mutedAt < v).map (Remark.line 0) := by
    rw [List.filter_map]
    exact congrArg (List.map _) (List.filter_congr fun r _ => Severity.lineShows_line v 0 r)
  rw [hx, hx, hfull, hshown, List.map_map, Journal.record_captured]
  exact congrArg (fun f : Remark → Text => (a, (⟨v, d, .captured (ls ++ List.map f _)⟩ : Journal)))
    (funext fun r => r.line_eq d)

end Reporting

open Reporting

namespace PowerBI

theorem Stage.steady_report (s : Text) (stage : Stage) : (stage.report s).Steady := by
  cases stage with
  | removeClauses =>
    exact (steady_note _ _).bind fun _ => (steady_note _ _).bind fun _ =>
      (steady_each _ _).indented
  | stripClauses => exact (steady_note _ _).bind fun _ => (steady_each _ _).indented
  | replaceTokens => exact (steady_note _ _).bind fun _ => steady_note _ _
  | doubleQuotes => exact steady_pure ()
  | markBreaks => exact steady_pure ()
  | spaceTabs width => exact steady_pure ()

theorem Stage.steady_run (stage : Stage) (d : Draft) : (stage.run d).Steady :=
  ((stage.steady_report d.text).bind fun _ => steady_pure _).indented

theorem Stage.steady_runAll (stages : List Stage) (d : Draft) : (runAll stages d).Steady := by
  induction stages generalizing d with
  | nil => exact steady_pure d
  | cons stage stages ih => exact (stage.steady_run d).bind ih

theorem steady_wrap (s : Settings) (ps : Parameters) (body : Text) : (wrap s ps body).Steady :=
  (steady_note _ _).bind fun _ => (steady_note _ _).bind fun _ => steady_pure _

theorem steady_ofMetabase (s : Settings) (q : Text) : (ofMetabase s q).Steady :=
  (steady_note _ _).bind fun _ => (Stage.steady_runAll (stages s) ⟨q, .empty⟩).bind fun d =>
    (steady_wrap s d.parameters d.text).indented

end PowerBI

namespace Metabase

theorem Stage.steady_report (stage : Stage) : stage.report.Steady := by
  cases stage with
  | replaceReferences => exact steady_note _ _
  | halveQuotes => exact steady_pure ()
  | unmark => exact steady_pure ()

theorem Stage.steady_run (stage : Stage) (s : Text) : (stage.run s).Steady :=
  (stage.steady_report.bind fun _ => steady_pure _).indented

theorem Stage.steady_runAll (stages : List Stage) (s : Text) : (runAll stages s).Steady := by
  induction stages generalizing s with
  | nil => exact steady_pure s
  | cons stage stages ih => exact (stage.steady_run s).bind ih

theorem steady_ofPowerBI (s : Settings) (m : Text) : (ofPowerBI s m).Steady := by
  have hrest := fun unwrapped => (Stage.steady_runAll (stages s unwrapped) (source m).1).bind
    fun sql => (steady_note .info "Metabase query assembled!".toList).bind fun _ => steady_pure sql
  unfold ofPowerBI
  refine (steady_note _ _).bind fun _ => ?_
  cases (source m).2 with
  | true => exact hrest true
  | false => exact (steady_note _ _).bind fun _ => hrest false

end Metabase

theorem steady_identify (q : Text) : (identify q).Steady := by
  unfold identify
  cases Dialect.ofQuery q with
  | error e => exact steady_pure _
  | ok d => exact (steady_note _ _).bind fun _ => (steady_note _ _).bind fun _ => steady_pure _

theorem Dialect.steady_express (s : Settings) (q : Text) (d : Dialect) :
    (d.express s q).Steady := by
  cases d with
  | powerBI => exact PowerBI.steady_ofMetabase s q
  | metabase => exact Metabase.steady_ofPowerBI s q

theorem steady_convert (s : Settings) (q : Text) : (convert s q).Steady := by
  refine (steady_identify q).bind fun r => ?_
  cases r with
  | error e => exact steady_pure _
  | ok d => exact (d.other.steady_express s q).bind fun _ => steady_pure _

theorem Clipboard.steady_convert (s : Settings) (c : Clipboard) : (c.convert s).Steady := by
  refine (steady_note _ _).bind fun _ => ?_
  cases c.read with
  | error e => exact steady_pure _
  | ok q =>
    refine (QueryBridge.steady_convert s q).bind fun r => ?_
    cases r with
    | error e => exact steady_pure _
    | ok out => exact steady_pure _

/-- Nothing that is done to a query depends on the journal or leaves more in it than its lines. -/
theorem conversions_unobtrusive (s : Settings) (q : Text) (c : Clipboard) :
    (convert s q).Unobtrusive ∧ (PowerBI.ofMetabase s q).Unobtrusive ∧
      (Metabase.ofPowerBI s q).Unobtrusive ∧ (c.convert s).Unobtrusive :=
  ⟨(steady_convert s q).unobtrusive, (PowerBI.steady_ofMetabase s q).unobtrusive,
    (Metabase.steady_ofPowerBI s q).unobtrusive, (c.steady_convert s).unobtrusive⟩

end QueryBridge
