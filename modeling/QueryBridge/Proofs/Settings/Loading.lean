import QueryBridge.Proofs.Journal.Remark
import QueryBridge.Proofs.Settings.Fault

/-!
What loading does for every set of values and every journal. It gives the settings that are asked
for, put right where they may be, or the first fault; the journal keeps its depth and ends at the
verbosity at which everything has been reported.
-/

namespace QueryBridge.Settings
open Reporting

namespace Request

def rangeRemarks (r : Request) : List Remark :=
  [⟨0, .warning, "Setting \"VERBOSITY\" must be a number 0-3, found ".toList ++
      (Number.finite r.verbosity).text⟩,
    ⟨0, .info, "Defaulting VERBOSITY to 3...".toList⟩]

def conflictRemarks : List Remark :=
  ⟨0, .warning, "Settings conflict:".toList⟩ ::
    [⟨0, .warning, "Both REMOVE_METABASE_OPTIONAL_CLAUSES and ".toList ++
        "STRIP_METABASE_OPTIONAL_CLAUSES are set to true!".toList⟩,
      ⟨0, .warning, "STRIP_METABASE_OPTIONAL_CLAUSES will be ignored.".toList⟩].map Remark.deeper

def remarks (r : Request) : List Remark :=
  (if verbosityOf? r.verbosity = none then r.rangeRemarks else []) ++
    if r.conflict then conflictRemarks else []

theorem reports_report (r : Request) : r.report.Reports () r.remarks := by
  unfold report remarks
  dsimp only
  have hconflict : Reports (if r.conflict = true then do
      Reporting.warn "Settings conflict:".toList
      Reporting.indented do
        Reporting.warn ("Both REMOVE_METABASE_OPTIONAL_CLAUSES and ".toList ++
          "STRIP_METABASE_OPTIONAL_CLAUSES are set to true!".toList)
        Reporting.warn "STRIP_METABASE_OPTIONAL_CLAUSES will be ignored.".toList
      else pure ()) () (if r.conflict then conflictRemarks else []) := by
    split
    · exact (reports_note _ _).bind ((reports_note _ _).bind (reports_note _ _)).indented
    · exact reports_pure ()
  by_cases h : verbosityOf? r.verbosity = none
  · rw [if_pos h, if_pos h]
    exact (reports_note _ _).bind ((reports_note _ _).bind hconflict)
  · rw [if_neg h, if_neg h]
    exact hconflict

end Request

def auditRemarks (values : Values) : List Remark :=
  ⟨0, .info, "Performing audit...".toList⟩ ::
    match Request.read values with
    | .error _ => []
    | .ok r => r.remarks

theorem reports_audit (values : Values) :
    (audit values).Reports ((Request.read values).map Request.granted) (auditRemarks values) := by
  unfold audit auditRemarks
  cases Request.read values with
  | error e => exact (reports_note _ _).bind (reports_pure _)
  | ok r => exact (reports_note _ _).bind r.reports_report.returning

def remarks (values : Values) : List Remark :=
  ⟨0, .info, "Loading config...".toList⟩ :: ((auditRemarks values).map Remark.deeper ++
    match Request.read values with
    | .error _ => []
    | .ok _ => [⟨0, .success, "Config audit complete".toList⟩])

/-- The verbosity is set before anything is reported, and not again. -/
theorem run_load (values : Values) (j : Journal) :
    (load values).run j = ((Request.read values).map Request.granted,
      (j.setVerbosity (auditVerbosity values)).record (remarks values)) := by
  unfold load
  rw [run_bind]
  refine ((reports_note _ _).bind ((reports_audit values).indented.bind ?_)) _
  cases Request.read values with
  | error e => exact reports_pure _
  | ok r => exact (reports_note _ _).bind (reports_pure _)

/-- Fractions count as the next level, and what is out of range as the highest one. -/
def levelOf (q : ℚ) : ℕ :=
  if 0 ≤ q ∧ q ≤ 3 then ⌈q⌉₊ else 3

/-- The settings that the values ask for. They may ask for both ways to treat optional clauses, of
which removing them prevails, and for any verbosity. -/
structure Grants (values : Values) (c : Settings) : Prop where
  host : values Setting.host.key = some c.host
  database : values Setting.database.key = some c.database
  replaceReferences : Says values .replaceReferences c.replaceReferences
  replaceTokens : Says values .replaceTokens c.replaceTokens
  spliceReferences : Says values .spliceReferences c.spliceReferences
  removeClauses : Says values .removeClauses c.removeClauses
  stripClauses : ∃ asked, Says values .stripClauses asked ∧
    c.stripClauses = (asked && !c.removeClauses)
  markBreaks : Says values .markBreaks c.markBreaks
  useSpaces : Says values .useSpaces c.useSpaces
  tabSize : ∃ x, Counts values .tabSize x ∧ 0 ≤ x.value ∧ x.value ≤ 65535 ∧
    c.tabSize = ⌊x.value⌋₊
  verbosity : ∃ x, Counts values .verbosity x ∧ c.verbosity = levelOf x.value

variable {values : Values}

theorem levelOf_le (q : ℚ) : levelOf q ≤ 3 := by
  unfold levelOf
  split
  · next h => exact Nat.ceil_le.2 (by exact_mod_cast h.2)
  · exact le_rfl

theorem verbosityOf?_getD (x : Dyadic) :
    (verbosityOf? x).getD Journal.fullVerbosity = levelOf x.value := by
  have hexceeds : x.exceeds Journal.fullVerbosity = true ↔ 3 < x.value :=
    x.exceeds_iff Journal.fullVerbosity
  have hout : (x.belowZero || x.exceeds Journal.fullVerbosity) = true ↔
      x.value < 0 ∨ 3 < x.value := by
    rw [Bool.or_eq_true, x.belowZero_iff, hexceeds]
  unfold verbosityOf? levelOf
  split
  · next h =>
    rw [if_neg]
    · rfl
    · rintro ⟨hnonneg, hle⟩
      exact (hout.1 h).elim (not_lt.2 hnonneg) (not_lt.2 hle)
  · next h =>
    obtain ⟨hnonneg, hle⟩ := not_or.1 (mt hout.2 h)
    rw [if_pos ⟨not_lt.1 hnonneg, not_lt.1 hle⟩, Option.getD_some,
      Dyadic.ceil_eq (not_lt.1 hnonneg)]

theorem grants_of_read {r : Request} (h : Request.read values = .ok r) :
    Grants values r.granted := by
  unfold Request.read at h
  simp only [bind_eq_ok_iff, text_eq_ok_iff, boolean_eq_ok_iff, tabSizeOf_eq_ok_iff] at h
  obtain ⟨host, hhost, database, hdatabase, replaceReferences, hreferences, replaceTokens, htokens,
    spliceReferences, hsplice, removeClauses, hremove, stripClauses, hstrip, markBreaks, hbreaks,
    useSpaces, hspaces, x, hx, tabSize, ⟨hnonneg, hle, htab⟩, y, hy, ⟨⟩⟩ := h
  exact
    { host := hhost
      database := hdatabase
      replaceReferences := hreferences
      replaceTokens := htokens
      spliceReferences := hsplice
      removeClauses := hremove
      stripClauses := ⟨stripClauses, hstrip, rfl⟩
      markBreaks := hbreaks
      useSpaces := hspaces
      tabSize := ⟨x, counts_of_number hx, hnonneg, hle, htab⟩
      verbosity := ⟨y, counts_of_number hy, verbosityOf?_getD y⟩ }

theorem exists_read_of_grants {c : Settings} (h : Grants values c) :
    ∃ r, Request.read values = .ok r ∧ r.granted = c := by
  obtain ⟨asked, hstrip, hc⟩ := h.stripClauses
  obtain ⟨x, hx, hnonneg, hle, htab⟩ := h.tabSize
  obtain ⟨y, hy, hlevel⟩ := h.verbosity
  obtain ⟨x', hx', hxval, -⟩ := number_of_counts hx
  obtain ⟨y', hy', hyval, -⟩ := number_of_counts hy
  rw [← hxval] at hnonneg hle htab
  rw [← hyval, ← verbosityOf?_getD] at hlevel
  refine ⟨⟨{ c with stripClauses := asked, verbosity := 3 }, y'⟩, ?_, ?_⟩
  · unfold Request.read
    simp only [bind_eq_ok_iff, text_eq_ok_iff, boolean_eq_ok_iff, tabSizeOf_eq_ok_iff]
    exact ⟨_, h.host, _, h.database, _, h.replaceReferences, _, h.replaceTokens, _,
      h.spliceReferences, _, h.removeClauses, _, hstrip, _, h.markBreaks, _, h.useSpaces, x', hx',
      _, ⟨hnonneg, hle, htab⟩, y', hy', rfl⟩
  · unfold Request.granted
    dsimp only
    rw [← hc, ← hlevel]

theorem granted_iff {c : Settings} :
    (Request.read values).map Request.granted = .ok c ↔ Grants values c := by
  rw [map_eq_ok_iff]
  constructor
  · rintro ⟨r, hread, rfl⟩
    exact grants_of_read hread
  · exact exists_read_of_grants

theorem auditVerbosity_eq {r : Request} (h : Request.read values = .ok r) :
    auditVerbosity values = r.granted.verbosity := by
  unfold Request.read at h
  simp only [bind_eq_ok_iff] at h
  obtain ⟨_, -, _, -, _, -, _, -, _, -, _, -, _, -, _, -, _, -, _, -, _, -, y, hy, ⟨⟩⟩ := h
  rw [auditVerbosity, hy]
  rfl

theorem auditVerbosity_le (values : Values) : auditVerbosity values ≤ Journal.fullVerbosity := by
  unfold auditVerbosity
  split
  · next x _ =>
    rw [verbosityOf?_getD]
    exact levelOf_le _
  · exact le_rfl

/-- Loading fails exactly if something is wrong with a setting, and then says what is wrong with the
first one. No number is wrong as a verbosity. What has been read of it ahead does not matter, since
an audit alone fails in the same way, whatever its journal. -/
theorem load_reports_first_fault (values : Values) (j : Journal) :
    (∀ e, ((load values).run j).1 = .error e ↔ FirstFault values e) ∧
    ((∃ e, ((load values).run j).1 = .error e) ↔ ∃ s e, Fault values s e) ∧
    (∀ x, Counts values .verbosity x → ∀ e, ¬Fault values .verbosity e) ∧
    ∀ j', ((audit values).run j').1 = ((load values).run j).1 := by
  have hfirst (e : Failure) : ((load values).run j).1 = .error e ↔ FirstFault values e := by
    rw [run_load, map_eq_error_iff, read_eq_error_iff]
  refine ⟨hfirst, ?_, fun x hx e hfault => ?_, fun j' => ?_⟩
  · rw [← exists_firstFault_iff]
    exact exists_congr hfirst
  · obtain ⟨y, hy, -⟩ := number_of_counts hx
    cases hy.symm.trans (fault_verbosity_iff.2 hfault)
  · rw [reports_audit values j', run_load]

def outlyingValues : Values := fun key =>
  if key = Setting.tabSize.key then some " -1e-2 ".toList
  else if key = Setting.verbosity.key then some "+9.5E0".toList
  else some " TRUE\t".toList

theorem load_reports_first_fault_outlyingValues :
    FirstFault outlyingValues (.negativeTab (.finite ⟨true, 5764607523034235, -59⟩)) ∧
      Counts outlyingValues .verbosity ⟨false, 5348024557502464, -49⟩ ∧
      (∀ e, ¬Fault outlyingValues .verbosity e) ∧
      ((audit outlyingValues).run (Journal.console .none)).1 =
        .error (.negativeTab (.finite ⟨true, 5764607523034235, -59⟩)) := by
  have hload : ((load outlyingValues).run Journal.capture).1 =
      .error (.negativeTab (.finite ⟨true, 5764607523034235, -59⟩)) := by decide +kernel
  have hcounts : Counts outlyingValues .verbosity ⟨false, 5348024557502464, -49⟩ :=
    counts_of_number (by decide +kernel)
  obtain ⟨hfirst, -, hfinite, haudit⟩ := load_reports_first_fault outlyingValues Journal.capture
  exact ⟨(hfirst _).1 hload, hcounts, hfinite _ hcounts, (haudit _).trans hload⟩

/-- What loading grants is what is asked for, put right. In the end the journal has the verbosity
granted, at which all was reported, and its depth. -/
theorem load_grants_and_reports (values : Values) (j : Journal) :
    (∀ c, ((load values).run j).1 = .ok c ↔ Grants values c) ∧
    (∀ c, ((load values).run j).1 = .ok c →
      ((load values).run j).2.verbosity = c.verbosity ∧ c.verbosity ≤ 3 ∧ c.tabSize ≤ 65535 ∧
        ¬(c.removeClauses = true ∧ c.stripClauses = true)) ∧
    ((load values).run j).2.depth = j.depth ∧
    ((load values).run j).2.medium = j.medium.tell j.depth
      ((remarks values).filter fun r => r.severity.mutedAt < ((load values).run j).2.verbosity) := by
  have hresult : ((load values).run j).1 = (Request.read values).map Request.granted := by
    rw [run_load]
  have hjournal : ((load values).run j).2 = ⟨auditVerbosity values, j.depth, j.medium.tell j.depth
      ((remarks values).filter fun r => r.severity.mutedAt < auditVerbosity values)⟩ := by
    rw [run_load, Journal.record_eq, Journal.setVerbosity, min_eq_left (auditVerbosity_le values)]
  rw [hresult, hjournal]
  refine ⟨fun c => granted_iff, fun c hc => ?_, rfl, rfl⟩
  have hgrants := granted_iff.1 hc
  obtain ⟨r, hread, rfl⟩ := map_eq_ok_iff.1 hc
  obtain ⟨asked, -, hstrip⟩ := hgrants.stripClauses
  obtain ⟨x, -, -, hle, htab⟩ := hgrants.tabSize
  obtain ⟨y, -, hlevel⟩ := hgrants.verbosity
  refine ⟨auditVerbosity_eq hread, hlevel ▸ levelOf_le _, ?_, ?_⟩
  · rw [htab]
    exact Nat.floor_le_of_le (by exact_mod_cast hle)
  · rintro ⟨hremove, hboth⟩
    rw [hstrip, hremove, Bool.not_true, Bool.and_false] at hboth
    cases hboth

def conflictingValues : Values := fun key =>
  if key = Setting.tabSize.key then some "7.9".toList
  else if key = Setting.verbosity.key then some ".12e+1".toList
  else some " TRUE\t".toList

def conflictingSettings : Settings where
  host := " TRUE\t".toList
  database := " TRUE\t".toList
  spliceReferences := true
  removeClauses := true
  stripClauses := false
  useSpaces := true
  tabSize := 7
  verbosity := 2

def conflictJournal : Journal :=
  ⟨2, 4, .captured ["[i] start".toList, "--------[?] Settings conflict:".toList,
    "------------[?] Both REMOVE_METABASE_OPTIONAL_CLAUSES and ".toList ++
      "STRIP_METABASE_OPTIONAL_CLAUSES are set to true!".toList,
    "------------[?] STRIP_METABASE_OPTIONAL_CLAUSES will be ignored.".toList,
    "----[✓] Config audit complete".toList]⟩

theorem load_grants_and_reports_conflictingValues :
    (load conflictingValues).run ⟨0, 4, .captured ["[i] start".toList]⟩ =
        (.ok conflictingSettings, conflictJournal) ∧
      Grants conflictingValues conflictingSettings ∧
      conflictJournal.verbosity = conflictingSettings.verbosity ∧
      conflictJournal.medium = Medium.tell 4 (.captured ["[i] start".toList])
        ((remarks conflictingValues).filter fun r => r.severity.mutedAt < 2) := by
  have hrun : (load conflictingValues).run ⟨0, 4, .captured ["[i] start".toList]⟩ =
      (.ok conflictingSettings, conflictJournal) := by
    change (_ : Except Failure Settings × Journal) = _
    decide +kernel
  obtain ⟨hgrants, hsane, -, hmedium⟩ := load_grants_and_reports conflictingValues
    ⟨0, 4, .captured ["[i] start".toList]⟩
  rw [hrun] at hgrants hsane hmedium
  obtain ⟨hverbosity, -⟩ := hsane _ rfl
  exact ⟨hrun, (hgrants _).1 rfl, hverbosity, hmedium⟩

end QueryBridge.Settings
