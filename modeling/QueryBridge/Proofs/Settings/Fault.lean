import QueryBridge.Proofs.Failure
import QueryBridge.Proofs.Number.Reading
import QueryBridge.Settings.Audit

/-!
What can be wrong with a setting, each looked at by itself. Loading reports what is wrong with the
first setting that something is wrong with, and fails for no other reason.
-/

namespace QueryBridge

inductive SettingKind where
  | text
  | boolean
  | number
  deriving DecidableEq

def Setting.kind : Setting → SettingKind
  | host | database => .text
  | replaceReferences | replaceTokens | spliceReferences | removeClauses | stripClauses
  | markBreaks | useSpaces => .boolean
  | tabSize | verbosity => .number

namespace Settings

def lowered (raw : Text) : Text :=
  (Text.trim raw).map Char.toLower

def truthText (b : Bool) : Text :=
  if b then "true".toList else "false".toList

/-- The number that a value stands for: zero where it is blank, else the binary number nearest to its
decimal value. Other texts stand for no number, nor do those whose value is too large. -/
def Reads (raw : Text) (x : Dyadic) : Prop :=
  if Text.trim raw = [] then x = ⟨false, 0, 0⟩
  else ∃ negative q, DecimalText (Text.trim raw) negative q ∧ Number.Rounds negative q (.finite x)

def Says (values : Values) (s : Setting) (b : Bool) : Prop :=
  ∃ raw, values s.key = some raw ∧ lowered raw = truthText b

def Counts (values : Values) (s : Setting) (x : Dyadic) : Prop :=
  ∃ raw, values s.key = some raw ∧ Reads raw x

/-- What is wrong with the value of a setting. Of the two numbers only one has a range. -/
inductive Fault (values : Values) : Setting → Failure → Prop
  | missing {s : Setting} : values s.key = none → Fault values s (.missing s.key)
  | notBoolean {s : Setting} {raw : Text} : s.kind = .boolean → values s.key = some raw →
      (∀ b, lowered raw ≠ truthText b) → Fault values s (.notBoolean s.key (lowered raw))
  | notNumber {s : Setting} {raw : Text} : s.kind = .number → values s.key = some raw →
      (∀ x, ¬Reads raw x) → Fault values s (.notNumber s.key (Text.trim raw))
  | negativeTab {x : Dyadic} : Counts values .tabSize x → x.value < 0 →
      Fault values .tabSize (.negativeTab (.finite x))
  | tabTooWide {x : Dyadic} : Counts values .tabSize x → 65535 < x.value →
      Fault values .tabSize (.tabTooWide 65535 (.finite x))

variable {values : Values} {s : Setting} {e : Failure}

theorem text_eq_ok_iff {t : Text} : values.text s = .ok t ↔ values s.key = some t := by
  unfold Values.text
  cases values s.key with
  | none => simp
  | some raw => simp

theorem text_eq_error_iff :
    values.text s = .error e ↔ values s.key = none ∧ e = .missing s.key := by
  unfold Values.text
  cases values s.key with
  | none => simp [eq_comm]
  | some raw => simp

theorem boolean_of_none (h : values s.key = none) :
    values.boolean s = .error (.missing s.key) := by
  rw [Values.boolean, Values.text, h]
  rfl

theorem boolean_of_some {raw : Text} (h : values s.key = some raw) :
    values.boolean s = if lowered raw = truthText true then .ok true
      else if lowered raw = truthText false then .ok false
      else .error (.notBoolean s.key (lowered raw)) := by
  rw [Values.boolean, Values.text, h]
  rfl

theorem number_of_none (h : values s.key = none) :
    values.number s = .error (.missing s.key) := by
  rw [Values.number, Values.text, h]
  rfl

theorem number_of_some {raw : Text} (h : values s.key = some raw) :
    values.number s = if Text.trim raw = [] then .ok ⟨false, 0, 0⟩
      else match Number.read (Text.trim raw) with
        | some (.finite x) => .ok x
        | _ => .error (.notNumber s.key (Text.trim raw)) := by
  rw [Values.number, Values.text, h]
  rfl

theorem boolean_eq_ok_iff {b : Bool} : values.boolean s = .ok b ↔ Says values s b := by
  unfold Says
  cases h : values s.key with
  | none => simp [boolean_of_none h]
  | some raw =>
    have hne : truthText false ≠ truthText true := by decide
    rw [boolean_of_some h]
    by_cases htrue : lowered raw = truthText true
    · cases b <;> simp [htrue, hne.symm]
    · by_cases hfalse : lowered raw = truthText false
      · cases b <;> simp [hfalse, hne]
      · cases b <;> simp [htrue, hfalse]

theorem boolean_eq_error_iff : values.boolean s = .error e ↔
    values s.key = none ∧ e = .missing s.key ∨
      ∃ raw, values s.key = some raw ∧ (∀ b, lowered raw ≠ truthText b) ∧
        e = .notBoolean s.key (lowered raw) := by
  cases h : values s.key with
  | none => simp [boolean_of_none h, eq_comm]
  | some raw =>
    rw [boolean_of_some h]
    split
    · next htrue => simp [htrue]
    · next htrue =>
      split
      · next hfalse => simp [hfalse]
      · next hfalse => simp [htrue, hfalse, eq_comm]

theorem counts_of_number {x : Dyadic} (h : values.number s = .ok x) : Counts values s x := by
  cases hkey : values s.key with
  | none =>
    rw [number_of_none hkey] at h
    cases h
  | some raw =>
    refine ⟨raw, hkey, ?_⟩
    rw [number_of_some hkey] at h
    unfold Reads
    split
    · next hblank =>
      rw [if_pos hblank] at h
      exact (Except.ok.inj h).symm
    · next hblank =>
      rw [if_neg hblank] at h
      split at h
      · next y hread => exact Number.exists_decimalText (Except.ok.inj h ▸ hread)
      · cases h

theorem number_of_counts {x : Dyadic} (h : Counts values s x) :
    ∃ y, values.number s = .ok y ∧ y.value = x.value ∧ (x.value ≠ 0 → y = x) := by
  obtain ⟨raw, hkey, hx⟩ := h
  rw [number_of_some hkey]
  unfold Reads at hx
  split at hx
  · next hblank => exact ⟨x, by rw [if_pos hblank, hx], rfl, fun _ => rfl⟩
  · next hblank =>
    obtain ⟨negative, q, htext, hround⟩ := hx
    obtain ⟨y, hread, hsame⟩ := Number.exists_read_finite htext hround
    exact ⟨y, by rw [if_neg hblank, hread], hsame⟩

theorem number_error_of_some {raw : Text} (hkey : values s.key = some raw)
    (h : values.number s = .error e) : e = .notNumber s.key (Text.trim raw) := by
  rw [number_of_some hkey] at h
  split at h
  · cases h
  · split at h
    · cases h
    · exact (Except.error.inj h).symm

theorem number_eq_error_iff : values.number s = .error e ↔
    values s.key = none ∧ e = .missing s.key ∨
      ∃ raw, values s.key = some raw ∧ (∀ x, ¬Reads raw x) ∧
        e = .notNumber s.key (Text.trim raw) := by
  cases hkey : values s.key with
  | none => simp [number_of_none hkey, eq_comm (a := e)]
  | some raw =>
    simp only [reduceCtorEq, false_and, false_or, Option.some.injEq, exists_eq_left']
    constructor
    · intro h
      refine ⟨fun x hx => ?_, number_error_of_some hkey h⟩
      obtain ⟨y, hy, -⟩ := number_of_counts ⟨raw, hkey, hx⟩
      cases hy.symm.trans h
    · rintro ⟨hnone, rfl⟩
      cases h : values.number s with
      | ok x =>
        obtain ⟨raw', hkey', hx⟩ := counts_of_number h
        cases hkey.symm.trans hkey'
        exact absurd hx (hnone x)
      | error e => rw [number_error_of_some hkey h]

theorem tabSizeOf_eq_ok_iff {x : Dyadic} {n : Nat} : tabSizeOf x = .ok n ↔
    0 ≤ x.value ∧ x.value ≤ 65535 ∧ n = ⌊x.value⌋₊ := by
  have hbelow := x.belowZero_iff
  have hexceeds : x.exceeds widestTab = true ↔ 65535 < x.value := x.exceeds_iff widestTab
  unfold tabSizeOf
  split
  · next h => simp [not_le.2 (hbelow.1 h)]
  · next h =>
    have hnonneg : 0 ≤ x.value := not_lt.1 (mt hbelow.2 h)
    split
    · next h' => simp [not_le.2 (hexceeds.1 h')]
    · next h' =>
      have hle : x.value ≤ 65535 := not_lt.1 (mt hexceeds.2 h')
      simp [hnonneg, hle, Dyadic.floor_eq hnonneg, eq_comm]

theorem tabSizeOf_eq_error_iff {x : Dyadic} : tabSizeOf x = .error e ↔
    x.value < 0 ∧ e = .negativeTab (.finite x) ∨
      65535 < x.value ∧ e = .tabTooWide 65535 (.finite x) := by
  have hbelow := x.belowZero_iff
  have hexceeds : x.exceeds widestTab = true ↔ 65535 < x.value := x.exceeds_iff widestTab
  unfold tabSizeOf
  split
  · next h =>
    have hneg := hbelow.1 h
    have hle : ¬65535 < x.value := by linarith
    simp [hneg, hle, eq_comm (a := e)]
  · next h =>
    have hnonneg := mt hbelow.2 h
    split
    · next h' => simp [hnonneg, hexceeds.1 h', widestTab, eq_comm (a := e)]
    · next h' => simp [hnonneg, mt hexceeds.2 h']

def failure? (values : Values) : Setting → Option Failure
  | .tabSize => Failure.of? (values.number .tabSize >>= tabSizeOf)
  | s =>
    match s.kind with
    | .text => Failure.of? (values.text s)
    | .boolean => Failure.of? (values.boolean s)
    | .number => Failure.of? (values.number s)

theorem fault_text_iff (hs : s.kind = .text) : values.text s = .error e ↔ Fault values s e := by
  rw [text_eq_error_iff]
  constructor
  · rintro ⟨h, rfl⟩
    exact .missing h
  · intro h
    cases h with
    | missing h => exact ⟨h, rfl⟩
    | notBoolean hkind => cases hs.symm.trans hkind
    | notNumber hkind => cases hs.symm.trans hkind
    | negativeTab => cases hs
    | tabTooWide => cases hs

theorem fault_boolean_iff (hs : s.kind = .boolean) :
    values.boolean s = .error e ↔ Fault values s e := by
  rw [boolean_eq_error_iff]
  constructor
  · rintro (⟨h, rfl⟩ | ⟨raw, h, hne, rfl⟩)
    · exact .missing h
    · exact .notBoolean hs h hne
  · intro h
    cases h with
    | missing h => exact .inl ⟨h, rfl⟩
    | notBoolean _ h hne => exact .inr ⟨_, h, hne, rfl⟩
    | notNumber hkind => cases hs.symm.trans hkind
    | negativeTab => cases hs
    | tabTooWide => cases hs

theorem fault_verbosity_iff :
    values.number .verbosity = .error e ↔ Fault values .verbosity e := by
  rw [number_eq_error_iff]
  constructor
  · rintro (⟨h, rfl⟩ | ⟨raw, h, hnone, rfl⟩)
    · exact .missing h
    · exact .notNumber rfl h hnone
  · intro h
    cases h with
    | missing h => exact .inl ⟨h, rfl⟩
    | notBoolean hkind => cases hkind
    | notNumber _ h hnone => exact .inr ⟨_, h, hnone, rfl⟩

theorem fault_tabSize_iff :
    values.number .tabSize >>= tabSizeOf = .error e ↔ Fault values .tabSize e := by
  rw [bind_eq_error_iff, number_eq_error_iff]
  simp only [tabSizeOf_eq_error_iff]
  constructor
  · rintro ((⟨h, rfl⟩ | ⟨raw, h, hnone, rfl⟩) | ⟨x, hread, hrange⟩)
    · exact .missing h
    · exact .notNumber rfl h hnone
    · rcases hrange with ⟨hlt, rfl⟩ | ⟨hlt, rfl⟩
      · exact .negativeTab (counts_of_number hread) hlt
      · exact .tabTooWide (counts_of_number hread) hlt
  · intro h
    cases h with
    | missing h => exact .inl (.inl ⟨h, rfl⟩)
    | notBoolean hkind => cases hkind
    | notNumber _ h hnone => exact .inl (.inr ⟨_, h, hnone, rfl⟩)
    | negativeTab hx hlt =>
      obtain ⟨y, hy, -, hsame⟩ := number_of_counts hx
      rw [hsame hlt.ne] at hy
      exact .inr ⟨_, hy, .inl ⟨hlt, rfl⟩⟩
    | @tabTooWide x hx hlt =>
      have h0 : (0 : ℚ) < x.value := lt_trans (by norm_num) hlt
      obtain ⟨y, hy, -, hsame⟩ := number_of_counts hx
      rw [hsame h0.ne'] at hy
      exact .inr ⟨_, hy, .inr ⟨hlt, rfl⟩⟩

theorem failure?_eq_some_iff : failure? values s = some e ↔ Fault values s e := by
  cases s with
  | host | database => exact Failure.of?_eq_some_iff.trans (fault_text_iff rfl)
  | tabSize => exact Failure.of?_eq_some_iff.trans fault_tabSize_iff
  | verbosity => exact Failure.of?_eq_some_iff.trans fault_verbosity_iff
  | _ => exact Failure.of?_eq_some_iff.trans (fault_boolean_iff rfl)

theorem failure?_eq_none_iff : failure? values s = none ↔ ∀ e, ¬Fault values s e := by
  rw [Option.eq_none_iff_forall_not_mem]
  exact forall_congr' fun e => not_congr failure?_eq_some_iff

theorem findSome?_eq_foldr (f : Setting → Option Failure) (l : List Setting) :
    l.findSome? f = l.foldr (fun s r => (f s).or r) none := by
  induction l with
  | nil => rfl
  | cons s l ih =>
    rw [List.findSome?_cons, List.foldr_cons, ih]
    cases f s <;> rfl

theorem of?_read (values : Values) :
    Failure.of? (Request.read values) = Setting.all.findSome? (failure? values) := by
  rw [findSome?_eq_foldr]
  unfold Request.read
  exact Failure.of?_bind fun _ => Failure.of?_bind fun _ => Failure.of?_bind fun _ =>
    Failure.of?_bind fun _ => Failure.of?_bind fun _ => Failure.of?_bind fun _ =>
    Failure.of?_bind fun _ => Failure.of?_bind fun _ => Failure.of?_bind fun _ =>
    Failure.of?_bind_bind fun _ => Failure.of?_bind fun _ => rfl

def FirstFault (values : Values) (e : Failure) : Prop :=
  ∃ before s after, Setting.all = before ++ s :: after ∧ Fault values s e ∧
    ∀ t ∈ before, ∀ e', ¬Fault values t e'

theorem read_eq_error_iff : Request.read values = .error e ↔ FirstFault values e := by
  rw [← Failure.of?_eq_some_iff, of?_read, List.findSome?_eq_some_iff]
  simp only [failure?_eq_some_iff, failure?_eq_none_iff, FirstFault]

theorem mem_all (s : Setting) : s ∈ Setting.all := by
  cases s <;> decide

theorem exists_firstFault_iff : (∃ e, FirstFault values e) ↔ ∃ s e, Fault values s e := by
  constructor
  · rintro ⟨e, before, s, after, -, hfault, -⟩
    exact ⟨s, e, hfault⟩
  · rintro ⟨s, e, hfault⟩
    cases hread : Request.read values with
    | error e => exact ⟨e, read_eq_error_iff.1 hread⟩
    | ok r =>
      have hnone := of?_read values
      rw [hread] at hnone
      have hs := List.findSome?_eq_none_iff.1 hnone.symm s (mem_all s)
      exact absurd hfault (failure?_eq_none_iff.1 hs e)

end Settings

end QueryBridge
