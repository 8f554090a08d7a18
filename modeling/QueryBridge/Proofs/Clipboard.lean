import QueryBridge.Clipboard
import QueryBridge.Proofs.Failure

/-!
A clipboard under calls in any order and of any number. A text is replaced only by one that is
written or by its own conversion, and nothing makes the clipboard empty again.
-/

namespace QueryBridge

theorem kind_of_ofQuery_error {q : Text} {e : Failure} (h : Dialect.ofQuery q = .error e) :
    e.kind = .detection := by
  unfold Dialect.ofQuery at h
  split at h
  · split at h <;> cases h <;> rfl
  · cases h
    rfl

namespace Clipboard

inductive Call where
  | read
  | write (t : Text)
  | convert (s : Settings) (j : Journal)

def answer (c : Clipboard) : Call → Except Failure (Option Text)
  | .read => c.read.map some
  | .write _ => .ok none
  | .convert s j => ((c.convert s).run j).1.1.map some

def step (c : Clipboard) : Call → Clipboard
  | .read => c
  | .write t => c.write t
  | .convert s j => ((c.convert s).run j).1.2

def run (c : Clipboard) (calls : List Call) : Clipboard :=
  calls.foldl step c

theorem run_append (c : Clipboard) (calls later : List Call) :
    c.run (calls ++ later) = (c.run calls).run later :=
  List.foldl_append

/-- The clipboard before a call, the call, its answer and the clipboard after it. -/
inductive Effect : Clipboard → Call → Except Failure (Option Text) → Clipboard → Prop
  | read (c : Clipboard) : Effect c .read (c.read.map some) c
  | written (c : Clipboard) (t : Text) : Effect c (.write t) (.ok none) ⟨some t⟩
  | converted (s : Settings) (j : Journal) {t out : Text} :
      (∀ j', ((QueryBridge.convert s t).run j').1 = .ok out) →
      Effect ⟨some t⟩ (.convert s j) (.ok (some out)) ⟨some out⟩
  | refused (c : Clipboard) (s : Settings) (j : Journal) (e : Failure) :
      Effect c (.convert s j) (.error e) c

theorem Effect.ne_empty {c c' : Clipboard} {call : Call} {a : Except Failure (Option Text)}
    (h : Effect c call a c') (hc : c ≠ empty) : c' ≠ empty := by
  cases h with
  | read => exact hc
  | written c t => exact nofun
  | converted s j hout => exact nofun
  | refused s j e => exact hc

theorem run_convert_of_some (s : Settings) (t : Text) (j : Journal) :
    ((convert s ⟨some t⟩).run j).1 =
      match converted s t with
      | .error e => (.error e, ⟨some t⟩)
      | .ok out => (.ok out, ⟨some out⟩) := by
  have hconvert := run_convert_fst s t (j.note .info "Reading clipboard...".toList)
  unfold convert read
  rw [Reporting.run_bind, Reporting.info, Reporting.run_note]
  dsimp only
  rw [Reporting.run_bind, hconvert]
  cases converted s t with
  | error e => rfl
  | ok out => rfl

theorem answer_convert_of_some (s : Settings) (t : Text) (j : Journal) :
    answer ⟨some t⟩ (.convert s j) = (converted s t).map some := by
  rw [answer, run_convert_of_some]
  cases converted s t with
  | error e => rfl
  | ok out => rfl

theorem effect_step (c : Clipboard) (call : Call) :
    Effect c call (c.answer call) (c.step call) := by
  cases call with
  | read => exact .read c
  | write t => exact .written c t
  | convert s j =>
    obtain ⟨_ | t⟩ := c
    · exact .refused empty s j _
    · rw [answer, step, run_convert_of_some]
      cases hout : converted s t with
      | error e => exact .refused ⟨some t⟩ s j e
      | ok out => exact .converted s j fun j' => (run_convert_fst s t j').trans hout

theorem answer_convert_eq_error_iff {c : Clipboard} {s : Settings} {j : Journal} {e : Failure} :
    c.answer (.convert s j) = .error e ↔
      (c = empty ∧ e = .clipboard "clipboard is empty".toList ∧ e.kind = .device) ∨
        ∃ t, c = ⟨some t⟩ ∧ Dialect.ofQuery t = .error e ∧ e.kind = .detection := by
  obtain ⟨_ | t⟩ := c
  · have hanswer : answer ⟨none⟩ (.convert s j) =
        .error (.clipboard "clipboard is empty".toList) := rfl
    rw [hanswer]
    constructor
    · intro h
      cases h
      exact .inl ⟨rfl, rfl, rfl⟩
    · intro h
      cases h with
      | inl h => rw [h.2.1]
      | inr h => cases h.choose_spec.1
  · rw [answer_convert_of_some, converted, map_eq_error_iff, map_eq_error_iff]
    constructor
    · intro h
      exact .inr ⟨t, rfl, h, kind_of_ofQuery_error h⟩
    · intro h
      cases h with
      | inl h => cases h.1
      | inr h =>
        obtain ⟨t', ht, h, -⟩ := h
        cases ht
        exact h

theorem run_ne_empty {c : Clipboard} (hc : c ≠ empty) (calls : List Call) :
    c.run calls ≠ empty := by
  induction calls generalizing c with
  | nil => exact hc
  | cons call calls ih => exact ih ((effect_step c call).ne_empty hc)

/-- After any calls, the next one does what its kind may do, a conversion fails just where there is
nothing to convert or its dialect is not found, and a text stays a text whatever comes later. -/
theorem run_all_or_nothing (c : Clipboard) (calls : List Call) :
    (∀ call, Effect (c.run calls) call ((c.run calls).answer call) (c.run (calls ++ [call]))) ∧
    (∀ s j e, (c.run calls).answer (.convert s j) = .error e ↔
      (c.run calls = empty ∧ e = .clipboard "clipboard is empty".toList ∧ e.kind = .device) ∨
        ∃ t, c.run calls = ⟨some t⟩ ∧ Dialect.ofQuery t = .error e ∧ e.kind = .detection) ∧
    ∀ later, c.run calls ≠ empty → c.run (calls ++ later) ≠ empty := by
  refine ⟨fun call => ?_, fun s j e => answer_convert_eq_error_iff, fun later h => ?_⟩
  · rw [run_append]
    exact effect_step (c.run calls) call
  · rw [run_append]
    exact run_ne_empty h later

theorem run_all_or_nothing_noMarks :
    run empty [.write "select 1".toList] ≠ empty ∧
      answer (run empty [.write "select 1".toList]) (.convert {} .capture) =
        .error (.ambiguous .neither) ∧
      Effect ⟨some "select 1".toList⟩ (.convert {} .capture) (.error (.ambiguous .neither))
        ⟨some "select 1".toList⟩ ∧
      run empty ([.write "select 1".toList] ++ [.convert {} .capture, .read,
        .write "from t where a = \x7b\x7ba\x7d\x7d".toList, .convert {} .capture]) ≠ empty := by
  obtain ⟨heffect, hfails, hstays⟩ := run_all_or_nothing empty [.write "select 1".toList]
  have hsome : run empty [.write "select 1".toList] ≠ empty := by decide
  have hquery : Dialect.ofQuery "select 1".toList = .error (.ambiguous .neither) := rfl
  have hanswer := (hfails {} .capture (.ambiguous .neither)).2 (.inr ⟨_, rfl, hquery, rfl⟩)
  have hafter : run empty ([.write "select 1".toList] ++ [.convert {} .capture]) =
      ⟨some "select 1".toList⟩ := by decide +kernel
  have hrefused := heffect (.convert {} .capture)
  rw [hanswer, hafter] at hrefused
  exact ⟨hsome, hanswer, hrefused, hstays _ hsome⟩

end Clipboard

end QueryBridge
