import QueryBridge.Text.Scan

/-!
Double quotes inside a string literal are written twice. Escaping leaves runs of two or more alone,
since they count as escaped already.
-/

namespace QueryBridge.PowerBI

def quotes (s : Text) : Nat :=
  (s.takeWhile (· = '"')).length

theorem replicate_quotes (s : Text) :
    List.replicate (quotes s) '"' ++ s.dropWhile (· = '"') = s := by
  have hall := List.all_eq_true.1 (List.all_takeWhile (p := (· = '"')) (l := s))
  have h : s.takeWhile (· = '"') = List.replicate (quotes s) '"' :=
    List.eq_replicate_iff.2 ⟨rfl, fun c hc => of_decide_eq_true (hall c hc)⟩
  rw [← h, List.takeWhile_append_dropWhile]

def quoteRun : Text.Recognizer Nat where
  written n := List.replicate n '"'
  read s := if quotes s = 0 then none else some (quotes s, s.dropWhile (· = '"'))
  written_append {s m rest} h := by
    split at h
    · simp at h
    · simp only [Option.some.injEq, Prod.mk.injEq] at h
      obtain ⟨rfl, rfl⟩ := h
      exact replicate_quotes s
  written_ne_nil {s m rest} h := by
    split at h
    · simp at h
    · next hq =>
      simp only [Option.some.injEq, Prod.mk.injEq] at h
      obtain ⟨rfl, rfl⟩ := h
      simpa using hq

def quotePair : Text.Recognizer Unit :=
  .literal ['"', '"'] (by decide)

/-- The text with every quote that stands alone doubled. -/
def doubleQuotes : Text → Text :=
  quoteRun.replace fun n => List.replicate (if n = 1 then 2 else n) '"'

def halveQuotes : Text → Text :=
  quotePair.replace fun _ => ['"']

end QueryBridge.PowerBI
