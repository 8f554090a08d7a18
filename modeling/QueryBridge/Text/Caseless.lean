import QueryBridge.Text.Scan

/-!
Matching without regard to letter case. Two characters agree when their simple case foldings do; for
the ASCII words that are looked for this lets the long s stand for s and the kelvin sign for k.
-/

namespace QueryBridge.Text

/-- Simple case folding of the characters that fold to ASCII; all others stay. -/
def fold (c : Char) : Char :=
  if c = 'ſ' then 's' else if c = '\u212a' then 'k' else c.toLower

/-- Reads the word `w` in any letter case; gives its spelling and the text after it. -/
def spelling? : Text → Text → Option (Text × Text)
  | [], s => some ([], s)
  | _ :: _, [] => none
  | l :: w, c :: s =>
    if fold c = fold l then (spelling? w s).map fun r => (c :: r.1, r.2) else none

def withinCaseless (w : Text) : Text → Bool :=
  occurs fun s => (spelling? w s).isSome

theorem spelling?_eq_some {w s t rest : Text} (h : spelling? w s = some (t, rest)) :
    t ++ rest = s ∧ t.map fold = w.map fold := by
  induction w generalizing s t with
  | nil => simp_all [spelling?]
  | cons l w ih =>
    cases s with
    | nil => simp [spelling?] at h
    | cons c s =>
      simp only [spelling?] at h
      split at h
      · next hc =>
        obtain ⟨⟨t', r⟩, hr, he⟩ := Option.map_eq_some_iff.1 h
        simp only [Prod.mk.injEq] at he
        obtain ⟨rfl, rfl⟩ := he
        obtain ⟨h₁, h₂⟩ := ih hr
        exact ⟨by simp [h₁], by simp [hc, h₂]⟩
      · simp at h

theorem spelling?_append {w t : Text} (h : t.map fold = w.map fold) (rest : Text) :
    spelling? w (t ++ rest) = some (t, rest) := by
  induction w generalizing t with
  | nil => simp_all [spelling?]
  | cons l w ih =>
    cases t with
    | nil => simp at h
    | cons c t =>
      simp only [List.map_cons, List.cons.injEq] at h
      simp [spelling?, h.1, ih h.2]

def Recognizer.caseless (w : Text) (hw : w ≠ []) : Recognizer Text where
  written := id
  read := spelling? w
  written_append h := (spelling?_eq_some h).1
  written_ne_nil h := by
    rintro rfl
    exact hw (List.map_eq_nil_iff.1 (spelling?_eq_some h).2.symm)

end QueryBridge.Text
