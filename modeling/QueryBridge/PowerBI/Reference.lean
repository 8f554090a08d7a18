import QueryBridge.Text.Blank
import QueryBridge.Text.Scan
import QueryBridge.Text.Word

/-!
References to parameters: a name behind an at sign, or a name spliced into the query between
string literals. Either may be followed by a cast.
-/

namespace QueryBridge.PowerBI

/-- A spliced name has two ampersands, each with blanks on both sides. -/
inductive Reference where
  | named (name : Text) (cast : Option Text)
  | spliced (left₁ left₂ name right₁ right₂ : Text) (cast : Option Text)
  deriving DecidableEq, Repr

namespace Reference

def castText : Option Text → Text
  | none => []
  | some type => ':' :: ':' :: type

def written : Reference → Text
  | named name cast => '@' :: name ++ castText cast
  | spliced l₁ l₂ name r₁ r₂ cast =>
    '\'' :: '"' :: l₁ ++ '&' :: l₂ ++ name ++ r₁ ++ '&' :: r₂ ++ '"' :: '\'' :: castText cast

def readName (s : Text) : Option (Text × Text) :=
  if Text.word s = [] then none else some (Text.word s, Text.afterWord s)

def readCast : Text → Option Text × Text
  | ':' :: ':' :: s =>
    match readName s with
    | some (type, rest) => (some type, rest)
    | none => (none, ':' :: ':' :: s)
  | s => (none, s)

def readAmpersand (s : Text) : Option ((Text × Text) × Text) :=
  match Text.skip s with
  | '&' :: t => some ((Text.gap s, Text.gap t), Text.skip t)
  | _ => none

def readSpliced (s : Text) : Option (Reference × Text) :=
  (readAmpersand s).bind fun l =>
    (readName l.2).bind fun n =>
      (readAmpersand n.2).bind fun r =>
        (Text.after? ['"', '\''] r.2).map fun t =>
          (spliced l.1.1 l.1.2 n.1 r.1.1 r.1.2 (readCast t).1, (readCast t).2)

def read : Text → Option (Reference × Text)
  | '@' :: s => (readName s).map fun n => (named n.1 (readCast n.2).1, (readCast n.2).2)
  | '\'' :: '"' :: s => readSpliced s
  | _ => none

theorem readName_eq_some {s n rest : Text} (h : readName s = some (n, rest)) : n ++ rest = s := by
  simp only [readName] at h
  split at h
  · simp at h
  · simp only [Option.some.injEq, Prod.mk.injEq] at h
    obtain ⟨rfl, rfl⟩ := h
    exact Text.word_append_afterWord s

theorem castText_readCast (s : Text) : castText (readCast s).1 ++ (readCast s).2 = s := by
  unfold readCast
  split
  · split
    · next h => simp [castText, readName_eq_some h]
    · simp [castText]
  · simp [castText]

theorem readAmpersand_eq_some {s rest : Text} {g : Text × Text}
    (h : readAmpersand s = some (g, rest)) : g.1 ++ '&' :: (g.2 ++ rest) = s := by
  simp only [readAmpersand] at h
  split at h
  · next t ht =>
    simp only [Option.some.injEq, Prod.mk.injEq] at h
    obtain ⟨rfl, rfl⟩ := h
    rw [Text.gap_append_skip, ← ht, Text.gap_append_skip]
  · simp at h

theorem written_append {s rest : Text} {r : Reference} (h : read s = some (r, rest)) :
    r.written ++ rest = s := by
  unfold read at h
  split at h
  · next s =>
    obtain ⟨⟨n, t⟩, hn, he⟩ := Option.map_eq_some_iff.1 h
    simp only [Prod.mk.injEq] at he
    obtain ⟨rfl, rfl⟩ := he
    rw [← readName_eq_some hn]
    simp [written, castText_readCast]
  · next s =>
    obtain ⟨⟨l, t₁⟩, hl, h⟩ := Option.bind_eq_some_iff.1 h
    obtain ⟨⟨n, t₂⟩, hn, h⟩ := Option.bind_eq_some_iff.1 h
    obtain ⟨⟨r, t₃⟩, hr, h⟩ := Option.bind_eq_some_iff.1 h
    obtain ⟨t₄, ht, he⟩ := Option.map_eq_some_iff.1 h
    simp only [Prod.mk.injEq] at he
    obtain ⟨rfl, rfl⟩ := he
    dsimp only at hn hr ht
    rw [← readAmpersand_eq_some hl, ← readName_eq_some hn, ← readAmpersand_eq_some hr,
      ← Text.after?_eq_some_iff.1 ht]
    simp [written, castText_readCast]
  · simp at h

def recognizer : Text.Recognizer Reference where
  written := written
  read := read
  written_append := written_append
  written_ne_nil {_ r _} _ := by cases r <;> simp [written]

end Reference

end QueryBridge.PowerBI
