import QueryBridge.Text.Basic

/-!
Blank characters: the Unicode property White_Space. `skip` passes a run of them, `trim` drops the
runs at both ends, and `pair?` reads a bracket written twice with blanks allowed in between.
-/

namespace QueryBridge.Text

def blankRanges : List (Nat × Nat) :=
  [(0x9, 0xD), (0x20, 0x20), (0x85, 0x85), (0xA0, 0xA0), (0x1680, 0x1680), (0x2000, 0x200A),
    (0x2028, 0x2029), (0x202F, 0x202F), (0x205F, 0x205F), (0x3000, 0x3000)]

def isBlank : Char → Bool :=
  inRanges blankRanges

def gap (s : Text) : Text :=
  s.takeWhile isBlank

def skip (s : Text) : Text :=
  s.dropWhile isBlank

def trimEnd (s : Text) : Text :=
  (skip s.reverse).reverse

def trim (s : Text) : Text :=
  trimEnd (skip s)

/-- Reads the bracket `b`, any blanks, and `b` again; gives the blanks and the text after. -/
def pair? (b : Char) : Text → Option (Text × Text)
  | [] => none
  | c :: s =>
    if c = b then
      match skip s with
      | [] => none
      | d :: rest => if d = b then some (gap s, rest) else none
    else none

theorem gap_append_skip (s : Text) : gap s ++ skip s = s :=
  List.takeWhile_append_dropWhile

theorem pair?_eq_some {b : Char} {s g rest : Text} (h : pair? b s = some (g, rest)) :
    b :: g ++ b :: rest = s := by
  cases s with
  | nil => simp [pair?] at h
  | cons c s =>
    simp only [pair?] at h
    split at h
    · next hc =>
      split at h
      · simp at h
      · next d r hs =>
        split at h
        · next hd =>
          simp only [Option.some.injEq, Prod.mk.injEq] at h
          obtain ⟨rfl, rfl⟩ := h
          subst hc hd
          conv => rhs; rw [← gap_append_skip s, hs]
          rfl
        · simp at h
    · simp at h

end QueryBridge.Text
