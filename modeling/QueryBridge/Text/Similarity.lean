import QueryBridge.Text.Basic

/-!
How similar two texts are, between zero and one: the mean of three shares. Characters match where
they are equal and stand near each other; the shares are those of the matching characters in either
text, and that of the matching characters which keep their order.
-/

namespace QueryBridge.Text

def matchReach (a b : Text) : Nat :=
  max a.length b.length / 2 - 1

/-- Marks the first free `c` from the place `low` up to but without the place `high`. The text
begins at the place `i`, and what is marked is taken. -/
def mark? (c : Char) (low high i : Nat) : List (Char × Bool) → Option (List (Char × Bool))
  | [] => none
  | (d, taken) :: rest =>
    if low ≤ i && i < high && d = c && !taken then some ((d, true) :: rest)
    else (mark? c low high (i + 1) rest).map ((d, taken) :: ·)

/-- The matching characters of the first text from its place `i` on, and the second text with marks
at the characters that they match. -/
def matching (reach i : Nat) (marks : List (Char × Bool)) : Text → Text × List (Char × Bool)
  | [] => ([], marks)
  | c :: a =>
    match mark? c (i - reach) (i + reach + 1) 0 marks with
    | some marks =>
      let (found, marks) := matching reach (i + 1) marks a
      (c :: found, marks)
    | none => matching reach (i + 1) marks a

def differences (a b : Text) : Nat :=
  (List.zip a b).countP fun p => p.1 ≠ p.2

def similarity (a b : Text) : Float :=
  let (found, marks) := matching (matchReach a b) 0 (b.map (·, false)) a
  let kept := (marks.filter (·.2)).map (·.1)
  let m := found.length
  if m = 0 then 0
  else
    (m.toFloat / a.length.toFloat + m.toFloat / b.length.toFloat +
      (m - differences found kept / 2).toFloat / m.toFloat) / 3

def similarityBound : Float := 0.7

/-- Of the candidates whose names are similar to a text the one with the most similar name, and of
several such the last. -/
def nearest? {α : Type} (name : α → Text) (s : Text) (candidates : List α) : Option α :=
  candidates.foldl (fun best b =>
    let bound := best.elim similarityBound fun b => similarity s (name b)
    let value := similarity s (name b)
    if bound < value || best.isSome && bound == value then some b else best) none

end QueryBridge.Text
