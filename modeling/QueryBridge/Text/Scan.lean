import QueryBridge.Text.Basic

/-!
Scanning a text from left to right for hits that do not overlap: where a recognizer reads a hit the
scan takes it and goes on behind it, elsewhere it passes one character. The pieces written one
after the other are the text again.
-/

namespace QueryBridge.Text

/-- Reads one kind of hit at the head of a text. What is read is written in the text. -/
structure Recognizer (μ : Type) where
  written : μ → Text
  read : Text → Option (μ × Text)
  written_append : ∀ {s m rest}, read s = some (m, rest) → written m ++ rest = s
  written_ne_nil : ∀ {s m rest}, read s = some (m, rest) → written m ≠ []

inductive Piece (μ : Type) where
  | plain (c : Char)
  | hit (m : μ)

namespace Piece

variable {μ : Type}

def render (f : μ → Text) : Piece μ → Text
  | plain c => [c]
  | hit m => f m

def hit? : Piece μ → Option μ
  | plain _ => none
  | hit m => some m

end Piece

namespace Recognizer

variable {μ : Type} (r : Recognizer μ)

theorem length_lt {s rest : Text} {m : μ} (h : r.read s = some (m, rest)) :
    rest.length < s.length := by
  have hs := congrArg List.length (r.written_append h)
  have hm := List.length_pos_iff.2 (r.written_ne_nil h)
  simp only [List.length_append] at hs
  omega

theorem read_nil : r.read [] = none := by
  cases h : r.read [] with
  | none => rfl
  | some x => simpa using r.length_lt h

def piecesFrom (found : List (Piece μ)) (s : Text) : List (Piece μ) :=
  match _h : r.read s with
  | some (m, rest) => piecesFrom (.hit m :: found) rest
  | none =>
    match s with
    | [] => found.reverse
    | c :: s => piecesFrom (.plain c :: found) s
termination_by s.length
decreasing_by
  · exact r.length_lt _h
  · exact Nat.lt_succ_self _

/-- The hits of a text, leftmost first and not overlapping, and the characters between them. -/
def pieces (s : Text) : List (Piece μ) :=
  r.piecesFrom [] s

def hits (s : Text) : List μ :=
  (r.pieces s).filterMap Piece.hit?

def replace (f : μ → Text) (s : Text) : Text :=
  (r.pieces s).flatMap (Piece.render f)

theorem piecesFrom_eq (found : List (Piece μ)) (s : Text) :
    r.piecesFrom found s = found.reverse ++ r.pieces s := by
  suffices h : ∀ f g, r.piecesFrom (f ++ g) s = g.reverse ++ r.piecesFrom f s by
    simpa [pieces] using h [] found
  intro f
  fun_induction r.piecesFrom f s with
  | case1 f s m rest h ih =>
    intro g
    rw [piecesFrom]
    split <;> simp_all
  | case2 f h =>
    intro g
    rw [piecesFrom]
    split <;> simp_all
  | case3 f c s h ih =>
    intro g
    rw [piecesFrom]
    split
    · simp_all
    · exact ih g

@[simp] theorem pieces_nil : r.pieces [] = [] := by
  rw [pieces, piecesFrom]
  split
  · next h => simp [r.read_nil] at h
  · rfl

theorem pieces_of_read {s rest : Text} {m : μ} (h : r.read s = some (m, rest)) :
    r.pieces s = .hit m :: r.pieces rest := by
  rw [pieces, piecesFrom]
  split
  · next m' rest' h' =>
    obtain ⟨rfl, rfl⟩ : m' = m ∧ rest' = rest := by simpa [h] using h'.symm
    simp [piecesFrom_eq]
  · next h' => simp [h] at h'

theorem pieces_cons {c : Char} {s : Text} (h : r.read (c :: s) = none) :
    r.pieces (c :: s) = .plain c :: r.pieces s := by
  rw [pieces, piecesFrom]
  split
  · next h' => simp [h] at h'
  · simp [piecesFrom_eq]

theorem scan_induction {motive : Text → Prop} (nil : motive [])
    (hit : ∀ s m rest, r.read s = some (m, rest) → motive rest → motive s)
    (plain : ∀ c s, r.read (c :: s) = none → motive s → motive (c :: s)) (s : Text) :
    motive s := by
  induction hn : s.length using Nat.strongRecOn generalizing s with
  | _ n ih =>
    cases h : r.read s with
    | some x => exact hit s x.1 x.2 h (ih _ (hn ▸ r.length_lt h) _ rfl)
    | none =>
      cases s with
      | nil => exact nil
      | cons c s => exact plain c s h (ih _ (by simp [← hn]) _ rfl)

@[simp] theorem replace_nil (f : μ → Text) : r.replace f [] = [] := by
  simp [replace]

theorem replace_of_read (f : μ → Text) {s rest : Text} {m : μ} (h : r.read s = some (m, rest)) :
    r.replace f s = f m ++ r.replace f rest := by
  simp [replace, r.pieces_of_read h, Piece.render]

theorem replace_cons (f : μ → Text) {c : Char} {s : Text} (h : r.read (c :: s) = none) :
    r.replace f (c :: s) = c :: r.replace f s := by
  simp [replace, r.pieces_cons h, Piece.render]

@[simp] theorem hits_nil : r.hits [] = [] := by
  simp [hits]

theorem hits_of_read {s rest : Text} {m : μ} (h : r.read s = some (m, rest)) :
    r.hits s = m :: r.hits rest := by
  simp [hits, r.pieces_of_read h, Piece.hit?]

theorem hits_cons {c : Char} {s : Text} (h : r.read (c :: s) = none) :
    r.hits (c :: s) = r.hits s := by
  simp [hits, r.pieces_cons h, List.filterMap_cons, Piece.hit?]

/-- Nothing is lost: each hit rendered as it was written gives the text back. -/
theorem replace_written (s : Text) : r.replace r.written s = s := by
  induction s using r.scan_induction with
  | nil => simp
  | hit s m rest h ih => rw [r.replace_of_read _ h, ih, r.written_append h]
  | plain c s h ih => rw [r.replace_cons _ h, ih]

def literal (t : Text) (ht : t ≠ []) : Recognizer Unit where
  written _ := t
  read s := (after? t s).map ((), ·)
  written_append h := by
    obtain ⟨u, hu, he⟩ := Option.map_eq_some_iff.1 h
    cases he
    exact after?_eq_some_iff.1 hu
  written_ne_nil _ := ht

end Recognizer

end QueryBridge.Text
