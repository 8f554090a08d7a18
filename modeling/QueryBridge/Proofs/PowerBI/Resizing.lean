import QueryBridge.Proofs.PowerBI.Literal

/-!
The lengths of runs of quotes. Doubling and halving write each run in another length and change
nothing else, so which texts they leave alone, or undo one another on, is a matter of the lengths.
-/

namespace QueryBridge.PowerBI
open Text

def resize (width : Nat → Nat) : Text → Text :=
  quoteRun.replace fun n => List.replicate (width n) '"'

theorem quoteRun_read_replicate {n : Nat} (hn : 0 < n) {t : Text} (ht : t.head? ≠ some '"') :
    quoteRun.read (List.replicate n '"' ++ t) = some (n, t) := by
  have hcount := quotes_append (n := n) ht
  have hdrop : (List.replicate n '"' ++ t).dropWhile (· = '"') = t := by
    have hsplit := replicate_quotes (List.replicate n '"' ++ t)
    rwa [hcount, List.append_cancel_left_eq] at hsplit
  simp only [quoteRun, hcount, hdrop, if_neg hn.ne']

section Widths

variable {width : Nat → Nat} (hwidth : ∀ n, 0 < n → 0 < width n)

theorem resize_of_read {s t : Text} {n : Nat} (h : quoteRun.read s = some (n, t)) :
    resize width s = List.replicate (width n) '"' ++ resize width t :=
  quoteRun.replace_of_read _ h

theorem resize_cons {c : Char} (hc : c ≠ '"') (s : Text) :
    resize width (c :: s) = c :: resize width s :=
  quoteRun.replace_cons _ (quoteRun_read_of_ne hc s)

theorem head?_resize {t : Text} (h : t.head? ≠ some '"') : (resize width t).head? ≠ some '"' := by
  cases t with
  | nil => simp [resize]
  | cons c t =>
    have hc : c ≠ '"' := by simpa using h
    rwa [resize_cons hc]

include hwidth in
theorem read_resize {s t : Text} {n : Nat} (h : quoteRun.read s = some (n, t)) :
    quoteRun.read (resize width s) = some (width n, resize width t) := by
  obtain ⟨hn, -, ht⟩ := quoteRun_read_eq_some h
  rw [resize_of_read h, quoteRun_read_replicate (hwidth n hn) (head?_resize ht)]

include hwidth in
theorem hits_resize (s : Text) :
    quoteRun.hits (resize width s) = (quoteRun.hits s).map width := by
  induction s using quoteRun.scan_induction with
  | nil => simp [resize]
  | hit s n t h ih =>
    rw [quoteRun.hits_of_read (read_resize hwidth h), ih, quoteRun.hits_of_read h, List.map_cons]
  | plain c s h ih =>
    have hc := ne_quote_of_read h
    rw [resize_cons hc, quoteRun.hits_cons (quoteRun_read_of_ne hc _), ih, quoteRun.hits_cons h]

include hwidth in
theorem resize_resize (outer : Nat → Nat) (s : Text) :
    resize outer (resize width s) = resize (fun n => outer (width n)) s := by
  induction s using quoteRun.scan_induction with
  | nil => simp [resize]
  | hit s n t h ih => rw [resize_of_read (read_resize hwidth h), ih, resize_of_read h]
  | plain c s h ih =>
    have hc := ne_quote_of_read h
    rw [resize_cons hc, resize_cons hc, ih, resize_cons hc]

include hwidth in
theorem resize_eq_self_iff {s : Text} :
    resize width s = s ↔ ∀ n, MaximalRun s n → width n = n := by
  have hruns : (∀ n, MaximalRun s n → width n = n) ↔ ∀ n ∈ quoteRun.hits s, width n = n :=
    forall_congr' fun n => by rw [mem_hits_quoteRun]
  rw [hruns]
  constructor
  · intro h
    have hhits := hits_resize hwidth s
    rw [h] at hhits
    exact List.map_inj_left.1 (hhits.symm.trans (List.map_id _).symm)
  · intro h
    have hwritten : resize width s = quoteRun.replace quoteRun.written s :=
      quoteRun.replace_congr fun n hn => congrArg (List.replicate · '"') (h n hn)
    rw [hwritten, quoteRun.replace_written]

end Widths

def doubledWidth (n : Nat) : Nat :=
  if n = 1 then 2 else n

/-- Each two quotes become one, and one that is left over stays. -/
def halvedWidth (n : Nat) : Nat :=
  (n + 1) / 2

theorem doubledWidth_pos (n : Nat) (hn : 0 < n) : 0 < doubledWidth n := by
  unfold doubledWidth
  split <;> omega

theorem halvedWidth_pos (n : Nat) (hn : 0 < n) : 0 < halvedWidth n := by
  unfold halvedWidth
  omega

theorem doubledWidth_eq_self_iff {n : Nat} : doubledWidth n = n ↔ n ≠ 1 := by
  unfold doubledWidth
  split <;> omega

theorem halvedWidth_doubledWidth_eq_self_iff {n : Nat} (hn : 0 < n) :
    halvedWidth (doubledWidth n) = n ↔ n = 1 := by
  unfold halvedWidth doubledWidth
  split <;> omega

theorem doubleQuotes_eq_resize : doubleQuotes = resize doubledWidth :=
  rfl

theorem halveQuotes_replicate_append (n : Nat) {t : Text} (ht : t.head? ≠ some '"') :
    halveQuotes (List.replicate n '"' ++ t) =
      List.replicate (halvedWidth n) '"' ++ halveQuotes t := by
  obtain ⟨k, rfl | rfl⟩ := Nat.even_or_odd' n
  · have hwidth : halvedWidth (2 * k) = k := by unfold halvedWidth; omega
    rw [hwidth, Nat.two_mul, ← escape_replicate, halveQuotes_escape_append]
  · have hwidth : halvedWidth (2 * k + 1) = k + 1 := by unfold halvedWidth; omega
    rw [hwidth, List.replicate_succ', List.replicate_succ', Nat.two_mul, ← escape_replicate,
      List.append_assoc, halveQuotes_escape_append, List.append_assoc, List.singleton_append,
      halveQuotes_lone ht]
    rfl

theorem halveQuotes_eq_resize : halveQuotes = resize halvedWidth := by
  funext s
  induction s using quoteRun.scan_induction with
  | nil => simp [resize, halveQuotes]
  | hit s n t h ih =>
    obtain ⟨-, hs, ht⟩ := quoteRun_read_eq_some h
    rw [resize_of_read h, ← ih, ← hs, halveQuotes_replicate_append n ht]
  | plain c s h ih =>
    have hc := ne_quote_of_read h
    rw [resize_cons hc, ← ih]
    exact quotePair.replace_cons _ (quotePair_read_of_ne hc s)

theorem MaximalRun.pair_isInfix {s : Text} {n : Nat} (h : MaximalRun s n) (hn : n ≠ 1) :
    ['"', '"'] <:+: s := by
  obtain ⟨hpos, a, b, rfl, -⟩ := h
  obtain ⟨k, rfl⟩ := Nat.exists_eq_add_of_le (show 2 ≤ n by omega)
  refine ⟨a, List.replicate k '"' ++ b, ?_⟩
  rw [List.replicate_add]
  simp

theorem not_pair_isInfix {s : Text} (h : ∀ n ∈ quoteRun.hits s, n = 1) : ¬['"', '"'] <:+: s := by
  induction s using quoteRun.scan_induction with
  | nil => simp
  | hit s n t hr ih =>
    obtain ⟨-, rfl, ht⟩ := quoteRun_read_eq_some hr
    rw [quoteRun.hits_of_read hr] at h
    obtain rfl := h n (by simp)
    have hlone : List.replicate 1 '"' ++ t = '"' :: t := rfl
    rw [hlone, List.infix_cons_iff]
    intro hpair
    cases hpair with
    | inl hpair =>
      obtain ⟨u, rfl⟩ := (List.cons_prefix_cons.1 hpair).2
      exact ht rfl
    | inr hpair => exact ih (fun m hm => h m (List.mem_cons_of_mem 1 hm)) hpair
  | plain c s hr ih =>
    rw [quoteRun.hits_cons hr] at h
    rw [List.infix_cons_iff]
    intro hpair
    cases hpair with
    | inl hpair => exact ne_quote_of_read hr (List.cons_prefix_cons.1 hpair).1.symm
    | inr hpair => exact ih h hpair

theorem not_pair_iff {s : Text} : ¬['"', '"'] <:+: s ↔ ∀ n, MaximalRun s n → n = 1 := by
  constructor
  · intro h n hrun
    by_contra hn
    exact h (hrun.pair_isInfix hn)
  · exact fun h => not_pair_isInfix fun n hn => h n (mem_hits_quoteRun.1 hn)

theorem doubleQuotes_eq_self_iff {s : Text} : doubleQuotes s = s ↔ ¬MaximalRun s 1 := by
  rw [doubleQuotes_eq_resize, resize_eq_self_iff doubledWidth_pos]
  simp only [doubledWidth_eq_self_iff]
  exact ⟨fun h hone => h 1 hone rfl, fun h n hn hone => h (hone ▸ hn)⟩

theorem doubleQuotes_doubleQuotes (s : Text) :
    doubleQuotes (doubleQuotes s) = doubleQuotes s := by
  have hwidth : (fun n => doubledWidth (doubledWidth n)) = doubledWidth := by
    funext n
    unfold doubledWidth
    split <;> simp_all
  rw [doubleQuotes_eq_resize, resize_resize doubledWidth_pos, hwidth]

theorem halveQuotes_doubleQuotes_eq_self_iff {s : Text} :
    halveQuotes (doubleQuotes s) = s ↔ ¬['"', '"'] <:+: s := by
  have hpos (n : Nat) (hn : 0 < n) : 0 < halvedWidth (doubledWidth n) :=
    halvedWidth_pos _ (doubledWidth_pos n hn)
  rw [halveQuotes_eq_resize, doubleQuotes_eq_resize, resize_resize doubledWidth_pos,
    resize_eq_self_iff hpos, not_pair_iff]
  exact forall₂_congr fun n hn => halvedWidth_doubledWidth_eq_self_iff hn.1

/-- Doubling twice does no more than doubling once. It leaves alone, and gives, the texts without a
lone quote, and halving undoes it on those without two quotes in a row. -/
theorem doubleQuotes_fixed_and_undone (s : Text) :
    doubleQuotes (doubleQuotes s) = doubleQuotes s ∧
      (doubleQuotes s = s ↔ ¬MaximalRun s 1) ∧
      ((∃ t, doubleQuotes t = s) ↔ ¬MaximalRun s 1) ∧
      (halveQuotes (doubleQuotes s) = s ↔ ¬['"', '"'] <:+: s) := by
  have himage : (∃ t, doubleQuotes t = s) ↔ doubleQuotes s = s := by
    constructor
    · intro h
      obtain ⟨t, rfl⟩ := h
      exact doubleQuotes_doubleQuotes t
    · exact fun h => ⟨s, h⟩
  exact ⟨doubleQuotes_doubleQuotes s, doubleQuotes_eq_self_iff,
    himage.trans doubleQuotes_eq_self_iff, halveQuotes_doubleQuotes_eq_self_iff⟩

end QueryBridge.PowerBI
