import QueryBridge.Text.Scan

/-!
Scans of texts that are put together. A run in which no hit begins is passed over, and a map on
characters under which hits keep their places commutes with a scan.
-/

namespace QueryBridge.Text.Recognizer

variable {μ : Type} (r : Recognizer μ)

theorem pieces_append {a t : Text} (h : ∀ p q, p ++ q = a → q ≠ [] → r.read (q ++ t) = none) :
    r.pieces (a ++ t) = a.map .plain ++ r.pieces t := by
  induction a with
  | nil => rfl
  | cons c a ih =>
    have hc : r.read (c :: (a ++ t)) = none := h [] (c :: a) rfl (by simp)
    have ha := ih fun p q hpq hq => h (c :: p) q (by simp [hpq]) hq
    rw [List.cons_append, r.pieces_cons hc, ha]
    rfl

theorem replace_append (f : μ → Text) {a t : Text}
    (h : ∀ p q, p ++ q = a → q ≠ [] → r.read (q ++ t) = none) :
    r.replace f (a ++ t) = a ++ r.replace f t := by
  have hplain : (a.map Piece.plain).flatMap (Piece.render f) = a := by
    simp [List.flatMap_map, Piece.render]
  rw [replace, r.pieces_append h, List.flatMap_append, hplain, replace]

theorem replace_eq_self (f : μ → Text) {a : Text}
    (h : ∀ p q, p ++ q = a → q ≠ [] → r.read q = none) : r.replace f a = a := by
  have hread : ∀ p q, p ++ q = a → q ≠ [] → r.read (q ++ []) = none := by
    intro p q hpq hq
    rw [List.append_nil]
    exact h p q hpq hq
  have hreplace := r.replace_append f hread
  rwa [List.append_nil, replace_nil, List.append_nil] at hreplace

theorem replace_congr {f g : μ → Text} {s : Text} (h : ∀ m ∈ r.hits s, f m = g m) :
    r.replace f s = r.replace g s := by
  induction s using r.scan_induction with
  | nil => simp
  | hit s m rest hr ih =>
    rw [r.hits_of_read hr] at h
    have hrest := ih fun m' hm' => h m' (List.mem_cons_of_mem m hm')
    rw [r.replace_of_read f hr, r.replace_of_read g hr, h m (by simp), hrest]
  | plain c s hr ih =>
    rw [r.hits_cons hr] at h
    rw [r.replace_cons f hr, r.replace_cons g hr, ih h]

theorem hits_append {a t : Text} (h : ∀ p q, p ++ q = a → q ≠ [] → r.read (q ++ t) = none) :
    r.hits (a ++ t) = r.hits t := by
  have hplain : (a.map Piece.plain).filterMap (Piece.hit? (μ := μ)) = [] := by
    simp [List.filterMap_map, Function.comp_def, Piece.hit?]
  rw [hits, r.pieces_append h, List.filterMap_append, hplain, hits, List.nil_append]

theorem exists_read_of_mem_hits {s : Text} {m : μ} (h : m ∈ r.hits s) :
    ∃ t rest, r.read t = some (m, rest) := by
  induction s using r.scan_induction with
  | nil => simp at h
  | hit s m' rest hr ih =>
    rw [r.hits_of_read hr] at h
    cases List.mem_cons.1 h with
    | inl h => exact ⟨s, rest, h ▸ hr⟩
    | inr h => exact ih h
  | plain c s hr ih =>
    rw [r.hits_cons hr] at h
    exact ih h

theorem isInfix_replace (f : μ → Text) {s : Text} {m : μ} (h : m ∈ r.hits s) :
    f m <:+: r.replace f s := by
  obtain ⟨piece, hpiece, hm⟩ := List.mem_filterMap.1 h
  cases piece with
  | plain c => simp [Piece.hit?] at hm
  | hit m' =>
    obtain rfl : m' = m := by simpa [Piece.hit?] using hm
    exact List.infix_of_mem_flatten (List.mem_map_of_mem (f := Piece.render f) hpiece)

theorem written_isInfix_of_mem_hits {s : Text} {m : μ} (h : m ∈ r.hits s) :
    r.written m <:+: s := by
  have hinfix := r.isInfix_replace r.written h
  rwa [r.replace_written] at hinfix

theorem read_suffix {a t : Text} (h : ∀ c ∈ a, ∀ s, r.read (c :: s) = none) (p q : Text)
    (hpq : p ++ q = a) (hq : q ≠ []) : r.read (q ++ t) = none := by
  obtain ⟨c, q, rfl⟩ := List.exists_cons_of_ne_nil hq
  exact h c (by simp [← hpq]) (q ++ t)

/-- A map on characters that writes each hit out again, and leaves all else as it is, undoes the
replacement. -/
theorem flatMap_replace {f : μ → Text} {k : Char → Text} {s : Text}
    (hhits : ∀ m ∈ r.hits s, (f m).flatMap k = r.written m) (hplain : ∀ c ∈ s, k c = [c]) :
    (r.replace f s).flatMap k = s := by
  induction s using r.scan_induction with
  | nil => simp
  | hit s m rest h ih =>
    have hs := r.written_append h
    rw [r.hits_of_read h] at hhits
    have hrest := ih (fun m' hm' => hhits m' (List.mem_cons_of_mem m hm'))
      (fun c hc => hplain c (hs ▸ List.mem_append_right _ hc))
    rw [r.replace_of_read f h, List.flatMap_append, hhits m (by simp), hrest, hs]
  | plain c s h ih =>
    rw [r.hits_cons h] at hhits
    have hrest := ih hhits fun d hd => hplain d (List.mem_cons_of_mem c hd)
    rw [r.replace_cons f h, List.flatMap_cons, hplain c (by simp), hrest, List.singleton_append]

/-- The map writes each character as one or more, and hits keep their places: those of the new
text are the old ones, changed by `φ`. -/
structure Follows (k : Char → Text) (φ : μ → μ) : Prop where
  read_flatMap : ∀ s, r.read (s.flatMap k) = (r.read s).map fun x => (φ x.1, x.2.flatMap k)
  read_within : ∀ c s, r.read (c :: s) = none →
    ∀ p q, p ++ q = k c → q ≠ [] → r.read (q ++ s.flatMap k) = none

variable {r} {k : Char → Text} {φ : μ → μ}

theorem Follows.replace_flatMap (h : r.Follows k φ) {f g : μ → Text}
    (hfg : ∀ m, f (φ m) = (g m).flatMap k) (s : Text) :
    r.replace f (s.flatMap k) = (r.replace g s).flatMap k := by
  induction s using r.scan_induction with
  | nil => simp
  | hit s m rest hr ih =>
    have hk : r.read (s.flatMap k) = some (φ m, rest.flatMap k) := by
      rw [h.read_flatMap, hr, Option.map_some]
    rw [r.replace_of_read f hk, r.replace_of_read g hr, List.flatMap_append, hfg, ih]
  | plain c s hr ih =>
    rw [List.flatMap_cons, r.replace_append f (h.read_within c s hr), r.replace_cons g hr,
      List.flatMap_cons, ih]

theorem Follows.hits_flatMap (h : r.Follows k φ) (s : Text) :
    r.hits (s.flatMap k) = (r.hits s).map φ := by
  induction s using r.scan_induction with
  | nil => simp
  | hit s m rest hr ih =>
    have hk : r.read (s.flatMap k) = some (φ m, rest.flatMap k) := by
      rw [h.read_flatMap, hr, Option.map_some]
    rw [r.hits_of_read hk, r.hits_of_read hr, List.map_cons, ih]
  | plain c s hr ih =>
    rw [List.flatMap_cons, r.hits_append (h.read_within c s hr), r.hits_cons hr, ih]

end QueryBridge.Text.Recognizer
