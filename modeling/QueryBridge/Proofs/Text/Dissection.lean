import QueryBridge.Proofs.Text.Scanning

/-!
A text taken apart by a scan: its hits, each with the stretch that was passed before it, and the
rest behind the last one. Main statement: every text can be taken apart, and whatever the hits are
rendered as, the stretches and the rest stay as they are.
-/

namespace QueryBridge.Text

structure Dissection (μ : Type) where
  parts : List (Text × μ)
  rest : Text

namespace Dissection

variable {μ : Type}

def hits (d : Dissection μ) : List μ :=
  d.parts.map Prod.snd

def render (f : μ → Text) (d : Dissection μ) : Text :=
  d.parts.flatMap (fun part => part.1 ++ f part.2) ++ d.rest

@[simp] theorem hits_nil (rest : Text) : hits (⟨[], rest⟩ : Dissection μ) = [] :=
  rfl

@[simp] theorem hits_cons (t : Text) (m : μ) (parts : List (Text × μ)) (rest : Text) :
    hits ⟨(t, m) :: parts, rest⟩ = m :: hits ⟨parts, rest⟩ :=
  rfl

@[simp] theorem render_nil (f : μ → Text) (rest : Text) : render f ⟨[], rest⟩ = rest :=
  rfl

@[simp] theorem render_cons (f : μ → Text) (t : Text) (m : μ) (parts : List (Text × μ))
    (rest : Text) :
    render f ⟨(t, m) :: parts, rest⟩ = t ++ (f m ++ render f ⟨parts, rest⟩) := by
  simp [render]

theorem mem_hits_of_eq {d : Dissection μ} {front back : List (Text × μ)} {t : Text} {m : μ}
    (h : d.parts = front ++ (t, m) :: back) : m ∈ d.hits := by
  simp [hits, h]

theorem render_sublist {f g : μ → Text} (h : ∀ m, (f m).Sublist (g m)) (d : Dissection μ) :
    (d.render f).Sublist (d.render g) := by
  obtain ⟨parts, rest⟩ := d
  induction parts with
  | nil => exact List.Sublist.refl rest
  | cons part parts ih =>
    obtain ⟨t, m⟩ := part
    rw [render_cons, render_cons]
    exact (List.Sublist.refl t).append ((h m).append ih)

theorem count_render (f : μ → Text) (d : Dissection μ) (x : Char) :
    (d.render f).count x = (d.render fun _ => []).count x + (d.hits.flatMap f).count x := by
  obtain ⟨parts, rest⟩ := d
  induction parts with
  | nil => simp
  | cons part parts ih =>
    obtain ⟨t, m⟩ := part
    simp only [render_cons, hits_cons, List.count_append, List.flatMap_cons, List.nil_append, ih]
    omega

end Dissection

namespace Recognizer

variable {μ : Type} (r : Recognizer μ)

/-- No hit begins in `a` where `t` follows it. -/
def Passes (a t : Text) : Prop :=
  ∀ p q, p ++ q = a → q ≠ [] → r.read (q ++ t) = none

inductive Scan : Text → Dissection μ → Prop
  | rest {t : Text} (passed : r.Passes t []) : Scan t ⟨[], t⟩
  | hit {t s rest : Text} {m : μ} {parts : List (Text × μ)}
    (passed : r.Passes t (r.written m ++ s)) (read : r.read (r.written m ++ s) = some (m, s))
    (tail : Scan s ⟨parts, rest⟩) : Scan (t ++ (r.written m ++ s)) ⟨(t, m) :: parts, rest⟩

variable {r}

theorem passes_nil (t : Text) : r.Passes [] t := by
  intro p q hpq hq
  exact absurd (List.append_eq_nil_iff.1 hpq).2 hq

theorem Passes.cons {c : Char} {a t : Text} (hc : r.read (c :: (a ++ t)) = none)
    (h : r.Passes a t) : r.Passes (c :: a) t := by
  intro p q hpq hq
  cases p with
  | nil =>
    obtain rfl : q = c :: a := hpq
    exact hc
  | cons d p =>
    simp only [List.cons_append, List.cons.injEq] at hpq
    exact h p q hpq.2 hq

variable (r)

theorem exists_scan (s : Text) : ∃ d, r.Scan s d := by
  induction s using r.scan_induction with
  | nil => exact ⟨_, .rest (passes_nil [])⟩
  | hit s m rest h ih =>
    obtain ⟨d, hd⟩ := ih
    have hs := r.written_append h
    rw [← hs] at h ⊢
    exact ⟨_, .hit (t := []) (passes_nil _) h hd⟩
  | plain c s h ih =>
    obtain ⟨d, hd⟩ := ih
    cases hd with
    | rest passed => exact ⟨_, .rest (passed.cons (by rwa [List.append_nil]))⟩
    | hit passed read tail => exact ⟨_, .hit (passed.cons h) read tail⟩

namespace Scan

variable {r} {s : Text} {d : Dissection μ}

theorem replace_eq (h : r.Scan s d) (f : μ → Text) : r.replace f s = d.render f := by
  induction h with
  | @rest t passed =>
    have h := r.replace_append f passed
    rwa [List.append_nil, replace_nil, List.append_nil] at h
  | hit passed read _ ih =>
    rw [r.replace_append f passed, r.replace_of_read f read, ih, Dissection.render_cons]

theorem hits_eq (h : r.Scan s d) : r.hits s = d.hits := by
  induction h with
  | @rest t passed =>
    have h := r.hits_append passed
    rwa [List.append_nil, Recognizer.hits_nil] at h
  | hit passed read _ ih =>
    rw [r.hits_append passed, r.hits_of_read read, ih, Dissection.hits_cons]

theorem exists_read (h : r.Scan s d) {m : μ} (hm : m ∈ d.hits) :
    ∃ t u, r.read t = some (m, u) :=
  r.exists_read_of_mem_hits (h.hits_eq ▸ hm)

theorem render_written (h : r.Scan s d) : d.render r.written = s := by
  rw [← h.replace_eq, r.replace_written]

/-- At each hit the scan stood before what is left of the text. -/
theorem of_parts_eq (h : r.Scan s d) {front back : List (Text × μ)} {t : Text} {m : μ}
    (hparts : d.parts = front ++ (t, m) :: back) :
    ∃ u, r.Scan u ⟨back, d.rest⟩ ∧ r.Passes t (r.written m ++ u) ∧
      r.read (r.written m ++ u) = some (m, u) := by
  induction h generalizing front with
  | rest passed => simp at hparts
  | hit passed read tail ih =>
    cases front with
    | nil =>
      simp only [List.nil_append, List.cons.injEq, Prod.mk.injEq] at hparts
      obtain ⟨⟨rfl, rfl⟩, rfl⟩ := hparts
      exact ⟨_, tail, passed, read⟩
    | cons part front =>
      simp only [List.cons_append, List.cons.injEq] at hparts
      exact ih hparts.2

theorem passes_rest (h : r.Scan s d) : r.Passes d.rest [] := by
  induction h with
  | rest passed => exact passed
  | hit _ _ _ ih => exact ih

end Scan

end Recognizer

end QueryBridge.Text
