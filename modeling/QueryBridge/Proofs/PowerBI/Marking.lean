import QueryBridge.PowerBI.Mark
import QueryBridge.Proofs.Text.Scanning
import QueryBridge.Proofs.Text.Search

/-!
Texts in which some characters are written as marks. Each pass over the marks of one kind turns
these back and leaves the other kinds alone, so the passes together restore the text, provided that
no mark stood in it to begin with.
-/

namespace QueryBridge.PowerBI
open Text

def marks : List (Char × Text) :=
  [('\n', lineFeedMark), ('\r', carriageReturnMark), ('\t', tabMark)]

/-- The second text is the first with some characters written as marks, in any letter case. -/
inductive Marked (ms : List (Char × Text)) : Text → Text → Prop
  | nil : Marked ms [] []
  | plain (c : Char) {t u : Text} : Marked ms t u → Marked ms (c :: t) (c :: u)
  | mark {c : Char} {m w t u : Text} : (c, m) ∈ ms → w.map fold = m.map fold → Marked ms t u →
      Marked ms (c :: t) (w ++ u)

def Unmarked (t : Text) : Prop :=
  ∀ x ∈ marks, withinCaseless x.2 t = false

instance (t : Text) : Decidable (Unmarked t) :=
  List.decidableBAll (fun x : Char × Text => withinCaseless x.2 t = false) marks

structure MarkShape (m : Text) : Prop where
  head : (m.map fold).head? = some '#'
  tail : '#' ∉ (m.map fold).tail

instance (m : Text) : Decidable (MarkShape m) :=
  decidable_of_iff ((m.map fold).head? = some '#' ∧ '#' ∉ (m.map fold).tail)
    ⟨fun h => ⟨h.1, h.2⟩, fun h => ⟨h.head, h.tail⟩⟩

def Apart (m m' : Text) : Prop :=
  ¬m.map fold <+: m'.map fold ∧ ¬m'.map fold <+: m.map fold

instance (m m' : Text) : Decidable (Apart m m') :=
  inferInstanceAs (Decidable (_ ∧ _))

theorem MarkShape.exists_cons {m w : Text} (h : MarkShape m) (hw : w.map fold = m.map fold) :
    ∃ d r, w = d :: r ∧ fold d = '#' ∧ ∀ c ∈ r, fold c ≠ '#' := by
  have hhead := h.head
  have htail := h.tail
  rw [← hw] at hhead htail
  cases w with
  | nil => simp at hhead
  | cons d r =>
    refine ⟨d, r, rfl, by simpa using hhead, fun c hc hfold => htail ?_⟩
    rw [List.map_cons, List.tail_cons, ← hfold]
    exact List.mem_map_of_mem hc

theorem Marked.eq_of_nil {t u : Text} (h : Marked [] t u) : u = t := by
  induction h with
  | nil => rfl
  | plain c _ ih => rw [ih]
  | mark hmem => simp at hmem

theorem Marked.refl (ms : List (Char × Text)) : ∀ t, Marked ms t t
  | [] => .nil
  | c :: t => .plain c (refl ms t)

theorem Marked.append {ms : List (Char × Text)} {t u t' u' : Text} (h : Marked ms t u)
    (h' : Marked ms t' u') : Marked ms (t ++ t') (u ++ u') := by
  induction h with
  | nil => exact h'
  | plain c _ ih => exact .plain c ih
  | mark hmem hw _ ih =>
    rw [List.append_assoc]
    exact .mark hmem hw ih

theorem Marked.not_mem {ms : List (Char × Text)} {x : Char} (hx : ∀ y ∈ ms, fold x ∉ y.2.map fold)
    {t u : Text} (h : Marked ms t u) (ht : x ∉ t) : x ∉ u := by
  induction h with
  | nil => exact ht
  | plain c _ ih =>
    simp only [List.mem_cons, not_or] at ht ⊢
    exact ⟨ht.1, ih ht.2⟩
  | mark hmem hw _ ih =>
    simp only [List.mem_cons, List.mem_append, not_or] at ht ⊢
    refine ⟨fun h => hx _ hmem ?_, ih ht.2⟩
    rw [← hw]
    exact List.mem_map_of_mem h

theorem Marked.head?_any_isWord {ms : List (Char × Text)} (hms : ∀ x ∈ ms, MarkShape x.2)
    {t u : Text} (h : Marked ms t u) (ht : t.head?.any isWord = false) :
    u.head?.any isWord = false := by
  cases h with
  | nil => rfl
  | plain c h => exact ht
  | mark hmem hw h =>
    obtain ⟨d, r, rfl, hd, -⟩ := (hms _ hmem).exists_cons hw
    by_cases hsign : d = '#'
    · subst hsign
      rfl
    · exact absurd hd (fold_ne rfl hsign)

theorem marked_markBreaks (t : Text) : Marked marks t (markBreaks t) := by
  induction t with
  | nil => exact .nil
  | cons c t ih =>
    rw [markBreaks, List.flatMap_cons]
    split
    · next h =>
      subst h
      exact .mark (m := lineFeedMark) (by simp [marks]) rfl ih
    · split
      · next h =>
        subst h
        exact .mark (m := carriageReturnMark) (by simp [marks]) rfl ih
      · exact .plain c ih

theorem Marked.isPrefix_of_spelling {ms : List (Char × Text)}
    (hms : ∀ x ∈ ms, MarkShape x.2) {t u w v r : Text} (h : Marked ms t u)
    (hw : ∀ c ∈ w, fold c ≠ '#') (hs : spelling? w u = some (v, r)) : v <+: t := by
  induction w generalizing t u v with
  | nil =>
    simp only [spelling?, Option.some.injEq, Prod.mk.injEq] at hs
    rw [← hs.1]
    exact List.nil_prefix
  | cons l w ih =>
    cases h with
    | nil => simp [spelling?] at hs
    | plain c h =>
      simp only [spelling?] at hs
      split at hs
      · obtain ⟨⟨v', r'⟩, hv, he⟩ := Option.map_eq_some_iff.1 hs
        simp only [Prod.mk.injEq] at he
        obtain ⟨rfl, rfl⟩ := he
        have := ih h (fun c hc => hw c (List.mem_cons_of_mem l hc)) hv
        exact List.cons_prefix_cons.2 ⟨rfl, this⟩
      · simp at hs
    | mark hmem hfold h =>
      obtain ⟨d, r', rfl, hd, -⟩ := (hms _ hmem).exists_cons hfold
      have hl : fold d ≠ fold l := by
        rw [hd]
        exact (hw l (by simp)).symm
      simp [spelling?, hl] at hs

theorem Marked.spelling?_plain {ms : List (Char × Text)} (hms : ∀ x ∈ ms, MarkShape x.2)
    {m t u : Text} {c : Char} (hm : MarkShape m) (h : Marked ms t u)
    (hfree : withinCaseless m (c :: t) = false) : spelling? m (c :: u) = none := by
  obtain ⟨l, b, rfl, -, hb⟩ := hm.exists_cons rfl
  cases hs : spelling? (l :: b) (c :: u) with
  | none => rfl
  | some x =>
    obtain ⟨v, r⟩ := x
    have hv := (spelling?_eq_some hs).2
    simp only [spelling?] at hs
    split at hs
    · obtain ⟨⟨v', r'⟩, hv', he⟩ := Option.map_eq_some_iff.1 hs
      simp only [Prod.mk.injEq] at he
      obtain ⟨rfl, rfl⟩ := he
      have hprefix := h.isPrefix_of_spelling hms hb hv'
      have hinfix : c :: v' <:+: c :: t := (List.cons_prefix_cons.2 ⟨rfl, hprefix⟩).isInfix
      rw [withinCaseless_iff.2 ⟨_, hv, hinfix⟩] at hfree
      simp at hfree
    · simp at hs

theorem spelling?_within_mark {m m' w u : Text} (hm : MarkShape m) (hm' : MarkShape m')
    (happart : Apart m m') (hw : w.map fold = m'.map fold) (p q : Text) (hpq : p ++ q = w)
    (hq : q ≠ []) : spelling? m (q ++ u) = none := by
  cases hs : spelling? m (q ++ u) with
  | none => rfl
  | some x =>
    obtain ⟨v, r⟩ := x
    obtain ⟨happ, hfold⟩ := spelling?_eq_some hs
    obtain ⟨d, v, rfl, hd, -⟩ := hm.exists_cons hfold
    cases p with
    | nil =>
      obtain rfl : q = w := hpq
      have hmap : m.map fold ++ r.map fold = m'.map fold ++ u.map fold := by
        rw [← hfold, ← hw, ← List.map_append, ← List.map_append, happ]
      have hl : m.map fold <+: m'.map fold ++ u.map fold := ⟨_, hmap⟩
      obtain h | h := List.prefix_or_prefix_of_prefix hl (List.prefix_append _ _)
      · exact absurd h happart.1
      · exact absurd h happart.2
    | cons e p =>
      obtain ⟨d', w', rfl, -, hrest⟩ := hm'.exists_cons hw
      obtain ⟨c, q, rfl⟩ := List.exists_cons_of_ne_nil hq
      simp only [List.cons_append, List.cons.injEq] at happ hpq
      exact absurd (happ.1 ▸ hd) (hrest c (by simp [← hpq.2]))

theorem Marked.replace {ms : List (Char × Text)} {c : Char} {m t u : Text}
    (h : Marked ((c, m) :: ms) t u) (hne : m ≠ []) (hm : MarkShape m)
    (hms : ∀ x ∈ ms, MarkShape x.2 ∧ Apart m x.2) (hfree : withinCaseless m t = false) :
    Marked ms t ((Recognizer.caseless m hne).replace (fun _ => [c]) u) := by
  have hshape : ∀ x ∈ (c, m) :: ms, MarkShape x.2 := by
    intro x hx
    obtain rfl | hx := List.mem_cons.1 hx
    · exact hm
    · exact (hms x hx).1
  induction h with
  | nil =>
    rw [Recognizer.replace_nil]
    exact .nil
  | plain d h ih =>
    have hrest := withinCaseless_of_cons hfree
    rw [Recognizer.replace_cons _ _ (h.spelling?_plain hshape hm hfree)]
    exact .plain d (ih hrest)
  | mark hmem hw h ih =>
    have hrest := withinCaseless_of_cons hfree
    obtain he | hmem := List.mem_cons.1 hmem
    · simp only [Prod.mk.injEq] at he
      obtain ⟨rfl, rfl⟩ := he
      rw [Recognizer.replace_of_read _ _ (spelling?_append hw _)]
      exact .plain _ (ih hrest)
    · obtain ⟨hm', happart⟩ := hms _ hmem
      rw [Recognizer.replace_append _ _ (spelling?_within_mark hm hm' happart hw)]
      exact .mark hmem hw (ih hrest)

theorem markShape_of_mem : ∀ x ∈ marks, MarkShape x.2 := by
  decide

theorem Marked.ne_nil {ms : List (Char × Text)} (hms : ∀ x ∈ ms, MarkShape x.2) {t u : Text}
    (h : Marked ms t u) (ht : t ≠ []) : u ≠ [] := by
  cases h with
  | nil => exact ht
  | plain c h => simp
  | mark hmem hw h =>
    obtain ⟨d, r, rfl, -⟩ := (hms _ hmem).exists_cons hw
    simp

theorem Unmarked.append_cons {a b : Text} {x : Char} (ha : Unmarked a)
    (hx : ∀ y ∈ marks, fold x ∉ y.2.map fold) (hb : Unmarked (x :: b)) : Unmarked (a ++ x :: b) :=
  fun y hy => withinCaseless_append_cons (hx y hy) (ha y hy) (withinCaseless_of_cons (hb y hy))

theorem Unmarked.append {a b : Text} (hb : Unmarked b) (ha : '#' ∉ a) : Unmarked (a ++ b) := by
  intro y hy
  refine withinCaseless_append (markShape_of_mem y hy).head (fun c hc => fold_ne rfl ?_) (hb y hy)
  rintro rfl
  exact ha hc

/-- Marks in any letter case are turned back into what they stand for. -/
theorem unmark_of_marked {t u : Text} (h : Marked marks t u) (ht : Unmarked t) : unmark u = t := by
  have hlfcr : Apart lineFeedMark carriageReturnMark := by decide
  have hlftab : Apart lineFeedMark tabMark := by decide
  have hcrtab : Apart carriageReturnMark tabMark := by decide
  have hlf : MarkShape lineFeedMark := by decide
  have hcr : MarkShape carriageReturnMark := by decide
  have htab : MarkShape tabMark := by decide
  have h₁ := h.replace (by decide) hlf (by simpa using ⟨⟨hcr, hlfcr⟩, htab, hlftab⟩)
    (ht ('\n', lineFeedMark) (by simp [marks]))
  have h₂ := h₁.replace (by decide) hcr (by simpa using ⟨htab, hcrtab⟩)
    (ht ('\r', carriageReturnMark) (by simp [marks]))
  have h₃ := h₂.replace (by decide) htab (by simp) (ht ('\t', tabMark) (by simp [marks]))
  exact h₃.eq_of_nil

end QueryBridge.PowerBI
