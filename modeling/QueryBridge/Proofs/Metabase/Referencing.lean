import Mathlib.Data.List.Basic
import QueryBridge.Metabase.OfPowerBI
import QueryBridge.Proofs.Text.Name
import QueryBridge.Proofs.Text.Scanning

/-!
The references of a text. A reference is read where one was written, no reference begins in a text
without at signs and ampersands, and a cast may as well be taken as text: it stays as it is.
-/

namespace QueryBridge.Metabase
open Text PowerBI

def castOf (cast : Option Name) : Text :=
  Reference.castText (cast.map Name.text)

theorem reference_read_of_ne {c : Char} (hat : c ≠ '@') (hquote : c ≠ '\'') (s : Text) :
    Reference.recognizer.read (c :: s) = none := by
  change Reference.read (c :: s) = none
  unfold Reference.read
  split
  · next h => exact absurd (List.cons.inj h).1 hat
  · next h => exact absurd (List.cons.inj h).1 hquote
  · rfl

theorem replaceReferences_append {a : Text} (h : List.Disjoint a ['@', '\'']) (rest : Text) :
    replaceReferences (a ++ rest) = a ++ replaceReferences rest := by
  refine Recognizer.replace_append _ _ (Recognizer.read_suffix _ fun c hc s => ?_)
  have hne : c ∉ ['@', '\''] := fun hb => h hc hb
  simp only [List.mem_cons, List.not_mem_nil, or_false, not_or] at hne
  exact reference_read_of_ne hne.1 hne.2 s

theorem word_disjoint (s : Text) : List.Disjoint (word s) ['@', '\''] :=
  disjoint_of_isWord (fun _ hc => List.mem_takeWhile_imp hc) (by decide)

theorem name_word (n : Name) : word n.text = n.text := by
  have h := n.word_append (t := []) rfl
  rwa [List.append_nil] at h

theorem castText_disjoint {cast : Option Text} (h : ∀ type ∈ cast, ∃ s, type = word s) :
    List.Disjoint (Reference.castText cast) ['@', '\''] := by
  cases cast with
  | none => exact List.disjoint_nil_left _
  | some type =>
    obtain ⟨s, rfl⟩ := h type rfl
    exact List.disjoint_cons_left.2 ⟨by decide, List.disjoint_cons_left.2
      ⟨by decide, word_disjoint s⟩⟩

theorem castOf_disjoint (cast : Option Name) : List.Disjoint (castOf cast) ['@', '\''] := by
  refine castText_disjoint fun type htype => ?_
  obtain ⟨n, -, rfl⟩ := Option.map_eq_some_iff.1 htype
  exact ⟨n.text, (name_word n).symm⟩

theorem eq_word_of_readName {s n t : Text} (h : Reference.readName s = some (n, t)) :
    n = word s := by
  unfold Reference.readName at h
  split at h
  · simp at h
  · simp only [Option.some.injEq, Prod.mk.injEq] at h
    exact h.1.symm

theorem readCast_word {s : Text} : ∀ type ∈ (Reference.readCast s).1, ∃ t, type = word t := by
  intro type htype
  unfold Reference.readCast at htype
  split at htype
  · next t =>
    cases hname : Reference.readName t with
    | none => simp [hname] at htype
    | some n =>
      have htype : n.1 = type := by simpa [hname] using htype
      exact ⟨t, htype ▸ eq_word_of_readName hname⟩
  · simp at htype

/-- Whether a cast is taken as one or left in the text makes no difference. -/
theorem castText_replaceReferences (s : Text) :
    Reference.castText (Reference.readCast s).1 ++ replaceReferences (Reference.readCast s).2 =
      replaceReferences s := by
  rw [← replaceReferences_append (castText_disjoint readCast_word), Reference.castText_readCast]

theorem readName_append {n : Name} {rest : Text} (h : rest.head?.any isWord = false) :
    Reference.readName (n.text ++ rest) = some (n.text, rest) := by
  rw [Reference.readName, n.word_append h, if_neg n.ne_nil, n.afterWord_append h]

theorem readAmpersand_append (l r : Blanks) {rest : Text} (h : rest.head?.any isBlank = false) :
    Reference.readAmpersand (l.text ++ '&' :: (r.text ++ rest)) =
      some ((l.text, r.text), rest) := by
  have hamp : ('&' :: (r.text ++ rest)).head?.any isBlank = false := rfl
  rw [Reference.readAmpersand, l.skip_append_of_head hamp, l.gap_append_of_head hamp]
  simp only [r.skip_append_of_head h, r.gap_append_of_head h]

theorem replaceReferences_named (n : Name) {rest : Text} (h : rest.head?.any isWord = false) :
    replaceReferences ('@' :: (n.text ++ rest)) =
      '{' :: '{' :: (n.text ++ '}' :: '}' :: replaceReferences rest) := by
  have hread : Reference.recognizer.read ('@' :: (n.text ++ rest)) =
      some (.named n.text (Reference.readCast rest).1, (Reference.readCast rest).2) := by
    change (Reference.readName (n.text ++ rest)).map _ = _
    rw [readName_append h, Option.map_some]
  have hreplace := Recognizer.replace_of_read _ tokenText hread
  rw [replaceReferences, hreplace, ← replaceReferences, tokenText, List.append_assoc,
    castText_replaceReferences]
  simp [Token.plain, Token.written]

/-- Between its two quotes from the literal a spliced name is whatever stands between ampersands. -/
theorem replaceReferences_spliced (l₁ l₂ : Blanks) (n : Name) (r₁ r₂ : Blanks) (rest : Text) :
    replaceReferences ('\'' :: '"' :: (l₁.text ++ '&' :: (l₂.text ++ (n.text ++
      (r₁.text ++ '&' :: (r₂.text ++ '"' :: '\'' :: rest)))))) =
        '\'' :: '{' :: '{' :: (n.text ++ '}' :: '}' :: '\'' :: replaceReferences rest) := by
  have hname : (r₁.text ++ '&' :: (r₂.text ++ '"' :: '\'' :: rest)).head?.any isWord = false := by
    cases hr : r₁.text with
    | nil => rfl
    | cons c t =>
      have hblank : isBlank c = true := r₁.isBlank_of_mem c (by simp [hr])
      cases hc : isWord c with
      | false => simpa using hc
      | true => simp [isBlank_of_isWord hc] at hblank
  have hread : Reference.recognizer.read ('\'' :: '"' :: (l₁.text ++ '&' :: (l₂.text ++ (n.text ++
      (r₁.text ++ '&' :: (r₂.text ++ '"' :: '\'' :: rest)))))) =
        some (.spliced l₁.text l₂.text n.text r₁.text r₂.text (Reference.readCast rest).1,
          (Reference.readCast rest).2) := by
    change Reference.readSpliced _ = _
    rw [Reference.readSpliced, readAmpersand_append l₁ l₂ (n.head_append _), Option.bind_some]
    dsimp only
    rw [readName_append hname, Option.bind_some]
    dsimp only
    rw [readAmpersand_append r₁ r₂ (by rfl), Option.bind_some]
    rfl
  have hreplace := Recognizer.replace_of_read _ tokenText hread
  rw [replaceReferences, hreplace, ← replaceReferences, tokenText, List.append_assoc,
    List.cons_append, List.cons_append, castText_replaceReferences]
  simp [Token.plain, Token.written]

theorem readAmpersand_eq_none {s : Text} (h : (skip s).head? ≠ some '&') :
    Reference.readAmpersand s = none := by
  unfold Reference.readAmpersand
  split
  · next hs => simp [hs] at h
  · rfl

theorem skip_append_head {q rest : Text} (hq : '&' ∉ q) (hrest : (skip rest).head? ≠ some '&') :
    (skip (q ++ rest)).head? ≠ some '&' := by
  induction q with
  | nil => exact hrest
  | cons c q ih =>
    have hc : c ≠ '&' := fun e => hq (by simp [e])
    have ih := ih fun h => hq (List.mem_cons_of_mem c h)
    by_cases hb : isBlank c
    · simpa [skip, hb] using ih
    · simpa [skip, hb] using hc

theorem readSpliced_eq_none {s : Text} (h : (skip s).head? ≠ some '&') :
    Reference.readSpliced s = none := by
  rw [Reference.readSpliced, readAmpersand_eq_none h, Option.bind_none]

theorem skip_head_of_opening {rest : Text} (hrest : ∀ c ∈ rest.head?, c = '@' ∨ c = '\'') :
    (skip rest).head? ≠ some '&' := by
  cases rest with
  | nil => simp [skip]
  | cons c rest =>
    cases hrest c rfl with
    | inl h => simp [skip, h, show isBlank '@' = false from rfl]
    | inr h => simp [skip, h, show isBlank '\'' = false from rfl]

theorem reference_read_text {q rest : Text} (hq : List.Disjoint q ['@', '&']) (hne : q ≠ [])
    (hrest : ∀ c ∈ rest.head?, c = '@' ∨ c = '\'') :
    Reference.recognizer.read (q ++ rest) = none := by
  obtain ⟨c, q, rfl⟩ := List.exists_cons_of_ne_nil hne
  have hat : c ≠ '@' := fun e => hq List.mem_cons_self (by simp [e])
  have hamp : '&' ∉ q := fun h => hq (List.mem_cons_of_mem c h) (by simp)
  by_cases hc : c = '\''
  · subst hc
    change Reference.read ('\'' :: (q ++ rest)) = none
    unfold Reference.read
    split
    · next hs => exact absurd (List.cons.inj hs).1 (by decide)
    · next s hs =>
      have hs := (List.cons.inj hs).2
      refine readSpliced_eq_none ?_
      cases q with
      | nil =>
        have := hrest '"' (by simp [show rest = '"' :: s from hs])
        simp at this
      | cons d q =>
        obtain rfl : q ++ rest = s := (List.cons.inj hs).2
        have hq : '&' ∉ q := fun h => hamp (List.mem_cons_of_mem d h)
        exact skip_append_head hq (skip_head_of_opening hrest)
    · rfl
  · exact reference_read_of_ne hat hc _

theorem replaceReferences_text {a rest : Text} (ha : List.Disjoint a ['@', '&'])
    (hrest : ∀ c ∈ rest.head?, c = '@' ∨ c = '\'') :
    replaceReferences (a ++ rest) = a ++ replaceReferences rest := by
  refine Recognizer.replace_append _ _ fun p q hpq hq => ?_
  have hdisjoint : List.Disjoint q ['@', '&'] :=
    List.disjoint_of_disjoint_append_left_right (hpq ▸ ha)
  exact reference_read_text hdisjoint hq hrest

end QueryBridge.Metabase
