import QueryBridge.Proofs.Metabase.Fragment
import QueryBridge.Proofs.PowerBI.Spelling

/-!
Translated segments as the fragments of a body. What is read back are the segments with plain
tokens.
-/

namespace QueryBridge.Metabase
open Text PowerBI

def Segment.fragment : Segment → Fragment
  | text t => .text t (markBreaks t) (marked_markBreaks t)
  | token _ name _ => .named name none

theorem escape_markBreaks {s : Settings} (hbreaks : s.markBreaks = true) {t : Text}
    (ht : TabsStay s t) : escape (markBreaks t) = spelled s t := by
  have hchar : ∀ c ∈ t, escape (if c = '\n' then lineFeedMark
      else if c = '\r' then carriageReturnMark else [c]) = spellChar s c := by
    intro c hc
    have htab : ¬(c = '\t' ∧ s.useSpaces = true) := by
      rintro ⟨rfl, hspaces⟩
      simp [ht hc] at hspaces
    by_cases hq : c = '"'
    · subst hq
      rfl
    · by_cases hn : c = '\n'
      · subst hn
        simp only [spellChar, hbreaks, if_true]
        rfl
      · by_cases hr : c = '\r'
        · subst hr
          simp only [spellChar, hbreaks, if_true]
          rfl
        · simp [spellChar, hq, hn, hr, htab, escape, escapeChar]
  rw [escape, markBreaks, List.flatMap_assoc]
  exact List.flatMap_congr hchar

theorem fragments_written {s : Settings} (htokens : s.replaceTokens = true)
    (hbreaks : s.markBreaks = true) {gs : List Segment}
    (hgs : ∀ t, .text t ∈ gs → TabsStay s t) :
    (gs.map Segment.fragment).flatMap Fragment.written = gs.flatMap (Segment.translated s) := by
  rw [List.flatMap_map]
  refine List.flatMap_congr fun g hg => ?_
  cases g with
  | text t => exact escape_markBreaks hbreaks (hgs t hg)
  | token before name after =>
    simp [Segment.fragment, Fragment.written, Segment.translated, htokens, castOf,
      Reference.castText]

theorem fragments_meaning (gs : List Segment) :
    (gs.map Segment.fragment).flatMap Fragment.meaning =
      (gs.map Segment.plain).flatMap Segment.written := by
  rw [List.flatMap_map, List.flatMap_map]
  refine List.flatMap_congr fun g _ => ?_
  cases g with
  | text t => rfl
  | token before name after =>
    simp [Segment.fragment, Fragment.meaning, Segment.plain, Segment.written, Blanks.none, castOf,
      Reference.castText]

/-- No name is followed by a word character. -/
def NamesEnd (gs : List Segment) : Prop :=
  ∀ before name after rest, .token before name after :: rest <:+ gs →
    (rest.flatMap Segment.written).head?.any isWord = false

theorem exists_of_suffix_map {α β : Type} {f : α → β} {b : β} {rest : List β} {l : List α}
    (h : b :: rest <:+ l.map f) : ∃ a l', a :: l' <:+ l ∧ f a = b ∧ l'.map f = rest := by
  obtain ⟨p, hp⟩ := h
  obtain ⟨l₁, l₂, rfl, -, h₂⟩ := List.append_eq_map_iff.1 hp
  obtain ⟨a, l', rfl, ha, hl'⟩ := List.map_eq_cons_iff.1 h₂
  exact ⟨a, l', List.suffix_append l₁ _, ha, hl'⟩

theorem head?_plain (gs : List Segment) :
    ((gs.map Segment.plain).flatMap Segment.written).head? =
      (gs.flatMap Segment.written).head? := by
  induction gs with
  | nil => rfl
  | cons g gs ih =>
    cases g with
    | text t => simp [Segment.plain, Segment.written, List.head?_append, ih]
    | token before name after => rfl

theorem NamesEnd.plain {gs : List Segment} (h : NamesEnd gs) : NamesEnd (gs.map Segment.plain) := by
  intro before name after rest hrest
  obtain ⟨g, gs', hgs, hg, rfl⟩ := exists_of_suffix_map hrest
  rw [head?_plain]
  cases g with
  | text t => simp [Segment.plain] at hg
  | token before' name' after' => exact h before' name' after' gs' hgs

theorem head?_fragments {gs : List Segment}
    (h : (gs.flatMap Segment.written).head?.any isWord = false) :
    ((gs.map Segment.fragment).flatMap Fragment.unescaped).head?.any isWord = false := by
  induction gs with
  | nil => rfl
  | cons g gs ih =>
    rw [List.map_cons, List.flatMap_cons]
    cases g with
    | text t =>
      have hmarked := marked_markBreaks t
      cases t with
      | nil => exact ih h
      | cons c t =>
        have hne := hmarked.ne_nil markShape_of_mem (by simp)
        have hhead := hmarked.head?_any_isWord markShape_of_mem h
        obtain ⟨d, u, hu⟩ := List.exists_cons_of_ne_nil hne
        rw [Segment.fragment, Fragment.unescaped, hu]
        rwa [hu] at hhead
    | token before name after => rfl

theorem NamesEnd.separated {gs : List Segment} (h : NamesEnd gs) :
    Separated (gs.map Segment.fragment) := by
  intro name rest hrest
  obtain ⟨g, gs', hgs, hg, rfl⟩ := exists_of_suffix_map hrest
  cases g with
  | text t => simp [Segment.fragment] at hg
  | token before name' after => exact head?_fragments (h before name' after gs' hgs)

end QueryBridge.Metabase
