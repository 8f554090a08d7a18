import QueryBridge.Proofs.Metabase.Segment
import QueryBridge.Proofs.Text.Search

/-!
Where a word stands in a query: in a stretch of text between two tokens or in the name of a token.
The blanks inside the tokens have no part in that.
-/

namespace QueryBridge.Metabase
open Text

def Segment.plain : Segment → Segment
  | text t => text t
  | token _ name _ => token Blanks.none name Blanks.none

/-- The texts between tokens and the names, where `a` is the text so far. -/
def stretches (a : Text) : List Segment → List Text
  | [] => [a]
  | .text t :: gs => stretches (a ++ t) gs
  | .token _ name _ :: gs => a :: name.text :: stretches [] gs

theorem stretches_plain (a : Text) (gs : List Segment) :
    stretches a (gs.map Segment.plain) = stretches a gs := by
  induction gs generalizing a with
  | nil => rfl
  | cons g gs ih =>
    cases g with
    | text t => exact ih (a ++ t)
    | token before name after => simp [stretches, Segment.plain, ih]

/-- A word that runs neither across braces nor into blanks at its ends. -/
structure Compact (v : Text) : Prop where
  opening : '{' ∉ v
  closing : '}' ∉ v
  head : v.head?.any isBlank = false
  last : v.getLast?.any isBlank = false

instance (v : Text) : Decidable (Compact v) :=
  decidable_of_iff ('{' ∉ v ∧ '}' ∉ v ∧ v.head?.any isBlank = false ∧
      v.getLast?.any isBlank = false)
    ⟨fun h => ⟨h.1, h.2.1, h.2.2.1, h.2.2.2⟩, fun h => ⟨h.opening, h.closing, h.head, h.last⟩⟩

theorem Compact.of_fold_eq {v w : Text} (hw : Compact w) (h : v.map fold = w.map fold) :
    Compact v := by
  have hmem {x : Char} (hx : isWord x = false) {t : Text} : x ∈ t.map fold ↔ x ∈ t := by
    refine ⟨fun hm => ?_, fun hm => ?_⟩
    · obtain ⟨c, hc, he⟩ := List.mem_map.1 hm
      by_cases hcx : c = x
      · exact hcx ▸ hc
      · exact absurd he (fold_ne hx hcx)
    · cases fold_eq_self_or_isWord x with
      | inl he => exact he ▸ List.mem_map_of_mem hm
      | inr he => simp [hx] at he
  have hblank : ∀ o : Option Char, (o.map fold).any isBlank = o.any isBlank := by
    intro o
    cases o with
    | none => rfl
    | some c =>
      cases fold_eq_self_or_isWord c with
      | inl hc => simp [hc]
      | inr hc => simp [isBlank_of_isWord hc.1, isBlank_of_isWord hc.2]
  constructor
  · rw [← hmem rfl, h, hmem rfl]
    exact hw.opening
  · rw [← hmem rfl, h, hmem rfl]
    exact hw.closing
  · rw [← hblank, ← List.head?_map, h, List.head?_map, hblank]
    exact hw.head
  · rw [← hblank, ← List.getLast?_map, h, List.getLast?_map, hblank]
    exact hw.last

theorem Compact.isInfix_blanks_append {v : Text} (hv : Compact v) (b : Blanks) {t : Text} :
    v <:+: b.text ++ t ↔ v <:+: t := by
  refine ⟨fun h => ?_, fun h => h.trans (List.suffix_append b.text t).isInfix⟩
  cases v with
  | nil => exact List.nil_infix
  | cons c v =>
    have hc : isBlank c = false := by simpa using hv.head
    exact isInfix_of_cons_isInfix_append (b.not_mem hc) h

theorem Compact.isInfix_append_blanks {v : Text} (hv : Compact v) (b : Blanks) {t : Text} :
    v <:+: t ++ b.text ↔ v <:+: t := by
  refine ⟨fun h => ?_, fun h => h.trans (List.prefix_append t b.text).isInfix⟩
  obtain rfl | ⟨v, c, rfl⟩ := List.eq_nil_or_concat v
  · exact List.nil_infix
  · have hc : isBlank c = false := by simpa using hv.last
    rw [List.concat_eq_append] at h ⊢
    exact isInfix_of_isInfix_append (b.not_mem hc) h

theorem Compact.isInfix_token {v : Text} (hv : Compact v) (a : Text) (before : Blanks) (name : Name)
    (after : Blanks) (rest : Text) :
    v <:+: a ++ ((Segment.token before name after).written ++ rest) ↔
      v <:+: a ∨ v <:+: name.text ∨ v <:+: rest := by
  have hwritten : (Segment.token before name after).written ++ rest =
      '{' :: '{' :: ((before.text ++ (name.text ++ after.text)) ++ '}' :: '}' :: rest) := by
    simp [Segment.written]
  rw [hwritten, isInfix_append_cons_iff hv.opening, isInfix_cons_iff_of_not_mem hv.opening,
    isInfix_append_cons_iff hv.closing, isInfix_cons_iff_of_not_mem hv.closing,
    hv.isInfix_blanks_append, hv.isInfix_append_blanks]

theorem Compact.isInfix_segments {v : Text} (hv : Compact v) (a : Text) (gs : List Segment) :
    v <:+: a ++ gs.flatMap Segment.written ↔ ∃ t ∈ stretches a gs, v <:+: t := by
  induction gs generalizing a with
  | nil => simp [stretches]
  | cons g gs ih =>
    rw [List.flatMap_cons]
    cases g with
    | text t =>
      rw [Segment.written, ← List.append_assoc]
      exact ih (a ++ t)
    | token before name after =>
      have ih := ih []
      rw [List.nil_append] at ih
      rw [hv.isInfix_token, ih, stretches]
      simp

theorem Compact.isInfix_plain {v : Text} (hv : Compact v) (gs : List Segment) :
    v <:+: (gs.map Segment.plain).flatMap Segment.written ↔ v <:+: gs.flatMap Segment.written := by
  have hplain := hv.isInfix_segments [] (gs.map Segment.plain)
  have hwritten := hv.isInfix_segments [] gs
  rw [List.nil_append] at hplain hwritten
  rw [hplain, hwritten, stretches_plain]

theorem Compact.withinCaseless_plain {w : Text} (hw : Compact w) (gs : List Segment) :
    withinCaseless w ((gs.map Segment.plain).flatMap Segment.written) =
      withinCaseless w (gs.flatMap Segment.written) := by
  rw [Bool.eq_iff_iff, withinCaseless_iff, withinCaseless_iff]
  refine exists_congr fun v => and_congr_right fun hv => ?_
  exact (hw.of_fold_eq hv).isInfix_plain gs

theorem not_mem_stretches {x : Char} (hx : isWord x = false) {a : Text} {gs : List Segment}
    (ha : x ∉ a) (hgs : ∀ g ∈ gs, g.Lacks [x]) : ∀ t ∈ stretches a gs, x ∉ t := by
  induction gs generalizing a with
  | nil => simpa [stretches] using ha
  | cons g gs ih =>
    have hrest : ∀ g ∈ gs, g.Lacks [x] := fun g' hg => hgs g' (List.mem_cons_of_mem g hg)
    cases g with
    | text t =>
      have ht : x ∉ t := Segment.not_mem_of_lacks (hgs (.text t) (by simp))
      exact ih (by simp [ha, ht]) hrest
    | token before name after =>
      rw [stretches, List.forall_mem_cons, List.forall_mem_cons]
      exact ⟨ha, name.not_mem hx, ih List.not_mem_nil hrest⟩

end QueryBridge.Metabase
