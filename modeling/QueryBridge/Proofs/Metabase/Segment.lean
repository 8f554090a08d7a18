import Mathlib.Data.List.Basic
import QueryBridge.Proofs.PowerBI.Drafting

/-!
Queries put together from stretches of text and parameter tokens. A scan finds exactly the tokens
that were put there, so replacing them acts on one segment at a time.
-/

namespace QueryBridge.Metabase
open Text

inductive Segment where
  | text (t : Text)
  | token (before : Blanks) (name : Name) (after : Blanks)

namespace Segment

def written : Segment → Text
  | text t => t
  | token before name after =>
    '{' :: '{' :: (before.text ++ (name.text ++ (after.text ++ ['}', '}'])))

def referenced : Segment → Text
  | text t => t
  | token _ name _ => '@' :: name.text

def names : Segment → List Text
  | text _ => []
  | token _ name _ => [name.text]

def Lacks (banned : List Char) : Segment → Prop
  | text t => List.Disjoint t banned
  | token _ _ _ => True

instance (banned : List Char) : (g : Segment) → Decidable (g.Lacks banned)
  | text t => inferInstanceAs (Decidable (List.Disjoint t banned))
  | token _ _ _ => isTrue trivial

theorem Lacks.mono {few many : List Char} (h : few ⊆ many) {g : Segment} (hg : g.Lacks many) :
    g.Lacks few := by
  cases g with
  | text t => exact List.disjoint_of_subset_right h hg
  | token => trivial

theorem not_mem_of_lacks {c : Char} {t : Text} (h : (text t).Lacks [c]) : c ∉ t := by
  intro hc
  exact h hc (by simp)

theorem not_mem_written {c : Char} (hblank : isBlank c = false) (hword : isWord c = false)
    (hopen : c ≠ '{') (hclose : c ≠ '}') {g : Segment} (h : g.Lacks [c]) : c ∉ g.written := by
  cases g with
  | text t => exact not_mem_of_lacks h
  | token before name after =>
    have hb := before.not_mem hblank
    have hn := name.not_mem hword
    have ha := after.not_mem hblank
    simp [written, hopen, hclose, hb, hn, ha]

end Segment

theorem closing?_append (b g : Blanks) (rest : Text) :
    Token.closing? (b.text ++ '}' :: (g.text ++ '}' :: rest)) = some ((b.text, g.text), rest) := by
  have hhead : ('}' :: (g.text ++ '}' :: rest)).head?.any isBlank = false := rfl
  rw [Token.closing?, b.skip_append_of_head hhead, b.gap_append_of_head hhead,
    pair?_append rfl g rest, Option.map_some]

theorem closing?_of_isWord {c : Char} (h : isWord c = true) (s : Text) :
    Token.closing? (c :: s) = none := by
  have hhead : (c :: s).head?.any isBlank = false := by simpa using isBlank_of_isWord h
  have hc : c ≠ '}' := by
    rintro rfl
    exact absurd h (by decide)
  rw [Token.closing?, skip_of_head hhead, pair?_of_ne hc, Option.map_none]

theorem cut_name (name : Name) (after : Blanks) (rest : Text) :
    cut (· ≠ '\n') Token.closing? (name.text ++ (after.text ++ '}' :: '}' :: rest)) =
      some (name.text, (after.text, []), rest) := by
  refine cut_eq_some_iff.2
    ⟨_, rfl, closing?_append after Blanks.none rest, fun c hc => ?_, fun p q hpq hq => ?_⟩
  · have hword := name.isWord_of_mem c hc
    have hne : c ≠ '\n' := by
      rintro rfl
      exact absurd hword (by decide)
    simpa using hne
  · obtain ⟨c, q, rfl⟩ := List.exists_cons_of_ne_nil hq
    exact closing?_of_isWord (name.isWord_of_mem c (by simp [← hpq])) _

theorem token_read_written (before : Blanks) (name : Name) (after : Blanks) (rest : Text) :
    Token.recognizer.read ((Segment.token before name after).written ++ rest) =
      some (⟨[], before.text, name.text, after.text, []⟩, rest) := by
  have hopen := pair?_append (d := '{') rfl Blanks.none
    (before.text ++ (name.text ++ (after.text ++ '}' :: '}' :: rest)))
  have hhead := name.head_append (after.text ++ '}' :: '}' :: rest)
  have hwritten : (Segment.token before name after).written ++ rest =
      '{' :: '{' :: (before.text ++ (name.text ++ (after.text ++ '}' :: '}' :: rest))) := by
    simp [Segment.written]
  simp only [Blanks.none, List.nil_append] at hopen
  have hread (s : Text) : Token.recognizer.read s = Token.read s := rfl
  rw [hwritten, hread, Token.read, hopen, Option.bind_some]
  dsimp only
  rw [before.skip_append_of_head hhead, before.gap_append_of_head hhead, cut_name, Option.map_some]

theorem token_read_of_lacks {t : Text} (h : (Segment.text t).Lacks ['{']) :
    ∀ c ∈ t, ∀ s, Token.recognizer.read (c :: s) = none := by
  intro c hc s
  refine PowerBI.token_read_of_ne ?_
  rintro rfl
  exact Segment.not_mem_of_lacks h hc

/-- Where the text has no opening brace the tokens are those that were put there. -/
theorem replace_segments {gs : List Segment} (h : ∀ g ∈ gs, g.Lacks ['{']) :
    PowerBI.replaceTokens (gs.flatMap Segment.written) = gs.flatMap Segment.referenced := by
  unfold PowerBI.replaceTokens
  induction gs with
  | nil => simp
  | cons g gs ih =>
    have ih := ih fun g' hg => h g' (List.mem_cons_of_mem g hg)
    rw [List.flatMap_cons, List.flatMap_cons]
    cases g with
    | text t =>
      have ht := token_read_of_lacks (h (.text t) (by simp))
      rw [Segment.written, Recognizer.replace_append _ _ (Recognizer.read_suffix _ ht), ih,
        Segment.referenced]
    | token before name after =>
      rw [Recognizer.replace_of_read _ _ (token_read_written before name after _), ih,
        Segment.referenced]

theorem tokenNames_segments {gs : List Segment} (h : ∀ g ∈ gs, g.Lacks ['{']) :
    tokenNames (gs.flatMap Segment.written) = gs.flatMap Segment.names := by
  unfold tokenNames
  induction gs with
  | nil => simp
  | cons g gs ih =>
    have ih := ih fun g' hg => h g' (List.mem_cons_of_mem g hg)
    rw [List.flatMap_cons, List.flatMap_cons]
    cases g with
    | text t =>
      have ht := token_read_of_lacks (h (.text t) (by simp))
      rw [Segment.written, Recognizer.hits_append _ (Recognizer.read_suffix _ ht), ih,
        Segment.names, List.nil_append]
    | token before name after =>
      rw [Recognizer.hits_of_read _ (token_read_written before name after _), List.map_cons, ih]
      rfl

end QueryBridge.Metabase
