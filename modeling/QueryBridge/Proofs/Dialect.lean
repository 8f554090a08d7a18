import Mathlib.Data.List.Forall2
import QueryBridge.Proofs.PowerBI.Recognition

/-!
What a text is taken for, told by the words and marks that stand somewhere in it. The verdict does
not depend on the case of letters, and where the marks of both dialects stand no text around them
helps.
-/

namespace QueryBridge

namespace Text

/-- The character is this letter of a word in either ASCII case; the long s is an s as well. -/
def Spells (c l : Char) : Prop :=
  c.toLower = l.toLower ∨ c = 'ſ' ∧ l.toLower = 's'

def Shows (w s : Text) : Prop :=
  ∃ v, List.Forall₂ Spells v w ∧ v <:+: s

def CaseVariant (s t : Text) : Prop :=
  s.map Char.toLower = t.map Char.toLower

theorem Shows.append {w s : Text} (h : Shows w s) (a b : Text) : Shows w (a ++ s ++ b) := by
  obtain ⟨v, hv, hs⟩ := h
  exact ⟨v, hv, hs.trans ⟨a, b, rfl⟩⟩

theorem CaseVariant.take {s t : Text} (h : CaseVariant s t) (n : Nat) :
    CaseVariant (s.take n) (t.take n) := by
  unfold CaseVariant at h ⊢
  rw [List.map_take, List.map_take, h]

theorem toLower_eq_iff {b : Char} (hb : b.isAlpha = false) {c : Char} :
    c.toLower = b ↔ c = b := by
  by_cases hc : 65 ≤ c.toNat ∧ c.toNat ≤ 90
  · have hletter : c.isAlpha = true ∧ c.toLower.isAlpha = true :=
      of_capital (p := fun c => c.isAlpha = true ∧ c.toLower.isAlpha = true) (by decide) hc
    have hne {d : Char} (hd : d.isAlpha = true) : d ≠ b := by
      rintro rfl
      exact absurd hd (by simp [hb])
    exact iff_of_false (hne hletter.2) (hne hletter.1)
  · rw [toLower_eq_self hc]

theorem fold_toLower (c : Char) : fold c.toLower = fold c := by
  have hlong : c.toLower = 'ſ' ↔ c = 'ſ' := toLower_eq_iff (by decide)
  have hkelvin : c.toLower = '\u212a' ↔ c = '\u212a' := toLower_eq_iff (by decide)
  simp only [fold, hlong, hkelvin, toLower_toLower]

/-- The letters that fold otherwise than by their case are the long s and the kelvin sign, so a
word without a k is spelled as it should be. -/
theorem fold_eq_iff_spells {l : Char} (hl : l.toLower ∉ ['k', 'ſ', '\u212a']) {c : Char} :
    fold c = fold l ↔ Spells c l := by
  simp only [List.mem_cons, List.not_mem_nil, or_false, not_or] at hl
  obtain ⟨hk, hlong, hkelvin⟩ := hl
  have hlower {d : Char} (hd : d.toLower = d) (h : l.toLower ≠ d) : l ≠ d ∧ d.toLower ≠ l.toLower :=
    ⟨fun hl => h (by rw [hl, hd]), fun hl => h (by rw [← hl, hd])⟩
  have hlong := hlower (by decide) hlong
  have hkelvin := hlower (by decide) hkelvin
  have hfold : fold l = l.toLower := by rw [fold, if_neg hlong.1, if_neg hkelvin.1]
  rw [hfold, Spells]
  by_cases h₁ : c = 'ſ'
  · subst h₁
    rw [or_iff_right hlong.2, and_iff_right rfl, eq_comm]
    rfl
  · by_cases h₂ : c = '\u212a'
    · subst h₂
      simp only [hkelvin.2, h₁, false_and, or_false, iff_false]
      exact Ne.symm hk
    · simp [fold, h₁, h₂]

theorem map_fold_eq_iff_spells {v w : Text} (hw : ∀ l ∈ w, l.toLower ∉ ['k', 'ſ', '\u212a']) :
    v.map fold = w.map fold ↔ List.Forall₂ Spells v w := by
  induction w generalizing v with
  | nil => simp
  | cons l w ih =>
    have hl := hw l List.mem_cons_self
    have hrest := fun l' h => hw l' (List.mem_cons_of_mem l h)
    cases v with
    | nil => simp
    | cons c v =>
      rw [List.map_cons, List.map_cons, List.cons.injEq, List.forall₂_cons, fold_eq_iff_spells hl,
        ih hrest]

theorem withinCaseless_iff_shows {w s : Text} (hw : ∀ l ∈ w, l.toLower ∉ ['k', 'ſ', '\u212a']) :
    withinCaseless w s = true ↔ Shows w s := by
  rw [withinCaseless_iff, Shows]
  exact exists_congr fun v => and_congr_left' (map_fold_eq_iff_spells hw)

theorem withinCaseless_map_toLower (w s : Text) :
    withinCaseless w (s.map Char.toLower) = withinCaseless w s := by
  have hfolded (t : Text) : withinCaseless w t = true ↔ w.map fold <:+: t.map fold := by
    rw [withinCaseless_iff, List.infix_map_iff]
    exact exists_congr fun v => by rw [eq_comm, and_comm]
  have hsame : (s.map Char.toLower).map fold = s.map fold := by
    rw [List.map_map]
    exact List.map_congr_left fun c _ => fold_toLower c
  rw [Bool.eq_iff_iff, hfolded, hfolded, hsame]

theorem within_map_toLower {v : Text} (hv : ∀ b ∈ v, b.isAlpha = false) (s : Text) :
    within v (s.map Char.toLower) = within v s := by
  have hsame {u : Text} : v = u.map Char.toLower ↔ v = u := by
    induction v generalizing u with
    | nil => simp [eq_comm]
    | cons b v ih =>
      cases u with
      | nil => simp
      | cons c u =>
        rw [List.map_cons, List.cons.injEq, List.cons.injEq, eq_comm,
          toLower_eq_iff (hv b List.mem_cons_self), eq_comm,
          ih fun b' h => hv b' (List.mem_cons_of_mem b h)]
  rw [Bool.eq_iff_iff, within_iff_isInfix, within_iff_isInfix, List.infix_map_iff]
  simp only [hsame, exists_eq_right']

end Text

namespace Dialect
open Text

def ShowsStatement (s : Text) : Prop :=
  Shows "select".toList s ∨ Shows "from".toList s

def ShowsPowerBI (s : Text) : Prop :=
  (Shows "#(lf)".toList s ∨ Shows "#(cr)".toList s) ∧ Shows "NativeQuery(".toList s

def ShowsMetabase (s : Text) : Prop :=
  ∃ b ∈ ['{', '}', '[', ']'], [b, b] <:+: s

/-- What a text is taken for. Without a statement the marks do not matter. -/
inductive Verdict (s : Text) : Except Failure Dialect → Prop
  | noStatement : ¬ShowsStatement s → Verdict s (.error (.noStatement (s.take 30)))
  | powerBI : ShowsStatement s → ShowsPowerBI s → ¬ShowsMetabase s → Verdict s (.ok .powerBI)
  | metabase : ShowsStatement s → ¬ShowsPowerBI s → ShowsMetabase s → Verdict s (.ok .metabase)
  | both : ShowsStatement s → ShowsPowerBI s → ShowsMetabase s →
      Verdict s (.error (.ambiguous .both))
  | neither : ShowsStatement s → ¬ShowsPowerBI s → ¬ShowsMetabase s →
      Verdict s (.error (.ambiguous .neither))

inductive SameVerdict : Except Failure Dialect → Except Failure Dialect → Prop
  | found (d : Dialect) : SameVerdict (.ok d) (.ok d)
  | ambiguous (a : Ambiguity) : SameVerdict (.error (.ambiguous a)) (.error (.ambiguous a))
  | noStatement {p q : Text} : CaseVariant p q →
      SameVerdict (.error (.noStatement p)) (.error (.noStatement q))

theorem hasStatement_iff {s : Text} : hasStatement s = true ↔ ShowsStatement s := by
  rw [hasStatement, Bool.or_eq_true, withinCaseless_iff_shows (by decide),
    withinCaseless_iff_shows (by decide), ShowsStatement]

theorem hasPowerBIMarks_iff {s : Text} : hasPowerBIMarks s = true ↔ ShowsPowerBI s := by
  rw [hasPowerBIMarks, Bool.and_eq_true, Bool.or_eq_true, withinCaseless_iff_shows (by decide),
    withinCaseless_iff_shows (by decide), withinCaseless_iff_shows (by decide)]
  rfl

theorem hasMetabaseMarks_iff {s : Text} : hasMetabaseMarks s = true ↔ ShowsMetabase s :=
  PowerBI.Wrapper.hasMetabaseMarks_iff

theorem verdict_ofQuery (s : Text) : Verdict s (ofQuery s) := by
  have hno {b : Bool} {p : Prop} (hiff : b = true ↔ p) (hb : b = false) : ¬p := by
    rw [← hiff, hb]
    exact Bool.false_ne_true
  unfold ofQuery
  split
  · next h =>
    have hs := hasStatement_iff.1 h
    split
    · next hp hm => exact .powerBI hs (hasPowerBIMarks_iff.1 hp) (hno hasMetabaseMarks_iff hm)
    · next hp hm => exact .metabase hs (hno hasPowerBIMarks_iff hp) (hasMetabaseMarks_iff.1 hm)
    · next hp hm => exact .both hs (hasPowerBIMarks_iff.1 hp) (hasMetabaseMarks_iff.1 hm)
    · next hp hm =>
      exact .neither hs (hno hasPowerBIMarks_iff hp) (hno hasMetabaseMarks_iff hm)
  · next h => exact .noStatement fun hs => h (hasStatement_iff.2 hs)

theorem Verdict.ofQuery_eq {s : Text} {r : Except Failure Dialect} (h : Verdict s r) :
    ofQuery s = r := by
  have hfalse {b : Bool} {p : Prop} (hiff : b = true ↔ p) (hp : ¬p) : b = false :=
    Bool.eq_false_iff.2 fun hb => hp (hiff.1 hb)
  unfold ofQuery
  cases h with
  | noStatement hs =>
    rw [hfalse hasStatement_iff hs]
    rfl
  | powerBI hs hp hm =>
    rw [hasStatement_iff.2 hs, hasPowerBIMarks_iff.2 hp, hfalse hasMetabaseMarks_iff hm]
    rfl
  | metabase hs hp hm =>
    rw [hasStatement_iff.2 hs, hfalse hasPowerBIMarks_iff hp, hasMetabaseMarks_iff.2 hm]
    rfl
  | both hs hp hm =>
    rw [hasStatement_iff.2 hs, hasPowerBIMarks_iff.2 hp, hasMetabaseMarks_iff.2 hm]
    rfl
  | neither hs hp hm =>
    rw [hasStatement_iff.2 hs, hfalse hasPowerBIMarks_iff hp, hfalse hasMetabaseMarks_iff hm]
    rfl

theorem ofQuery_eq_iff {s : Text} {r : Except Failure Dialect} : ofQuery s = r ↔ Verdict s r :=
  ⟨fun h => h ▸ verdict_ofQuery s, Verdict.ofQuery_eq⟩

theorem hasStatement_map_toLower (s : Text) :
    hasStatement (s.map Char.toLower) = hasStatement s := by
  simp only [hasStatement, withinCaseless_map_toLower]

theorem hasPowerBIMarks_map_toLower (s : Text) :
    hasPowerBIMarks (s.map Char.toLower) = hasPowerBIMarks s := by
  simp only [hasPowerBIMarks, withinCaseless_map_toLower]

theorem hasMetabaseMarks_map_toLower (s : Text) :
    hasMetabaseMarks (s.map Char.toLower) = hasMetabaseMarks s := by
  have hpair {b : Char} (hb : b.isAlpha = false) :
      within [b, b] (s.map Char.toLower) = within [b, b] s :=
    within_map_toLower (by simp [hb]) s
  simp only [hasMetabaseMarks, hpair (b := '{') (by decide), hpair (b := '}') (by decide),
    hpair (b := '[') (by decide), hpair (b := ']') (by decide)]

theorem sameVerdict_of_caseVariant {s t : Text} (h : CaseVariant s t) :
    SameVerdict (ofQuery s) (ofQuery t) := by
  have hkeep {f : Text → Bool} (hf : ∀ s, f (s.map Char.toLower) = f s) : f s = f t := by
    rw [← hf s, h, hf t]
  unfold ofQuery
  rw [hkeep hasStatement_map_toLower, hkeep hasPowerBIMarks_map_toLower,
    hkeep hasMetabaseMarks_map_toLower]
  split
  · split
    · exact .found .powerBI
    · exact .found .metabase
    · exact .ambiguous .both
    · exact .ambiguous .neither
  · exact .noStatement (h.take 30)

theorem Verdict.both_append {s : Text} (h : Verdict s (.error (.ambiguous .both)))
    (a b : Text) : Verdict (a ++ s ++ b) (.error (.ambiguous .both)) := by
  cases h with
  | both hstatement hpowerBI hmetabase =>
    obtain ⟨hmark, hcall⟩ := hpowerBI
    obtain ⟨c, hc, hpair⟩ := hmetabase
    exact .both (hstatement.imp (·.append a b) (·.append a b))
      ⟨hmark.imp (·.append a b) (·.append a b), hcall.append a b⟩
      ⟨c, hc, hpair.trans ⟨a, b, rfl⟩⟩

/-- A text is taken for what its words and marks call for, in any letter case, and one with the
marks of both dialects is in every text around it. -/
theorem ofQuery_verdict (s : Text) :
    (∀ r, ofQuery s = r ↔ Verdict s r) ∧
    (∀ t, CaseVariant s t → SameVerdict (ofQuery s) (ofQuery t)) ∧
    (ofQuery s = .error (.ambiguous .both) →
      ∀ a b, ofQuery (a ++ s ++ b) = .error (.ambiguous .both)) := by
  refine ⟨fun r => ofQuery_eq_iff, fun t h => sameVerdict_of_caseVariant h, fun h a b => ?_⟩
  exact ofQuery_eq_iff.2 ((ofQuery_eq_iff.1 h).both_append a b)

def bothMarksQuery : Text :=
  "NATIVEQUERY(x, \"ſelect #(Cr) \x7b\x7bid\x7d\x7d\")".toList

theorem ofQuery_verdict_bothMarksQuery :
    CaseVariant bothMarksQuery "nativeQuery(X, \"ſELECT #(cR) \x7b\x7bID\x7d\x7d\")".toList ∧
      Verdict bothMarksQuery (.error (.ambiguous .both)) ∧
      SameVerdict (.error (.ambiguous .both))
        (ofQuery "nativeQuery(X, \"ſELECT #(cR) \x7b\x7bID\x7d\x7d\")".toList) ∧
      ofQuery ("/* ".toList ++ bothMarksQuery ++ " */ from t".toList) =
        .error (.ambiguous .both) := by
  have hvariant : CaseVariant bothMarksQuery
      "nativeQuery(X, \"ſELECT #(cR) \x7b\x7bID\x7d\x7d\")".toList := by
    unfold CaseVariant
    decide +kernel
  have hboth : ofQuery bothMarksQuery = .error (.ambiguous .both) := by decide +kernel
  obtain ⟨hverdict, hcase, haround⟩ := ofQuery_verdict bothMarksQuery
  exact ⟨hvariant, (hverdict _).1 hboth, hboth ▸ hcase _ hvariant, haround hboth _ _⟩

end Dialect

end QueryBridge
