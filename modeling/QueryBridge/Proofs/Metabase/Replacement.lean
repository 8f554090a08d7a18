import QueryBridge.Proofs.Metabase.Referencing
import QueryBridge.Proofs.PowerBI.Unmarking

/-!
What the replacement of references leaves behind. No name stands behind an at sign any more: none
was passed over, none forms where something was replaced, and none forms around a line break or a
tab that a mark stood for.
-/

namespace QueryBridge.Metabase
open Text PowerBI

/-- No word stands behind an at sign. -/
def Dereferenced (t : Text) : Prop :=
  ∀ c, isWord c = true → ¬['@', c] <:+: t

theorem not_mem_tokenText {s t : Text} {r : Reference}
    (h : Reference.recognizer.read s = some (r, t)) : '@' ∉ tokenText r := by
  have hword (u : Text) : '@' ∉ word u := fun hm => word_disjoint u hm (by simp)
  have hcast (u : Text) : '@' ∉ Reference.castText (Reference.readCast u).1 :=
    fun hm => castText_disjoint readCast_word hm (by simp)
  change Reference.read s = some (r, t) at h
  unfold Reference.read at h
  split at h
  · obtain ⟨⟨n, u⟩, hn, he⟩ := Option.map_eq_some_iff.1 h
    simp only [Prod.mk.injEq] at he
    obtain ⟨rfl, -⟩ := he
    have hname := eq_word_of_readName hn
    simp [tokenText, Token.plain, Token.written, hname, hword, hcast]
  · obtain ⟨l, -, h⟩ := Option.bind_eq_some_iff.1 h
    obtain ⟨⟨n, u⟩, hn, h⟩ := Option.bind_eq_some_iff.1 h
    obtain ⟨r', -, h⟩ := Option.bind_eq_some_iff.1 h
    obtain ⟨v, -, he⟩ := Option.map_eq_some_iff.1 h
    simp only [Prod.mk.injEq] at he
    obtain ⟨rfl, -⟩ := he
    have hname := eq_word_of_readName hn
    simp [tokenText, Token.plain, Token.written, hname, hword, hcast]
  · simp at h

theorem head?_of_read_at {s : Text} (h : Reference.recognizer.read ('@' :: s) = none) :
    s.head?.any isWord = false := by
  change (Reference.readName s).map _ = none at h
  rw [Option.map_eq_none_iff, Reference.readName] at h
  rw [← word_eq_nil_iff]
  by_contra hne
  simp [hne] at h

theorem head?_replaceReferences {s : Text} (h : s.head?.any isWord = false) :
    (replaceReferences s).head?.any isWord = false := by
  unfold replaceReferences
  cases hread : Reference.recognizer.read s with
  | some x =>
    rw [Recognizer.replace_of_read _ _ hread]
    cases x.1 with
    | named name cast => rfl
    | spliced l₁ l₂ name r₁ r₂ cast => rfl
  | none =>
    cases s with
    | nil => simp
    | cons c s =>
      rw [Recognizer.replace_cons _ _ hread]
      exact h

theorem dereferenced_replaceReferences (s : Text) : Dereferenced (replaceReferences s) := by
  intro c hc
  unfold replaceReferences
  induction s using Reference.recognizer.scan_induction with
  | nil => simp
  | hit s r t hread ih =>
    rw [Recognizer.replace_of_read _ _ hread]
    exact fun h => ih (isInfix_of_cons_isInfix_append (not_mem_tokenText hread) h)
  | plain d s hread ih =>
    rw [Recognizer.replace_cons _ _ hread, List.infix_cons_iff]
    intro h
    cases h with
    | inr h => exact ih h
    | inl h =>
      obtain ⟨rfl, u, hu⟩ := List.cons_prefix_cons.1 h
      have hhead := head?_replaceReferences (head?_of_read_at hread)
      rw [replaceReferences, ← hu] at hhead
      simp [hc] at hhead

theorem Dereferenced.replace {s : Text} (h : Dereferenced s) {μ : Type} (r : Recognizer μ)
    {x : Char} (hat : x ≠ '@') (hx : isWord x = false) :
    Dereferenced (r.replace (fun _ => [x]) s) := by
  intro c hc hinfix
  have hne : x ≠ c := by
    rintro rfl
    simp [hx] at hc
  exact h c hc (r.isInfix_of_replace (by simp [hat, hne]) hinfix)

theorem Dereferenced.unmark {s : Text} (h : Dereferenced s) : Dereferenced (unmark s) :=
  ((h.replace _ (x := '\n') (by decide) (by decide)).replace _ (x := '\r') (by decide)
    (by decide)).replace _ (x := '\t') (by decide) (by decide)

/-- Whatever is brought to Metabase with its references replaced, wrapped or not, has no name left
behind an at sign. -/
theorem dereferenced_ofPowerBI {s : Settings} (hs : s.replaceReferences = true) (m : Text)
    (j : Journal) : Dereferenced ((ofPowerBI s m).run j).1 := by
  rw [run_ofPowerBI_fst, query, stages, if_pos hs, List.foldl_append, List.foldl_append]
  exact (dereferenced_replaceReferences _).unmark

def mixedQuery : Text :=
  "x.Database(\"h\", \"d\"), \"select @a@b::int, '\"\"&c&\"\"'@#(lf)d, @@e#(TAB)\", null)".toList

theorem dereferenced_ofPowerBI_mixedQuery :
    ({} : Settings).replaceReferences = true ∧
      ((ofPowerBI {} mixedQuery).run .capture).1 =
        "select {{a}}{{b}}::int, '{{c}}'@\nd, @{{e}}\t".toList ∧
      Dereferenced ((ofPowerBI {} mixedQuery).run .capture).1 := by
  refine ⟨rfl, ?_, dereferenced_ofPowerBI rfl mixedQuery .capture⟩
  rw [run_ofPowerBI_fst]
  decide +kernel

end QueryBridge.Metabase
