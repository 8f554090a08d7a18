import QueryBridge.Conversion
import QueryBridge.Proofs.PowerBI.Recognition
import QueryBridge.Proofs.PowerBI.Unmarking

/-!
Conversions one after the other. What has been brought to Metabase has no marks left, so it is
never taken for a PowerBI query and the next conversion, if there is one, goes the other way.
-/

namespace QueryBridge
open Text PowerBI

theorem Metabase.unmarked_query (s : Settings) (m : Text) : Unmarked (Metabase.query s m) := by
  rw [Metabase.query, Metabase.stages, List.foldl_append]
  exact unmarked_unmark _

theorem ofQuery_ne_powerBI {t : Text} (h : Unmarked t) : Dialect.ofQuery t ≠ .ok .powerBI := by
  unfold Dialect.ofQuery
  rw [Wrapper.hasPowerBIMarks_of_unmarked h]
  split
  · cases Dialect.hasMetabaseMarks t <;> simp
  · simp

/-- Conversions that succeed, each of what the one before it gave, under settings and with a journal
of its own. The list has the dialects that they convert from. -/
inductive Chain : Text → List Dialect → Text → Prop
  | nil (q : Text) : Chain q [] q
  | cons (s : Settings) (j : Journal) {q out last : Text} {d : Dialect} {ds : List Dialect} :
      Dialect.ofQuery q = .ok d → ((convert s q).run j).1 = .ok out → Chain out ds last →
      Chain q (d :: ds) last

theorem convert_of_ofQuery {s : Settings} {q : Text} {d : Dialect}
    (hq : Dialect.ofQuery q = .ok d) (j : Journal) :
    ((convert s q).run j).1 = .ok (d.other.query s q) := by
  rw [run_convert_fst, converted, hq]
  rfl

theorem ofQuery_ne_powerBI_of_convert {s : Settings} {q out : Text} {j : Journal}
    (hq : Dialect.ofQuery q = .ok .powerBI) (hout : ((convert s q).run j).1 = .ok out) :
    Dialect.ofQuery out ≠ .ok .powerBI := by
  rw [convert_of_ofQuery hq] at hout
  obtain rfl := Except.ok.inj hout
  exact ofQuery_ne_powerBI (Metabase.unmarked_query s q)

theorem Chain.ofQuery_eq {q last : Text} {d : Dialect} {ds : List Dialect}
    (h : Chain q (d :: ds) last) : Dialect.ofQuery q = .ok d := by
  cases h with
  | cons s j hq hout hrest => exact hq

theorem Chain.not_twice {q last : Text} {ds : List Dialect} (h : Chain q ds last) :
    ¬[.powerBI, .powerBI] <:+: ds := by
  induction h with
  | nil q => simp
  | @cons s j q out last d ds hq hout hrest ih =>
    intro htwice
    cases List.infix_cons_iff.1 htwice with
    | inr h => exact ih h
    | inl h =>
      obtain ⟨rfl, rest, rfl⟩ := List.cons_prefix_cons.1 h
      exact ofQuery_ne_powerBI_of_convert hq hout hrest.ofQuery_eq

/-- No marks are left in what is brought to Metabase, whatever it was before, so conversions never
start from PowerBI twice in a row. -/
theorem unmarked_ofPowerBI_and_not_twice :
    (∀ s m j, Unmarked ((Metabase.ofPowerBI s m).run j).1 ∧
      Dialect.ofQuery ((Metabase.ofPowerBI s m).run j).1 ≠ .ok .powerBI) ∧
    ∀ q ds last, Chain q ds last → ¬[.powerBI, .powerBI] <:+: ds := by
  refine ⟨fun s m j => ?_, fun q ds last h => h.not_twice⟩
  have hunmarked := Metabase.unmarked_query s m
  rw [Metabase.run_ofPowerBI_fst]
  exact ⟨hunmarked, ofQuery_ne_powerBI hunmarked⟩

def splitMarkQuery : Text :=
  "NativeQuery(x.Database(\"h\", \"d\"), \"from t#(LF)where #(l#(tab)f) = @a\", null)".toList

theorem unmarked_ofPowerBI_and_not_twice_splitMarkQuery :
    ((Metabase.ofPowerBI {} splitMarkQuery).run .capture).1 =
        "from t\nwhere #(l\tf) = \x7b\x7ba\x7d\x7d".toList ∧
      Unmarked "from t\nwhere #(l\tf) = \x7b\x7ba\x7d\x7d".toList ∧
      Dialect.ofQuery "from t\nwhere #(l\tf) = \x7b\x7ba\x7d\x7d".toList ≠ .ok .powerBI ∧
      ∃ last, Chain splitMarkQuery [.powerBI, .metabase, .powerBI] last ∧
        ¬[.powerBI, .powerBI] <:+: [Dialect.powerBI, .metabase, .powerBI] := by
  have hfirst : Metabase.query {} splitMarkQuery =
      "from t\nwhere #(l\tf) = \x7b\x7ba\x7d\x7d".toList := by decide +kernel
  have hbefore : Dialect.ofQuery splitMarkQuery = .ok .powerBI := by decide +kernel
  have hbetween : Dialect.ofQuery "from t\nwhere #(l\tf) = \x7b\x7ba\x7d\x7d".toList =
      .ok .metabase := by decide +kernel
  have hafter : Dialect.ofQuery (PowerBI.query {}
      "from t\nwhere #(l\tf) = \x7b\x7ba\x7d\x7d".toList) = .ok .powerBI := by decide +kernel
  have hchain : Chain splitMarkQuery [.powerBI, .metabase, .powerBI] (Metabase.query {}
      (PowerBI.query {} "from t\nwhere #(l\tf) = \x7b\x7ba\x7d\x7d".toList)) := by
    have hout : ((convert {} splitMarkQuery).run .capture).1 =
        .ok "from t\nwhere #(l\tf) = \x7b\x7ba\x7d\x7d".toList :=
      (convert_of_ofQuery hbefore .capture).trans (congrArg Except.ok hfirst)
    exact .cons {} .capture hbefore hout (.cons {} .capture hbetween
      (convert_of_ofQuery hbetween _) (.cons {} .capture hafter (convert_of_ofQuery hafter _)
        (.nil _)))
  obtain ⟨hquery, hchains⟩ := unmarked_ofPowerBI_and_not_twice
  have hrun := hquery {} splitMarkQuery .capture
  rw [Metabase.run_ofPowerBI_fst, hfirst] at hrun ⊢
  exact ⟨rfl, hrun.1, hrun.2, _, hchain, hchains _ _ _ hchain⟩

end QueryBridge
