import QueryBridge.PowerBI.Draft
import QueryBridge.Proofs.Metabase.Segment
import QueryBridge.Proofs.Text.Dissection

/-!
Where tokens stand and what their names are. A token is read wherever one begins that a token read
before does not take in, its name has no blanks at its ends and stands before the first closing
pair, and the names that are met come behind those known before.
-/

namespace QueryBridge.Metabase
open Text

namespace Token

structure Spaced (t : Token) : Prop where
  openGap : ∀ x ∈ t.openGap, isBlank x = true
  before : ∀ x ∈ t.before, isBlank x = true
  after : ∀ x ∈ t.after, isBlank x = true
  closeGap : ∀ x ∈ t.closeGap, isBlank x = true
  oneLine : '\n' ∉ t.name

structure Trimmed (t : Token) : Prop where
  first : t.name.head?.any isBlank = false
  last : t.name.getLast?.any isBlank = false

def closer (t : Token) : Text :=
  t.after ++ '}' :: (t.closeGap ++ ['}'])

/-- In the name and what closes the token, the first brace of the closing pair is the only closing
brace that has another one as its next character but for blanks. -/
def EndsFirst (t : Token) : Prop :=
  ∀ p q, p ++ '}' :: q = t.name ++ t.closer → ((skip q).head? = some '}' ↔ p = t.name ++ t.after)

theorem written_eq (t : Token) :
    t.written = '{' :: (t.openGap ++ '{' :: (t.before ++ (t.name ++ t.closer))) := by
  simp [written, closer]

theorem closing?_eq_none_iff {s : Text} : closing? s = none ↔ pair? '}' (skip s) = none :=
  Option.map_eq_none_iff

theorem closing?_skip_eq_none_iff {s : Text} : closing? (skip s) = none ↔ closing? s = none := by
  rw [closing?_eq_none_iff, closing?_eq_none_iff, skip_skip]

theorem closing?_cons_eq_none_iff {c : Char} (hc : isBlank c = true) {s : Text} :
    closing? (c :: s) = none ↔ closing? s = none := by
  rw [closing?_eq_none_iff, closing?_eq_none_iff, skip_cons_of_isBlank hc]

theorem isBlank_of_closing? {s rest : Text} {g : Text × Text}
    (h : closing? s = some (g, rest)) :
    (∀ x ∈ g.1, isBlank x = true) ∧ ∀ x ∈ g.2, isBlank x = true := by
  obtain ⟨⟨g', r⟩, hpair, he⟩ := Option.map_eq_some_iff.1 h
  simp only [Prod.mk.injEq] at he
  obtain ⟨rfl, rfl⟩ := he
  exact ⟨fun x hx => List.mem_takeWhile_imp hx, isBlank_of_pair? hpair⟩

namespace Spaced

variable {t : Token}

theorem pair?_written (ht : t.Spaced) (u : Text) :
    pair? '{' (t.written ++ u) = some (t.openGap, t.before ++ (t.name ++ (t.closer ++ u))) := by
  have h := pair?_append (d := '{') (by decide) ⟨t.openGap, ht.openGap⟩
    (t.before ++ (t.name ++ (t.closer ++ u)))
  rw [← h, written_eq]
  simp only [List.append_assoc, List.cons_append]

theorem closing?_closer (ht : t.Spaced) (u : Text) :
    closing? (t.closer ++ u) = some ((t.after, t.closeGap), u) := by
  have h := closing?_append ⟨t.after, ht.after⟩ ⟨t.closeGap, ht.closeGap⟩ u
  rw [← h, closer]
  simp only [List.append_assoc, List.cons_append, List.nil_append]

theorem exists_closing (ht : t.Spaced) (u : Text) :
    ∃ r, skip t.name ++ r = skip (t.name ++ (t.closer ++ u)) ∧ closing? r ≠ none := by
  have hclose : closing? (t.closer ++ u) ≠ none := by
    rw [ht.closing?_closer]
    simp
  by_cases hname : skip t.name = []
  · refine ⟨skip (t.closer ++ u), ?_, ?_⟩
    · rw [skip_append t.name, hname]
      rfl
    · rwa [ne_eq, closing?_skip_eq_none_iff]
  · exact ⟨t.closer ++ u, (skip_append_of_skip_ne_nil hname _).symm, hclose⟩

theorem read_ne_none (ht : t.Spaced) (u : Text) : read (t.written ++ u) ≠ none := by
  rw [read, ht.pair?_written, Option.bind_some, ne_eq, Option.map_eq_none_iff, cut_eq_none_iff]
  dsimp only
  rw [Blanks.skip_append ⟨t.before, ht.before⟩]
  intro h
  obtain ⟨r, hr, hclose⟩ := ht.exists_closing u
  refine hclose (h (skip t.name) r hr fun c hc => decide_eq_true fun he => ht.oneLine ?_)
  exact he ▸ (List.dropWhile_sublist _).subset hc

end Spaced

theorem spaced_of_read {s u : Text} {t : Token} (h : read s = some (t, u)) :
    t.Spaced ∧ t.name.head?.any isBlank = false ∧
      ∀ p q, p ++ q = t.name → q ≠ [] → closing? (q ++ (t.closer ++ u)) = none := by
  obtain ⟨⟨g, v⟩, ho, h⟩ := Option.bind_eq_some_iff.1 h
  obtain ⟨⟨n, ⟨a, c⟩, u'⟩, hcut, he⟩ := Option.map_eq_some_iff.1 h
  simp only [Prod.mk.injEq] at he
  obtain ⟨rfl, rfl⟩ := he
  obtain ⟨w, hw, hclose, hplain, hfirst⟩ := cut_eq_some_iff.1 hcut
  have hcloser : closer ⟨g, gap v, n, a, c⟩ ++ u' = w := by
    rw [← closing?_eq_some hclose]
    simp [closer]
  have hgaps := isBlank_of_closing? hclose
  rw [hcloser]
  refine ⟨⟨isBlank_of_pair? ho, fun x hx => List.mem_takeWhile_imp hx, hgaps.1, hgaps.2,
    fun hn => ?_⟩, ?_, hfirst⟩
  · simpa using hplain '\n' hn
  · have hhead := head?_skip v
    dsimp only at hw ⊢
    rw [← hw] at hhead
    cases n with
    | nil => rfl
    | cons d n => exact hhead

theorem trimmed_of_read {s u : Text} {t : Token} (h : read s = some (t, u)) : t.Trimmed := by
  obtain ⟨ht, hhead, hfirst⟩ := spaced_of_read h
  refine ⟨hhead, ?_⟩
  cases hlast : t.name.getLast? with
  | none => rfl
  | some d =>
    rw [Option.any_some, Bool.eq_false_iff]
    intro hd
    -- the name would end before this blank
    obtain ⟨p, hp⟩ := List.getLast?_eq_some_iff.1 hlast
    have hclose := hfirst p [d] hp.symm (by simp)
    rw [List.singleton_append, closing?_cons_eq_none_iff hd, ht.closing?_closer] at hclose
    simp at hclose

theorem pair?_eq_none_of_read {s u : Text} {t : Token} (h : read s = some (t, u)) (p q : Text)
    (hpq : p ++ q = t.name ++ t.after) (hq : q ≠ []) :
    pair? '}' (q ++ '}' :: (t.closeGap ++ '}' :: u)) = none := by
  obtain ⟨ht, -, hfirst⟩ := spaced_of_read h
  obtain ⟨v, hv, rfl⟩ | ⟨v, rfl, hv⟩ := List.append_eq_append_iff.1 hpq
  · by_cases hnil : v = []
    · subst hnil
      exact pair?_blanks_append (by decide) hq ht.after _
    · have hclose := hfirst p v hv.symm hnil
      rw [closing?_eq_none_iff, closer, List.append_assoc, List.cons_append, List.append_assoc,
        List.singleton_append] at hclose
      rw [List.append_assoc]
      exact pair?_eq_none_of_skip (by decide) hclose
  · exact pair?_blanks_append (by decide) hq
      (fun x hx => ht.after x (hv ▸ List.mem_append_right v hx)) _

theorem endsFirst_of_read {s u : Text} {t : Token} (h : read s = some (t, u)) : t.EndsFirst := by
  intro p q hpq
  rw [closer, ← List.append_assoc] at hpq
  exact head?_skip_eq_some_iff (by decide) ⟨t.closeGap, (spaced_of_read h).1.closeGap⟩
    (pair?_eq_none_of_read h) hpq

end Token

def NoToken (a t : Text) : Prop :=
  ∀ p q, p ++ q = a → q ≠ [] → ∀ m : Token, m.Spaced → ¬m.written <+: q ++ t

theorem noToken_of_passes {a t : Text} (h : Token.recognizer.Passes a t) : NoToken a t := by
  intro p q hpq hq m hm hprefix
  obtain ⟨u, hu⟩ := hprefix
  have hread := h p q hpq hq
  rw [← hu] at hread
  exact hm.read_ne_none u hread

/-- The tokens lie in the text like this: each has a name without blanks at its ends and closes at
the first closing pair, and outside of them no token begins. -/
structure Tokenized (s : Text) (d : Dissection Token) : Prop where
  text : d.render Token.written = s
  spaced : ∀ t ∈ d.hits, t.Spaced
  trimmed : ∀ t ∈ d.hits, t.Trimmed
  ends : ∀ t ∈ d.hits, t.EndsFirst
  between : ∀ front a t back, d.parts = front ++ (a, t) :: back →
    NoToken a (t.written ++ Dissection.render Token.written ⟨back, d.rest⟩)
  behind : NoToken d.rest []

theorem tokenized_of_scan {s : Text} {d : Dissection Token} (h : Token.recognizer.Scan s d) :
    Tokenized s d := by
  refine ⟨h.render_written, fun t ht => ?_, fun t ht => ?_, fun t ht => ?_,
    fun front a t back hd => ?_, noToken_of_passes h.passes_rest⟩
  · obtain ⟨v, u, htu⟩ := h.exists_read ht
    exact (Token.spaced_of_read htu).1
  · obtain ⟨v, u, htu⟩ := h.exists_read ht
    exact Token.trimmed_of_read htu
  · obtain ⟨v, u, htu⟩ := h.exists_read ht
    exact Token.endsFirst_of_read htu
  · obtain ⟨u, hscan, hpass, -⟩ := h.of_parts_eq hd
    have hu : Dissection.render Token.written ⟨back, d.rest⟩ = u := hscan.render_written
    rw [hu]
    exact noToken_of_passes hpass

/-- The replacement of tokens puts a reference in the place of each and nothing else, and records
the names that are new, each where it is met first. -/
theorem exists_tokenized (s : Text) : ∃ d, Tokenized s d ∧ ∀ ps j, ∃ qs : Parameters,
    ((PowerBI.Stage.replaceTokens.perform ⟨s, ps⟩).run j).1 =
        ⟨d.render fun t => '@' :: t.name, qs⟩ ∧
      qs.names =
        ps.names ++ ((d.hits.map Token.name).filter fun n => !ps.contains n).eraseDups ∧
      (ps.names.Nodup → qs.names.Nodup) := by
  obtain ⟨d, hd⟩ := Token.recognizer.exists_scan s
  have htext : PowerBI.replaceTokens s = d.render fun t => '@' :: t.name := hd.replace_eq _
  have hnames : tokenNames s = d.hits.map Token.name := congrArg (List.map Token.name) hd.hits_eq
  refine ⟨d, tokenized_of_scan hd, fun ps j => ⟨ps.insertAll (tokenNames s), ?_, ?_, ?_⟩⟩
  · rw [← htext]
    rfl
  · rw [← hnames]
    exact ps.names_insertAll _
  · exact fun hps => Parameters.nodup_insertAll hps _

end QueryBridge.Metabase
