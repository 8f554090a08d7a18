import QueryBridge.Proofs.Parameters
import QueryBridge.Proofs.PowerBI.Escaping

/-!
What the stages make of a query as a whole. Clauses and tokens are handled as if its quotes were
not escaped, and what is left is spelled character by character.
-/

namespace QueryBridge.PowerBI
open Text Metabase

def escapeClause (c : Clause) : Clause :=
  { c with body := escape c.body }

def escapeToken (t : Token) : Token :=
  { t with name := escape t.name }

theorem clause_read_of_ne {c : Char} {s : Text} (h : c ≠ '[') :
    Clause.recognizer.read (c :: s) = none := by
  change Clause.read (c :: s) = none
  rw [Clause.read, pair?_of_ne h, Option.bind_none]

theorem token_read_of_ne {c : Char} {s : Text} (h : c ≠ '{') :
    Token.recognizer.read (c :: s) = none := by
  change Token.read (c :: s) = none
  rw [Token.read, pair?_of_ne h, Option.bind_none]

theorem clause_read_escape (s : Text) :
    Clause.read (escape s) = (Clause.read s).map fun x => (escapeClause x.1, escape x.2) := by
  have hquote (t : Text) : pair? ']' ('"' :: t) = none := pair?_of_ne (by decide) t
  have hclose (t : Text) := pair?_escape (b := ']') (by decide) t
  have hcut (t : Text) : cut (fun _ => true) (pair? ']') (escape t) =
      (cut (fun _ => true) (pair? ']') t).map fun r => (escape r.1, r.2.1, escape r.2.2) :=
    cut_escape rfl hquote hclose t
  rw [Clause.read, Clause.read, pair?_escape (by decide)]
  cases pair? '[' s with
  | none => rfl
  | some o =>
    simp only [Option.map_some, Option.bind_some, hcut, Option.map_map]
    rfl

theorem closing?_escape (s : Text) :
    Token.closing? (escape s) = (Token.closing? s).map fun r => (r.1, escape r.2) := by
  rw [Token.closing?, Token.closing?, skip_escape, pair?_escape (by decide), gap_escape,
    Option.map_map, Option.map_map]
  rfl

theorem token_read_escape (s : Text) :
    Token.read (escape s) = (Token.read s).map fun x => (escapeToken x.1, escape x.2) := by
  have hquote (t : Text) : Token.closing? ('"' :: t) = none := by
    rw [Token.closing?, skip_of_head rfl, pair?_of_ne (by decide), Option.map_none]
  have hcut (t : Text) : cut (· ≠ '\n') Token.closing? (escape t) =
      (cut (· ≠ '\n') Token.closing? t).map fun r => (escape r.1, r.2.1, escape r.2.2) :=
    cut_escape rfl hquote closing?_escape t
  rw [Token.read, Token.read, pair?_escape (by decide)]
  cases pair? '{' s with
  | none => rfl
  | some o =>
    simp only [Option.map_some, Option.bind_some, skip_escape, gap_escape, hcut, Option.map_map]
    rfl

theorem clause_follows_escape : Clause.recognizer.Follows escapeChar escapeClause :=
  follows_escape (fun _ => clause_read_of_ne (by decide)) clause_read_escape

theorem token_follows_escape : Token.recognizer.Follows escapeChar escapeToken :=
  follows_escape (fun _ => token_read_of_ne (by decide)) token_read_escape

theorem tokenNames_escape (s : Text) : tokenNames (escape s) = (tokenNames s).map escape := by
  have h := token_follows_escape.hits_flatMap s
  rw [tokenNames, escape, h, tokenNames, List.map_map, List.map_map]
  rfl

def clausesHandled (s : Settings) (q : Text) : Text :=
  if s.removeClauses then removeClauses q else if s.stripClauses then stripClauses q else q

def tokensHandled (s : Settings) (q : Text) : Text :=
  if s.replaceTokens then replaceTokens q else q

def namesMet (s : Settings) (q : Text) : List Text :=
  if s.replaceTokens then tokenNames q else []

def markChar (s : Settings) (c : Char) : Text :=
  if s.markBreaks then
    if c = '\n' then lineFeedMark else if c = '\r' then carriageReturnMark else [c]
  else [c]

def spaceChar (s : Settings) (c : Char) : Text :=
  if s.useSpaces then if c = '\t' then List.replicate s.tabSize ' ' else [c] else [c]

/-- How a character outside clauses and tokens is spelled in the literal. -/
def spellChar (s : Settings) (c : Char) : Text :=
  if c = '"' then ['"', '"']
  else if c = '\n' ∧ s.markBreaks then lineFeedMark
  else if c = '\r' ∧ s.markBreaks then carriageReturnMark
  else if c = '\t' ∧ s.useSpaces then List.replicate s.tabSize ' '
  else [c]

def spelled (s : Settings) (t : Text) : Text :=
  t.flatMap (spellChar s)

theorem spellChar_eq (s : Settings) (c : Char) :
    spellChar s c = ((escapeChar c).flatMap (markChar s)).flatMap (spaceChar s) := by
  unfold spellChar escapeChar markChar spaceChar
  by_cases hq : c = '"'
  · subst hq
    cases s.markBreaks <;> cases s.useSpaces <;> rfl
  · by_cases hn : c = '\n'
    · subst hn
      cases s.markBreaks <;> cases s.useSpaces <;> rfl
    · by_cases hr : c = '\r'
      · subst hr
        cases s.markBreaks <;> cases s.useSpaces <;> rfl
      · cases s.markBreaks <;> cases s.useSpaces <;> simp [hq, hn, hr]

def finished (s : Settings) (t : Text) : Text :=
  (t.flatMap (markChar s)).flatMap (spaceChar s)

theorem spelled_eq (s : Settings) (t : Text) : spelled s t = finished s (escape t) := by
  have hchar : spellChar s = fun c => ((escapeChar c).flatMap (markChar s)).flatMap (spaceChar s) :=
    funext (spellChar_eq s)
  simp only [spelled, finished, hchar, escape, List.flatMap_assoc]

theorem escape_spaces (width : Nat) :
    escape (List.replicate width ' ') = List.replicate width ' ' := by
  refine escape_of_not_mem fun h => ?_
  exact absurd (List.eq_of_mem_replicate h) (by decide)

theorem escape_finishedChar (s : Settings) (c : Char) :
    escape ((markChar s c).flatMap (spaceChar s)) = spellChar s c := by
  unfold spellChar markChar spaceChar
  by_cases hq : c = '"'
  · subst hq
    cases s.markBreaks <;> cases s.useSpaces <;> rfl
  · by_cases hn : c = '\n'
    · subst hn
      cases s.markBreaks <;> cases s.useSpaces <;> rfl
    · by_cases hr : c = '\r'
      · subst hr
        cases s.markBreaks <;> cases s.useSpaces <;> rfl
      · by_cases ht : c = '\t'
        · subst ht
          cases s.markBreaks <;> cases s.useSpaces <;> simp [escape_spaces, escape_cons]
        · cases s.markBreaks <;> cases s.useSpaces <;> simp [hq, hn, hr, ht, escape_cons]

theorem escape_finished (s : Settings) (t : Text) : escape (finished s t) = spelled s t := by
  have hchar : spellChar s = fun c => escape ((markChar s c).flatMap (spaceChar s)) :=
    funext fun c => (escape_finishedChar s c).symm
  simp only [spelled, finished, hchar, escape, List.flatMap_assoc]

theorem clausesHandled_escape (s : Settings) (t : Text) :
    clausesHandled s (escape t) = escape (clausesHandled s t) := by
  unfold clausesHandled
  split
  · exact clause_follows_escape.replace_flatMap (fun _ => rfl) t
  · split
    · exact clause_follows_escape.replace_flatMap (fun _ => rfl) t
    · rfl

theorem tokensHandled_escape (s : Settings) (t : Text) :
    tokensHandled s (escape t) = escape (tokensHandled s t) := by
  unfold tokensHandled
  split
  · exact token_follows_escape.replace_flatMap (fun _ => rfl) t
  · rfl

theorem namesMet_escape (s : Settings) (t : Text) :
    namesMet s (escape t) = (namesMet s t).map escape := by
  unfold namesMet
  split
  · exact tokenNames_escape t
  · rfl

theorem clauseStages (s : Settings) (d : Draft) :
    (if s.removeClauses then [Stage.removeClauses]
      else if s.stripClauses then [Stage.stripClauses] else []).foldl Stage.apply d =
        { d with text := clausesHandled s d.text } := by
  unfold clausesHandled
  split
  · rfl
  · split
    · rfl
    · rfl

theorem tokenStages (s : Settings) (d : Draft) :
    (if s.replaceTokens then [Stage.replaceTokens] else []).foldl Stage.apply d =
      ⟨tokensHandled s d.text, d.parameters.insertAll (namesMet s d.text)⟩ := by
  unfold tokensHandled namesMet
  split
  · rfl
  · rfl

theorem markStages (s : Settings) (d : Draft) :
    (if s.markBreaks then [Stage.markBreaks] else []).foldl Stage.apply d =
      { d with text := d.text.flatMap (markChar s) } := by
  unfold markChar
  split
  · rfl
  · simp

theorem spaceStages (s : Settings) (d : Draft) :
    (if s.useSpaces then [Stage.spaceTabs s.tabSize] else []).foldl Stage.apply d =
      { d with text := d.text.flatMap (spaceChar s) } := by
  unfold spaceChar
  split
  · rfl
  · simp

/-- The stages behind the doubling of quotes. -/
def laterStages (s : Settings) : List Stage :=
  (stages s).filter (· ≠ .doubleQuotes)

theorem laterStages_eq (s : Settings) : laterStages s =
    (if s.removeClauses then [.removeClauses]
      else if s.stripClauses then [.stripClauses] else []) ++
    (if s.replaceTokens then [.replaceTokens] else []) ++
    (if s.markBreaks then [.markBreaks] else []) ++
    (if s.useSpaces then [.spaceTabs s.tabSize] else []) := by
  simp [laterStages, stages, apply_ite (List.filter _)]

theorem stages_eq (s : Settings) : stages s = .doubleQuotes :: laterStages s := by
  rw [laterStages_eq, stages]
  simp

theorem foldl_laterStages (s : Settings) (d : Draft) :
    (laterStages s).foldl Stage.apply d =
      ⟨finished s (tokensHandled s (clausesHandled s d.text)),
        d.parameters.insertAll (namesMet s (clausesHandled s d.text))⟩ := by
  rw [laterStages_eq, List.foldl_append, List.foldl_append, List.foldl_append, clauseStages,
    tokenStages, markStages, spaceStages, finished]

theorem draft_doubleQuotes (s : Settings) (q : Text) :
    draft s q = ⟨finished s (tokensHandled s (clausesHandled s (doubleQuotes q))),
      Parameters.empty.insertAll (namesMet s (clausesHandled s (doubleQuotes q)))⟩ := by
  rw [draft, stages_eq, List.foldl_cons, foldl_laterStages]
  rfl

theorem names_draft (s : Settings) (q : Text) :
    (draft s q).parameters.names = (namesMet s (clausesHandled s (doubleQuotes q))).eraseDups := by
  rw [draft_doubleQuotes, Parameters.insertAll_empty]

theorem exists_token_of_mem_names {s : Settings} {q n : Text}
    (h : n ∈ (draft s q).parameters.names) : s.replaceTokens = true ∧
      ∃ t ∈ Token.recognizer.hits (clausesHandled s (doubleQuotes q)), t.name = n := by
  rw [names_draft, List.mem_eraseDups] at h
  unfold namesMet at h
  split at h
  · next htokens => exact ⟨htokens, List.mem_map.1 h⟩
  · simp at h

theorem draft_of_doubleQuotes {q t : Text} (h : doubleQuotes q = escape t) (s : Settings) :
    draft s q = ⟨spelled s (tokensHandled s (clausesHandled s t)),
      Parameters.empty.insertAll ((namesMet s (clausesHandled s t)).map escape)⟩ := by
  rw [draft_doubleQuotes, h, clausesHandled_escape, tokensHandled_escape, namesMet_escape,
    spelled_eq]

theorem draft_eq {q : Text} (h : ¬['"', '"'] <:+: q) (s : Settings) :
    draft s q = ⟨spelled s (tokensHandled s (clausesHandled s q)),
      Parameters.empty.insertAll ((namesMet s (clausesHandled s q)).map escape)⟩ :=
  draft_of_doubleQuotes (doubleQuotes_eq_escape h) s

end QueryBridge.PowerBI
