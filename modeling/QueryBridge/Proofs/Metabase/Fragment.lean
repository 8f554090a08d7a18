import Mathlib.Data.List.Chain
import QueryBridge.Proofs.Metabase.Referencing
import QueryBridge.Proofs.PowerBI.Escaping
import QueryBridge.Proofs.PowerBI.Extraction
import QueryBridge.Proofs.PowerBI.Marking

/-!
Bodies put together from stretches of text and references. Main statement: the query that comes out
of the wrapper around such a body is the text as it was before it was escaped and marked, with a
token in the place of each reference.
-/

namespace QueryBridge.Metabase
open Text PowerBI

/-- A text with the form in which its marked characters stand in the body, or a reference. -/
inductive Fragment where
  | text (t u : Text) (marked : Marked marks t u)
  | named (name : Name) (cast : Option Name)
  | spliced (left₁ left₂ : Blanks) (name : Name) (right₁ right₂ : Blanks) (cast : Option Name)

namespace Fragment

/-- How the fragment stands in a string literal. A spliced name leaves the literal for a while. -/
def written : Fragment → Text
  | text _ u _ => escape u
  | named n cast => '@' :: (n.text ++ castOf cast)
  | spliced l₁ l₂ n r₁ r₂ cast =>
    '\'' :: '"' :: (l₁.text ++ '&' :: (l₂.text ++ (n.text ++ (r₁.text ++ '&' :: (r₂.text ++
      '"' :: '\'' :: castOf cast)))))

def unescaped : Fragment → Text
  | text _ u _ => u
  | named n cast => (named n cast).written
  | spliced l₁ l₂ n r₁ r₂ cast => (spliced l₁ l₂ n r₁ r₂ cast).written

def meaning : Fragment → Text
  | text t _ _ => t
  | named n cast => '{' :: '{' :: (n.text ++ '}' :: '}' :: castOf cast)
  | spliced _ _ n _ _ cast =>
    '\'' :: '{' :: '{' :: (n.text ++ '}' :: '}' :: '\'' :: castOf cast)

def replaced : Fragment → Text
  | text _ u _ => u
  | named n cast => (named n cast).meaning
  | spliced l₁ l₂ n r₁ r₂ cast => (spliced l₁ l₂ n r₁ r₂ cast).meaning

def Lacks (banned : List Char) : Fragment → Prop
  | text t _ _ => List.Disjoint t banned
  | named _ _ => True
  | spliced _ _ _ _ _ _ => True

end Fragment

def Separated (fs : List Fragment) : Prop :=
  ∀ n rest, .named n none :: rest <:+ fs →
    (rest.flatMap Fragment.unescaped).head?.any isWord = false

theorem Separated.tail {f : Fragment} {fs : List Fragment} (h : Separated (f :: fs)) :
    Separated fs :=
  fun n rest hrest => h n rest (hrest.trans (List.suffix_cons f fs))

theorem not_mem_castOf {c : Char} (hcolon : c ≠ ':') (hword : isWord c = false)
    (cast : Option Name) : c ∉ castOf cast := by
  cases cast with
  | none => exact List.not_mem_nil
  | some n =>
    have hn := n.not_mem hword
    simp [castOf, Reference.castText, hcolon, hn]

theorem head?_append_ne {c d : Char} {a : Text} (ha : c ∉ a) (hd : d ≠ c) (rest : Text) :
    (a ++ d :: rest).head? ≠ some c := by
  cases a with
  | nil => simpa using hd
  | cons x a =>
    have hx : x ≠ c := fun e => ha (by simp [e])
    simpa using hx

theorem halveQuotes_spliced (l₁ l₂ : Blanks) (n : Name) (r₁ r₂ : Blanks) (cast : Option Name)
    (rest : Text) :
    halveQuotes ((Fragment.spliced l₁ l₂ n r₁ r₂ cast).written ++ rest) =
      (Fragment.spliced l₁ l₂ n r₁ r₂ cast).written ++ halveQuotes rest := by
  have hblank (b : Blanks) := b.not_mem (c := '"') (by decide)
  have hn := n.not_mem (c := '"') (by decide)
  have hcast := not_mem_castOf (c := '"') (by decide) (by decide) cast
  have hopen : '"' ∉ ['\''] := by decide
  have hmiddle : '"' ∉ l₁.text ++ '&' :: (l₂.text ++ (n.text ++ (r₁.text ++ '&' :: r₂.text))) := by
    simp [hblank, hn]
  have hclose : '"' ∉ '\'' :: castOf cast := by simp [hcast]
  have hwritten (rest : Text) : (Fragment.spliced l₁ l₂ n r₁ r₂ cast).written ++ rest =
      ['\''] ++ '"' :: ((l₁.text ++ '&' :: (l₂.text ++ (n.text ++ (r₁.text ++ '&' :: r₂.text)))) ++
        '"' :: (('\'' :: castOf cast) ++ rest)) := by
    simp [Fragment.written]
  rw [hwritten, hwritten, halveQuotes_append_of_not_mem hopen, halveQuotes_lone]
  · rw [halveQuotes_append_of_not_mem hmiddle, halveQuotes_lone (by simp),
      halveQuotes_append_of_not_mem hclose]
  · rw [List.append_assoc]
    exact head?_append_ne (hblank l₁) (by decide) _

theorem halveQuotes_fragments (fs : List Fragment) :
    halveQuotes (fs.flatMap Fragment.written) = fs.flatMap Fragment.unescaped := by
  induction fs with
  | nil => simp [halveQuotes]
  | cons f fs ih =>
    rw [List.flatMap_cons, List.flatMap_cons]
    cases f with
    | text t u h =>
      rw [Fragment.written, halveQuotes_escape_append, ih, Fragment.unescaped]
    | named n cast =>
      have hn := n.not_mem (c := '"') (by decide)
      have hcast := not_mem_castOf (c := '"') (by decide) (by decide) cast
      have hquote : '"' ∉ (Fragment.named n cast).written := by
        simp [Fragment.written, hn, hcast]
      rw [halveQuotes_append_of_not_mem hquote, ih, Fragment.unescaped]
    | spliced l₁ l₂ n r₁ r₂ cast =>
      rw [halveQuotes_spliced, ih, Fragment.unescaped]

theorem marked_disjoint {t u : Text} (h : Marked marks t u) (ht : List.Disjoint t ['@', '&']) :
    List.Disjoint u ['@', '&'] := by
  have hat : '@' ∉ u := h.not_mem (by decide) fun hc => ht hc (by simp)
  have hamp : '&' ∉ u := h.not_mem (by decide) fun hc => ht hc (by simp)
  intro c hc hbanned
  simp only [List.mem_cons, List.not_mem_nil, or_false] at hbanned
  cases hbanned with
  | inl h => exact hat (h ▸ hc)
  | inr h => exact hamp (h ▸ hc)

theorem castOf_head {cast : Option Name} {rest : Text}
    (h : cast = none → rest.head?.any isWord = false) :
    (castOf cast ++ rest).head?.any isWord = false := by
  cases cast with
  | none => exact h rfl
  | some n => rfl

theorem replaceReferences_fragments {fs : List Fragment} (hlacks : ∀ f ∈ fs, f.Lacks ['@', '&'])
    (hsep : Separated fs) {a : Text} (ha : List.Disjoint a ['@', '&']) :
    replaceReferences (a ++ fs.flatMap Fragment.unescaped) =
      a ++ fs.flatMap Fragment.replaced := by
  induction fs generalizing a with
  | nil => simpa [replaceReferences] using @replaceReferences_text a [] ha (by simp)
  | cons f fs ih =>
    have ih {b : Text} (hb : List.Disjoint b ['@', '&']) :=
      ih (fun g hg => hlacks g (List.mem_cons_of_mem f hg)) hsep.tail hb
    have hrest : replaceReferences (fs.flatMap Fragment.unescaped) =
        fs.flatMap Fragment.replaced := ih (List.disjoint_nil_left _)
    have hcast (cast : Option Name) :=
      replaceReferences_append (castOf_disjoint cast) (fs.flatMap Fragment.unescaped)
    rw [List.flatMap_cons, List.flatMap_cons]
    cases f with
    | text t u h =>
      have hu : List.Disjoint u ['@', '&'] := marked_disjoint h (hlacks (.text t u h) (by simp))
      rw [Fragment.unescaped, Fragment.replaced, ← List.append_assoc, ← List.append_assoc,
        ih (List.disjoint_append_left.2 ⟨ha, hu⟩)]
    | named n cast =>
      have hhead : (castOf cast ++ fs.flatMap Fragment.unescaped).head?.any isWord = false := by
        refine castOf_head ?_
        rintro rfl
        exact hsep n fs (List.suffix_refl _)
      rw [replaceReferences_text ha (by simp [Fragment.unescaped, Fragment.written]),
        Fragment.unescaped, Fragment.written, List.cons_append, List.append_assoc,
        replaceReferences_named n hhead, hcast, hrest]
      simp [Fragment.replaced, Fragment.meaning]
    | spliced l₁ l₂ n r₁ r₂ cast =>
      have hwritten (rest : Text) : (Fragment.spliced l₁ l₂ n r₁ r₂ cast).written ++ rest =
          '\'' :: '"' :: (l₁.text ++ '&' :: (l₂.text ++ (n.text ++ (r₁.text ++ '&' :: (r₂.text ++
            '"' :: '\'' :: (castOf cast ++ rest)))))) := by
        simp [Fragment.written]
      rw [replaceReferences_text ha (by simp [Fragment.unescaped, Fragment.written]),
        Fragment.unescaped, hwritten, replaceReferences_spliced, hcast, hrest]
      simp [Fragment.replaced, Fragment.meaning]

theorem marked_fragments (fs : List Fragment) :
    Marked marks (fs.flatMap Fragment.meaning) (fs.flatMap Fragment.replaced) := by
  induction fs with
  | nil => exact .nil
  | cons f fs ih =>
    rw [List.flatMap_cons, List.flatMap_cons]
    refine Marked.append ?_ ih
    cases f with
    | text t u h => exact h
    | named n cast => exact Marked.refl _ _
    | spliced l₁ l₂ n r₁ r₂ cast => exact Marked.refl _ _

theorem query_text_fragments {s : Settings} (hreferences : s.replaceReferences = true)
    (hhost : Wrapper.QuoteFree s.host) (hdatabase : Wrapper.QuoteFree s.database)
    {ps : Parameters} (hnames : ∀ n ∈ ps.names, Wrapper.QuoteFree n) {fs : List Fragment}
    (hlacks : ∀ f ∈ fs, f.Lacks ['@', '&']) (hsep : Separated fs)
    (hmarks : Unmarked (fs.flatMap Fragment.meaning)) :
    query s (Wrapper.text s ps (fs.flatMap Fragment.written)) = fs.flatMap Fragment.meaning := by
  have hsource : source (Wrapper.text s ps (fs.flatMap Fragment.written)) =
      (fs.flatMap Fragment.written, true) := by
    rw [source, Wrapper.body?_text hhost hdatabase hnames]
  have hreplaced : replaceReferences (fs.flatMap Fragment.unescaped) =
      fs.flatMap Fragment.replaced :=
    replaceReferences_fragments hlacks hsep (List.disjoint_nil_left _)
  have hstages : stages s true = [.halveQuotes, .replaceReferences, .unmark] := by
    simp [stages, hreferences]
  rw [query, hsource, hstages]
  simp only [List.foldl_cons, List.foldl_nil, Stage.apply]
  rw [halveQuotes_fragments, hreplaced, unmark_of_marked (marked_fragments fs) hmarks]

def Fragment.Plain : Fragment → Prop
  | text t _ _ => t ≠ [] ∧ List.Disjoint t ['@', '&'] ∧ Unmarked t
  | named _ _ => True
  | spliced _ _ _ _ _ _ => True

instance : (f : Fragment) → Decidable f.Plain
  | .text t _ _ => inferInstanceAs (Decidable (t ≠ [] ∧ List.Disjoint t ['@', '&'] ∧ Unmarked t))
  | .named _ _ => isTrue trivial
  | .spliced _ _ _ _ _ _ => isTrue trivial

/-- What may be asked of two fragments in a row: texts do not stand together, and a name without a
cast ends where the text behind it begins. -/
def Fragment.Precedes : Fragment → Fragment → Prop
  | text _ _ _, text _ _ _ => False
  | named _ none, text t _ _ => t.head?.any isWord = false
  | _, _ => True

theorem separated_of_isChain {fs : List Fragment} (hplain : ∀ f ∈ fs, f.Plain)
    (hchain : fs.IsChain Fragment.Precedes) : Separated fs := by
  intro n rest hrest
  have hchain : (Fragment.named n none :: rest).IsChain Fragment.Precedes := hchain.suffix hrest
  cases rest with
  | nil => rfl
  | cons g rest =>
    have hprecedes := (List.isChain_cons_cons.1 hchain).1
    rw [List.flatMap_cons]
    cases g with
    | text t u h =>
      have ht := hplain _ (hrest.subset (List.mem_cons_of_mem _ List.mem_cons_self))
      obtain ⟨c, v, rfl⟩ := List.exists_cons_of_ne_nil (h.ne_nil markShape_of_mem ht.1)
      exact h.head?_any_isWord markShape_of_mem hprecedes
    | named n cast => rfl
    | spliced l₁ l₂ n r₁ r₂ cast => rfl

theorem unmarked_meaning {fs : List Fragment} (hplain : ∀ f ∈ fs, f.Plain)
    (hchain : fs.IsChain Fragment.Precedes) : Unmarked (fs.flatMap Fragment.meaning) := by
  induction fs with
  | nil => decide
  | cons f fs ih =>
    have ih := ih (fun g hg => hplain g (List.mem_cons_of_mem f hg)) hchain.tail
    rw [List.flatMap_cons]
    cases f with
    | text t u h =>
      have ht : Unmarked t := (hplain (.text t u h) (by simp)).2.2
      rw [Fragment.meaning]
      cases fs with
      | nil => simpa using ht
      | cons g fs =>
        have hprecedes := (List.isChain_cons_cons.1 hchain).1
        rw [List.flatMap_cons] at ih ⊢
        cases g with
        | text => exact absurd hprecedes id
        | named n cast => exact ht.append_cons (by decide) ih
        | spliced l₁ l₂ n r₁ r₂ cast => exact ht.append_cons (by decide) ih
    | named n cast =>
      have hn := n.not_mem (c := '#') (by decide)
      have hcast := not_mem_castOf (c := '#') (by decide) (by decide) cast
      exact ih.append (by simp [Fragment.meaning, hn, hcast])
    | spliced l₁ l₂ n r₁ r₂ cast =>
      have hn := n.not_mem (c := '#') (by decide)
      have hcast := not_mem_castOf (c := '#') (by decide) (by decide) cast
      exact ih.append (by simp [Fragment.meaning, hn, hcast])

/-- A wrapped body of fragments is translated fragment by fragment. -/
theorem run_ofPowerBI_fragments {s : Settings} (hreferences : s.replaceReferences = true)
    (hhost : List.Disjoint s.host ['"', '\'']) (hdatabase : List.Disjoint s.database ['"', '\''])
    {ps : Parameters} (hnames : ∀ n ∈ ps.names, List.Disjoint n ['"', '\''])
    {fs : List Fragment} (hplain : ∀ f ∈ fs, f.Plain) (hchain : fs.IsChain Fragment.Precedes)
    (j j' : Journal) :
    ((ofPowerBI s ((wrap s ps (fs.flatMap Fragment.written)).run j).1).run j').1 =
      fs.flatMap Fragment.meaning := by
  have hlacks : ∀ f ∈ fs, f.Lacks ['@', '&'] := by
    intro f hf
    have hf := hplain f hf
    cases f with
    | text t u h => exact hf.2.1
    | named n cast => trivial
    | spliced l₁ l₂ n r₁ r₂ cast => trivial
  have hwrap : ((wrap s ps (fs.flatMap Fragment.written)).run j).1 =
      Wrapper.text s ps (fs.flatMap Fragment.written) := rfl
  rw [run_ofPowerBI_fst, hwrap]
  exact query_text_fragments hreferences (Wrapper.quoteFree_of_disjoint hhost)
    (Wrapper.quoteFree_of_disjoint hdatabase)
    (fun n hn => Wrapper.quoteFree_of_disjoint (hnames n hn)) hlacks
    (separated_of_isChain hplain hchain) (unmarked_meaning hplain hchain)

def startBody : List Fragment :=
  [.text ("\"a\"".toList ++ '\n' :: "> ".toList) ("\"a\"".toList ++ ("#(LF)".toList ++ "> ".toList))
      ((Marked.refl marks _).append
        (.mark (m := lineFeedMark) (by decide) (by decide) (Marked.refl marks _))),
    .named ⟨"start".toList, by decide, by decide⟩ (some ⟨"date".toList, by decide, by decide⟩),
    .text " and b = ".toList " and b = ".toList (Marked.refl marks _),
    .spliced ⟨[' '], by decide⟩ ⟨['\n'], by decide⟩ ⟨"kind".toList, by decide, by decide⟩
      Blanks.none Blanks.none none]

theorem run_ofPowerBI_startBody :
    ((ofPowerBI {} ((wrap {} ⟨["start".toList, "kind".toList]⟩
      "\"\"a\"\"#(LF)> @start::date and b = '\" &\nkind&\"'".toList).run .capture).1).run
        .capture).1 =
          "\"a\"\n> \x7b\x7bstart\x7d\x7d::date and b = '\x7b\x7bkind\x7d\x7d'".toList := by
  have hplain : ∀ f ∈ startBody, f.Plain := by decide +kernel
  have hchain : startBody.IsChain Fragment.Precedes := by
    simp [startBody, Fragment.Precedes]
  have hnames : ∀ n ∈ ["start".toList, "kind".toList], List.Disjoint n ['"', '\''] := by decide
  have hwritten : startBody.flatMap Fragment.written =
      "\"\"a\"\"#(LF)> @start::date and b = '\" &\nkind&\"'".toList := by
    decide +kernel
  have hmeaning : startBody.flatMap Fragment.meaning =
      "\"a\"\n> \x7b\x7bstart\x7d\x7d::date and b = '\x7b\x7bkind\x7d\x7d'".toList := by
    decide +kernel
  rw [← hwritten, ← hmeaning]
  exact run_ofPowerBI_fragments rfl (by decide)
    (by decide) hnames hplain hchain .capture .capture

end QueryBridge.Metabase
