import QueryBridge.Dialect
import QueryBridge.Proofs.PowerBI.Layout
import QueryBridge.Proofs.PowerBI.Marking

/-!
A generated wrapper is recognized for what it is. The marks of the two dialects are foreign to its
own words, so they stand in it only where the body, the database or a parameter has them.
-/

namespace QueryBridge.PowerBI.Wrapper
open Text

def brackets : List Char :=
  ['{', '}', '[', ']']

/-- The characters around what is put into a wrapper, and those that are spelled differently in
it. -/
def separators : List Char :=
  [' ', '\t', '\n', '\r', '"', ',']

def fixedTexts : List Text :=
  phrases ++ ["=".toList, " /* fill in type */".toList, "PostgreSQL.Database(".toList,
    ", ".toList, "),".toList, ",".toList]

/-- A text that a wrapper cannot have by itself. -/
structure Foreign (v : Text) : Prop where
  ne_nil : v ≠ []
  disjoint : List.Disjoint v separators
  fixed : ∀ w ∈ fixedTexts, ¬v <:+: w

namespace Foreign

variable {v : Text} {s : Settings} {ps : Parameters}

theorem not_mem (hv : Foreign v) {c : Char} (hc : c ∈ separators) : c ∉ v :=
  fun h => hv.disjoint h hc

theorem of_isInfix_indent (hv : Foreign v) {depth : Nat} {t : Text}
    (h : v <:+: indent s depth ++ t) : v <:+: t := by
  obtain ⟨c, u, rfl⟩ := List.exists_cons_of_ne_nil hv.ne_nil
  have hblank : ∀ c ∈ [' ', '\t'], c ∈ separators := by decide
  exact isInfix_of_cons_isInfix_append
    (fun hc => hv.disjoint List.mem_cons_self (hblank c (mem_indent hc))) h

theorem of_isInfix_ordinary (hv : Foreign v) {l : Text} (hl : Ordinary s ps l) (h : v <:+: l) :
    ∃ n ∈ ps.names, v <:+: n := by
  have hspace := hv.not_mem (c := ' ') (by decide)
  have hcomma := hv.not_mem (c := ',') (by decide)
  obtain ⟨depth, ⟨w, hw, rfl⟩ | ⟨n, hn, w, hw, rfl⟩⟩ := hl
  · exact absurd (hv.of_isInfix_indent h) (hv.fixed w (List.mem_append_left _ hw))
  · refine ⟨n, hn, ?_⟩
    have hequals : " = ".toList ++ (n ++ w) = ' ' :: ("=".toList ++ ' ' :: (n ++ w)) := rfl
    have h := hv.of_isInfix_indent h
    rw [hequals, isInfix_append_cons_iff hspace, isInfix_append_cons_iff hspace] at h
    have hendings : ∀ w ∈ endings, w = [] ∨ ∃ r ∈ fixedTexts, w = ',' :: r := by decide +kernel
    obtain h | h | h := h
    · exact h
    · exact absurd h (hv.fixed _ (by simp [fixedTexts]))
    · obtain rfl | ⟨r, hr, rfl⟩ := hendings w hw
      · rwa [List.append_nil] at h
      · exact ((isInfix_append_cons_iff hcomma).1 h).resolve_right (hv.fixed r hr)

theorem of_isInfix_databaseLine (hv : Foreign v) (h : v <:+: databaseLine s) :
    v <:+: s.host ∨ v <:+: s.database := by
  have hquote := hv.not_mem (c := '"') (by decide)
  have hline : databaseLine s = indent s 2 ++ ("PostgreSQL.Database(".toList ++ '"' :: (s.host ++
      '"' :: (", ".toList ++ '"' :: (s.database ++ '"' :: "),".toList)))) := by
    have hopen : "PostgreSQL.Database(\"".toList = "PostgreSQL.Database(".toList ++ ['"'] := by
      decide
    have hcomma : "\", \"".toList = '"' :: (", ".toList ++ ['"']) := by decide
    have hclose : "\"),".toList = '"' :: "),".toList := by decide
    rw [databaseLine, indent_two, hopen, hcomma, hclose]
    simp only [List.append_assoc, List.cons_append, List.nil_append]
  rw [hline] at h
  have h := hv.of_isInfix_indent h
  rw [isInfix_append_cons_iff hquote, isInfix_append_cons_iff hquote,
    isInfix_append_cons_iff hquote, isInfix_append_cons_iff hquote] at h
  obtain h | h | h | h | h := h
  · exact absurd h (hv.fixed _ (by simp [fixedTexts]))
  · exact .inl h
  · exact absurd h (hv.fixed _ (by simp [fixedTexts]))
  · exact .inr h
  · exact absurd h (hv.fixed _ (by simp [fixedTexts]))

theorem of_isInfix_bodyLine (hv : Foreign v) {body : Text} (h : v <:+: bodyLine s body) :
    v <:+: body := by
  have hquote := hv.not_mem (c := '"') (by decide)
  have hline : bodyLine s body = indent s 2 ++ ([] ++ '"' :: (body ++ '"' :: ",".toList)) := by
    have hclose : "\",".toList = '"' :: ",".toList := by decide
    rw [bodyLine, indent_two, hclose, List.append_assoc, List.cons_append, List.nil_append]
  rw [hline] at h
  have h := hv.of_isInfix_indent h
  rw [isInfix_append_cons_iff hquote, isInfix_append_cons_iff hquote] at h
  obtain h | h | h := h
  · exact absurd (List.infix_nil.1 h) hv.ne_nil
  · exact h
  · exact absurd h (hv.fixed _ (by simp [fixedTexts]))

theorem of_isInfix_text (hv : Foreign v) {body : Text} (h : v <:+: text s ps body) :
    v <:+: body ∨ v <:+: s.host ∨ v <:+: s.database ∨ ∃ n ∈ ps.names, v <:+: n := by
  obtain ⟨l, hl, h⟩ := exists_of_isInfix_joinLines hv.ne_nil (hv.not_mem (by decide)) h
  rw [lines, linesBefore_eq] at hl
  simp only [List.mem_append, List.mem_singleton] at hl
  obtain ((hl | rfl) | rfl) | hl := hl
  · exact .inr (.inr (.inr (hv.of_isInfix_ordinary (ordinary_of_mem_openingLines hl) h)))
  · cases hv.of_isInfix_databaseLine h with
    | inl h => exact .inr (.inl h)
    | inr h => exact .inr (.inr (.inl h))
  · exact .inl (hv.of_isInfix_bodyLine h)
  · exact .inr (.inr (.inr (hv.of_isInfix_ordinary (ordinary_of_mem_linesAfter hl) h)))

end Foreign

theorem foreign_pair {b : Char} (hb : b ∈ brackets) : Foreign [b, b] where
  ne_nil := by simp
  disjoint := by
    have h : ∀ b ∈ brackets, List.Disjoint [b, b] separators := by decide
    exact h b hb
  fixed := by
    have h : ∀ b ∈ brackets, ∀ w ∈ fixedTexts, ¬[b, b] <:+: w := by decide +kernel
    exact h b hb

theorem foreign_break {m v : Text} (hm : m ∈ [lineFeedMark, carriageReturnMark])
    (hv : v.map fold = m.map fold) : Foreign v := by
  have hshape : ∀ m ∈ [lineFeedMark, carriageReturnMark], MarkShape m := by decide
  have hseparators : ∀ m ∈ [lineFeedMark, carriageReturnMark], ∀ c ∈ separators,
      fold c ∉ m.map fold := by decide
  have hfixed : ∀ w ∈ fixedTexts, '#' ∉ w.map fold := by decide +kernel
  obtain ⟨d, r, rfl, hd, -⟩ := (hshape m hm).exists_cons hv
  refine ⟨by simp, fun c hc hsep => hseparators m hm c hsep ?_, fun w hw h => hfixed w hw ?_⟩
  · rw [← hv]
    exact List.mem_map_of_mem hc
  · rw [← hd]
    exact List.mem_map_of_mem (h.subset List.mem_cons_self)

theorem hasPowerBIMarks_of_unmarked {t : Text} (h : Unmarked t) :
    Dialect.hasPowerBIMarks t = false := by
  have hfeed := h ('\n', lineFeedMark) (by simp [marks])
  have hreturn := h ('\r', carriageReturnMark) (by simp [marks])
  simp [Dialect.hasPowerBIMarks, hfeed, hreturn]

theorem hasMetabaseMarks_iff {t : Text} :
    Dialect.hasMetabaseMarks t = true ↔ ∃ b ∈ brackets, [b, b] <:+: t := by
  simp [Dialect.hasMetabaseMarks, brackets, within_iff_isInfix, or_assoc]

theorem hasMetabaseMarks_eq_false {t : Text} (h : ∀ b ∈ brackets, ¬[b, b] <:+: t) :
    Dialect.hasMetabaseMarks t = false := by
  rw [Bool.eq_false_iff, ne_eq, hasMetabaseMarks_iff]
  rintro ⟨b, hb, hpair⟩
  exact h b hb hpair

theorem databaseLine_isInfix_text (s : Settings) (ps : Parameters) (body : Text) :
    databaseLine s <:+: text s ps body :=
  isInfix_joinLines_of_mem (by simp [lines, linesBefore])

theorem host_isInfix_text (s : Settings) (ps : Parameters) (body : Text) :
    s.host <:+: text s ps body := by
  refine List.IsInfix.trans ?_ (databaseLine_isInfix_text s ps body)
  refine ⟨s.tab ++ s.tab ++ "PostgreSQL.Database(\"".toList,
    "\", \"".toList ++ s.database ++ "\"),".toList, ?_⟩
  simp only [databaseLine, List.append_assoc]

theorem database_isInfix_text (s : Settings) (ps : Parameters) (body : Text) :
    s.database <:+: text s ps body := by
  refine List.IsInfix.trans ?_ (databaseLine_isInfix_text s ps body)
  refine ⟨s.tab ++ s.tab ++ "PostgreSQL.Database(\"".toList ++ s.host ++ "\", \"".toList,
    "\"),".toList, ?_⟩
  simp only [databaseLine, List.append_assoc]

theorem isInfix_text (s : Settings) (ps : Parameters) (body : Text) : body <:+: text s ps body := by
  have hline : bodyLine s body ∈ lines s ps body := by simp [lines]
  refine List.IsInfix.trans ?_ (isInfix_joinLines_of_mem hline)
  refine ⟨s.tab ++ s.tab ++ ['"'], "\",".toList, ?_⟩
  simp only [bodyLine, List.append_assoc, List.cons_append, List.nil_append]

theorem call_within_text (s : Settings) (ps : Parameters) (body : Text) :
    withinCaseless "NativeQuery(".toList (text s ps body) = true := by
  have hline : s.tab ++ "Source = Value.NativeQuery(".toList ∈ lines s ps body := by
    simp only [lines, linesBefore, List.mem_append, List.mem_cons, true_or, or_true]
  have hcall : "NativeQuery(".toList <:+: "Source = Value.NativeQuery(".toList :=
    ⟨"Source = Value.".toList, [], by decide⟩
  refine withinCaseless_iff.2 ⟨_, rfl, ?_⟩
  exact (hcall.trans (List.suffix_append s.tab _).isInfix).trans (isInfix_joinLines_of_mem hline)

end QueryBridge.PowerBI.Wrapper
