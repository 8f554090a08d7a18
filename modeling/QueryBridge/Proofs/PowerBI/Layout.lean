import Mathlib.Data.List.Basic
import QueryBridge.PowerBI.OfMetabase
import QueryBridge.Proofs.Text.Search

/-!
The lines of a generated wrapper. But for the database and the body each is an indented phrase,
possibly behind a parameter that is set equal to itself.
-/

namespace QueryBridge.PowerBI.Wrapper

def openingLines (s : Settings) (ps : Parameters) : List Text :=
  ["let".toList] ++ orEmptyLine (ps.names.map (declaration s.tab)) ++
    [s.tab ++ "Source = Value.NativeQuery(".toList]

def indent (s : Settings) (depth : Nat) : Text :=
  (List.replicate depth s.tab).flatten

def phrases : List Text :=
  ["let".toList, "Source = Value.NativeQuery(".toList, "null,".toList, "[".toList, "],".toList,
    "[EnableFolding = true]".toList, ")".toList, "in".toList, "Source".toList, []]

def endings : List Text :=
  [[], ",".toList, ", /* fill in type */".toList]

/-- What a line may look like that has neither the database nor the body in it. -/
def Ordinary (s : Settings) (ps : Parameters) (l : Text) : Prop :=
  ∃ depth, (∃ w ∈ phrases, l = indent s depth ++ w) ∨
    ∃ n ∈ ps.names, ∃ w ∈ endings, l = indent s depth ++ (n ++ (" = ".toList ++ (n ++ w)))

theorem ordinary_phrase {s : Settings} {ps : Parameters} {w : Text} (depth : Nat)
    (hw : w ∈ phrases) : Ordinary s ps (indent s depth ++ w) :=
  ⟨depth, .inl ⟨w, hw, rfl⟩⟩

theorem ordinary_name {s : Settings} {ps : Parameters} {n w : Text} (depth : Nat)
    (hn : n ∈ ps.names) (hw : w ∈ endings) :
    Ordinary s ps (indent s depth ++ (n ++ (" = ".toList ++ (n ++ w)))) :=
  ⟨depth, .inr ⟨n, hn, w, hw, rfl⟩⟩

def ordinaryChars : Text :=
  [' ', '\t'] ++ (phrases ++ [" = ".toList] ++ endings).flatten

theorem mem_tab {s : Settings} {c : Char} (h : c ∈ s.tab) : c ∈ [' ', '\t'] := by
  unfold Settings.tab at h
  split at h
  · simp [List.eq_of_mem_replicate h]
  · simp [List.mem_singleton.1 h]

theorem mem_indent {s : Settings} {depth : Nat} {c : Char} (h : c ∈ indent s depth) :
    c ∈ [' ', '\t'] := by
  obtain ⟨t, ht, hc⟩ := List.mem_flatten.1 h
  rw [List.eq_of_mem_replicate ht] at hc
  exact mem_tab hc

theorem Ordinary.mem_or {s : Settings} {ps : Parameters} {l : Text} {c : Char}
    (h : Ordinary s ps l) (hc : c ∈ l) : c ∈ ordinaryChars ∨ ∃ n ∈ ps.names, c ∈ n := by
  have hfixed {w : Text} (hw : w ∈ phrases ++ [" = ".toList] ++ endings) (hc : c ∈ w) :
      c ∈ ordinaryChars := List.mem_append_right _ (List.mem_flatten_of_mem hw hc)
  obtain ⟨depth, ⟨w, hw, rfl⟩ | ⟨n, hn, w, hw, rfl⟩⟩ := h
  · cases List.mem_append.1 hc with
    | inl hc => exact .inl (List.mem_append_left _ (mem_indent hc))
    | inr hc => exact .inl (hfixed (by simp [hw]) hc)
  · simp only [List.mem_append] at hc
    obtain hc | hc | hc | hc | hc := hc
    · exact .inl (List.mem_append_left _ (mem_indent hc))
    · exact .inr ⟨n, hn, hc⟩
    · exact .inl (hfixed (by simp) hc)
    · exact .inr ⟨n, hn, hc⟩
    · exact .inl (hfixed (by simp [hw]) hc)

theorem indent_one (s : Settings) : indent s 1 = s.tab := by
  simp [indent]

theorem indent_two (s : Settings) : indent s 2 = s.tab ++ s.tab := by
  simp [indent]

theorem indent_three (s : Settings) : indent s 3 = s.tab ++ s.tab ++ s.tab := by
  simp [indent]

theorem mem_orEmptyLine {l : Text} {ls : List Text} (h : l ∈ orEmptyLine ls) :
    l = [] ∨ l ∈ ls := by
  cases ls with
  | nil => exact .inl (List.mem_singleton.1 h)
  | cons m ms => exact .inr h

theorem mem_commaSeparated {l : Text} {ls : List Text} (h : l ∈ commaSeparated ls) :
    ∃ m ∈ ls, l = m ∨ l = m ++ [','] := by
  fun_induction commaSeparated ls with
  | case1 => simp at h
  | case2 line => exact ⟨line, by simp, .inl (List.mem_singleton.1 h)⟩
  | case3 line next lines ih =>
    cases List.mem_cons.1 h with
    | inl h => exact ⟨line, by simp, .inr h⟩
    | inr h =>
      obtain ⟨m, hm, hl⟩ := ih h
      exact ⟨m, List.mem_cons_of_mem line hm, hl⟩

theorem linesBefore_eq (s : Settings) (ps : Parameters) :
    linesBefore s ps = openingLines s ps ++ [databaseLine s] := by
  simp only [linesBefore, openingLines, List.append_assoc, List.cons_append, List.nil_append]

theorem ordinary_of_mem_openingLines {s : Settings} {ps : Parameters} {l : Text}
    (h : l ∈ openingLines s ps) : Ordinary s ps l := by
  simp only [openingLines, List.mem_append, List.mem_singleton] at h
  obtain (rfl | h) | rfl := h
  · exact ordinary_phrase 0 (by decide)
  · cases mem_orEmptyLine h with
    | inl h => exact h ▸ ordinary_phrase 0 (w := []) (by decide)
    | inr h =>
      obtain ⟨n, hn, rfl⟩ := List.mem_map.1 h
      have hline := ordinary_name (s := s) 1 hn (w := ", /* fill in type */".toList) (by decide)
      rw [indent_one] at hline
      simpa only [declaration, List.append_assoc] using hline
  · rw [← indent_one s]
    exact ordinary_phrase 1 (by decide)

theorem ordinary_of_mem_recordLines {s : Settings} {ps : Parameters} {l : Text}
    (h : l ∈ recordLines s ps) : Ordinary s ps l := by
  unfold recordLines at h
  split at h
  · rw [List.mem_singleton.1 h, ← indent_two s]
    exact ordinary_phrase 2 (by decide)
  · simp only [List.mem_append, List.mem_singleton] at h
    obtain (rfl | h) | rfl := h
    · rw [← indent_two s]
      exact ordinary_phrase 2 (by decide)
    · cases mem_orEmptyLine h with
      | inl h => exact h ▸ ordinary_phrase 0 (w := []) (by decide)
      | inr h =>
        obtain ⟨m, hm, hl⟩ := mem_commaSeparated h
        obtain ⟨n, hn, rfl⟩ := List.mem_map.1 hm
        rw [entry, ← indent_three s] at hl
        cases hl with
        | inl hl =>
          have hline := ordinary_name (s := s) 3 hn (w := []) (by decide)
          simpa only [hl, List.append_assoc, List.append_nil] using hline
        | inr hl =>
          have hline := ordinary_name (s := s) 3 hn (w := [',']) (by decide)
          simpa only [hl, List.append_assoc] using hline
    · rw [← indent_two s]
      exact ordinary_phrase 2 (by decide)

theorem ordinary_of_mem_linesAfter {s : Settings} {ps : Parameters} {l : Text}
    (h : l ∈ linesAfter s ps) : Ordinary s ps l := by
  simp only [linesAfter, List.mem_append, List.mem_cons, List.not_mem_nil, or_false] at h
  obtain h | rfl | rfl | rfl | rfl := h
  · exact ordinary_of_mem_recordLines h
  · rw [← indent_two s]
    exact ordinary_phrase 2 (by decide)
  · rw [← indent_one s]
    exact ordinary_phrase 1 (by decide)
  · exact ordinary_phrase 0 (by decide)
  · rw [← indent_one s]
    exact ordinary_phrase 1 (by decide)

end QueryBridge.PowerBI.Wrapper
