import QueryBridge.Proofs.PowerBI.Detection

/-!
A generated query line by line. No name has a line feed in it and the stages leave none in the
body, so whatever the query was, the line feeds of the result are those between its lines.
-/

namespace QueryBridge.Metabase
open Text

theorem lineFeed_not_mem_name {s rest : Text} {t : Token}
    (h : Token.recognizer.read s = some (t, rest)) : '\n' ∉ t.name := by
  obtain ⟨o, -, h⟩ := Option.bind_eq_some_iff.1 (show Token.read s = some (t, rest) from h)
  obtain ⟨n, hcut, he⟩ := Option.map_eq_some_iff.1 h
  simp only [Prod.mk.injEq] at he
  obtain ⟨rfl, -⟩ := he
  obtain ⟨-, -, -, hplain, -⟩ := cut_eq_some_iff.1 hcut
  exact fun hc => by simpa using hplain '\n' hc

end QueryBridge.Metabase

namespace QueryBridge.PowerBI
open Text

theorem lineFeed_not_mem_finished {s : Settings} (hmarks : s.markBreaks = true) (t : Text) :
    '\n' ∉ finished s t := by
  intro h
  obtain ⟨d, hd, hc⟩ := List.mem_flatMap.1 h
  have hspaces : d = '\n' := by
    unfold spaceChar at hc
    split at hc
    · split at hc
      · exact absurd (List.eq_of_mem_replicate hc) (by decide)
      · exact (List.mem_singleton.1 hc).symm
    · exact (List.mem_singleton.1 hc).symm
  obtain ⟨e, -, he⟩ := List.mem_flatMap.1 hd
  unfold markChar at he
  rw [if_pos hmarks, hspaces] at he
  split at he
  · exact absurd he (by decide)
  · split at he
    · exact absurd he (by decide)
    · next hfeed _ => exact hfeed (List.mem_singleton.1 he).symm

theorem lineFeed_not_mem_of_mem_names {s : Settings} {q n : Text}
    (h : n ∈ (draft s q).parameters.names) : '\n' ∉ n := by
  obtain ⟨-, t, ht, rfl⟩ := exists_token_of_mem_names h
  obtain ⟨u, rest, hread⟩ := Metabase.Token.recognizer.exists_read_of_mem_hits ht
  exact Metabase.lineFeed_not_mem_name hread

namespace Wrapper

theorem lineFeed_not_mem_lines {s : Settings} {ps : Parameters} {body : Text}
    (hhost : '\n' ∉ s.host) (hdatabase : '\n' ∉ s.database) (hnames : ∀ n ∈ ps.names, '\n' ∉ n)
    (hbody : '\n' ∉ body) : ∀ l ∈ lines s ps body, '\n' ∉ l := by
  have htab : '\n' ∉ s.tab := fun h => absurd (mem_tab h) (by decide)
  have hordinary {l : Text} (hl : Ordinary s ps l) : '\n' ∉ l := by
    intro hc
    cases hl.mem_or hc with
    | inl hc => exact absurd hc (by decide)
    | inr hc =>
      obtain ⟨n, hn, hc⟩ := hc
      exact hnames n hn hc
  intro l hl
  rw [lines, linesBefore_eq] at hl
  simp only [List.mem_append, List.mem_singleton] at hl
  obtain ((hl | rfl) | rfl) | hl := hl
  · exact hordinary (ordinary_of_mem_openingLines hl)
  · simp [databaseLine, htab, hhost, hdatabase]
  · simp [bodyLine, htab, hbody]
  · exact hordinary (ordinary_of_mem_linesAfter hl)

theorem splitOn_text {s : Settings} {ps : Parameters} {body : Text} (hhost : '\n' ∉ s.host)
    (hdatabase : '\n' ∉ s.database) (hnames : ∀ n ∈ ps.names, '\n' ∉ n) (hbody : '\n' ∉ body) :
    (text s ps body).splitOn '\n' = lines s ps body := by
  have hne : lines s ps body ≠ [] := by simp [lines]
  exact List.splitOn_intercalate '\n' (lineFeed_not_mem_lines hhost hdatabase hnames hbody) hne

theorem orEmptyLine_map (f : Text → Text) (names : List Text) :
    orEmptyLine (names.map f) = if names = [] then [[]] else names.map f := by
  cases names with
  | nil => rfl
  | cons n names => rfl

theorem commaSeparated_eq (ls : List Text) :
    commaSeparated ls = ls.dropLast.map (· ++ [',']) ++ ls.getLast?.toList := by
  fun_induction commaSeparated ls with
  | case1 => rfl
  | case2 line => rfl
  | case3 line next lines ih => simp [ih]

theorem orEmptyLine_commaSeparated (f : Text → Text) (names : List Text) :
    orEmptyLine (commaSeparated (names.map f)) =
      if names = [] then [[]]
      else names.dropLast.map (fun p => f p ++ [',']) ++ names.getLast?.toList.map f := by
  have hlines : commaSeparated (names.map f) =
      names.dropLast.map (fun p => f p ++ [',']) ++ names.getLast?.toList.map f := by
    rw [commaSeparated_eq, ← List.map_dropLast, List.map_map, List.getLast?_map,
      Option.toList_map]
    rfl
  cases names with
  | nil => rfl
  | cons n names =>
    rw [if_neg (by simp), ← hlines]
    cases names with
    | nil => rfl
    | cons m names => rfl

end Wrapper

/-- Whatever the query was, these are the lines of what it goes to. -/
theorem splitOn_ofMetabase {s : Settings} (hmarks : s.markBreaks = true) (hhost : '\n' ∉ s.host)
    (hdatabase : '\n' ∉ s.database) (q : Text) (j : Journal) :
    ∃ names body, ((Stage.runAll (stages s) ⟨q, .empty⟩).run j).1 = ⟨body, ⟨names⟩⟩ ∧
      names.Nodup ∧ names = (namesMet s (clausesHandled s (doubleQuotes q))).eraseDups ∧
      ((ofMetabase s q).run j).1.splitOn '\n' =
        ["let".toList] ++
        (if names = [] then [[]]
          else names.map fun p =>
            s.tab ++ p ++ " = ".toList ++ p ++ ", /* fill in type */".toList) ++
        [s.tab ++ "Source = Value.NativeQuery(".toList,
          s.tab ++ s.tab ++ "PostgreSQL.Database(\"".toList ++ s.host ++ "\", \"".toList ++
            s.database ++ "\"),".toList,
          s.tab ++ s.tab ++ ['"'] ++ body ++ "\",".toList] ++
        (if names = [] ∧ s.replaceTokens = true then [s.tab ++ s.tab ++ "null,".toList]
          else
            [s.tab ++ s.tab ++ ['[']] ++
            (if names = [] then [[]]
              else
                names.dropLast.map (fun p =>
                  s.tab ++ s.tab ++ s.tab ++ p ++ " = ".toList ++ p ++ [',']) ++
                names.getLast?.toList.map fun p =>
                  s.tab ++ s.tab ++ s.tab ++ p ++ " = ".toList ++ p) ++
            [s.tab ++ s.tab ++ "],".toList]) ++
        [s.tab ++ s.tab ++ "[EnableFolding = true]".toList, s.tab ++ [')'], "in".toList,
          s.tab ++ "Source".toList] := by
  refine ⟨(draft s q).parameters.names, (draft s q).text, Stage.run_runAll_fst _ _ _, ?_,
    names_draft s q, ?_⟩
  · rw [draft_doubleQuotes]
    exact Parameters.nodup_insertAll List.nodup_nil _
  · have hnames : ∀ n ∈ (draft s q).parameters.names, '\n' ∉ n :=
      fun _ hn => lineFeed_not_mem_of_mem_names hn
    have hbody : '\n' ∉ (draft s q).text := by
      rw [draft_text]
      exact lineFeed_not_mem_finished hmarks _
    have hdeclaration : Wrapper.declaration s.tab = fun p =>
        s.tab ++ p ++ " = ".toList ++ p ++ ", /* fill in type */".toList := rfl
    have hentry (tab : Text) : Wrapper.entry tab = fun p => tab ++ p ++ " = ".toList ++ p := rfl
    have hnull : ((draft s q).parameters.isEmpty && s.replaceTokens) = true ↔
        (draft s q).parameters.names = [] ∧ s.replaceTokens = true := by
      simp [Parameters.isEmpty, Parameters.size]
    rw [run_ofMetabase_fst, query, Wrapper.splitOn_text hhost hdatabase hnames hbody]
    simp only [Wrapper.lines, Wrapper.linesBefore, Wrapper.linesAfter, Wrapper.recordLines,
      Wrapper.orEmptyLine_map, Wrapper.orEmptyLine_commaSeparated, Wrapper.databaseLine,
      Wrapper.bodyLine, hdeclaration, hentry, hnull, List.append_assoc, List.cons_append,
      List.nil_append]

def brokenTokenQuery : Text :=
  "from t\n[[where a = \x7b\x7b\n b \n\x7d\x7d]]\n".toList ++
    "and \x7b\x7bc\nd\x7d\x7d = \x7b\x7b\x7b\x7be \x7d\x7d or \x7b\x7bb\x7d\x7d".toList

theorem splitOn_ofMetabase_brokenTokenQuery :
    ({} : Settings).markBreaks = true ∧ '\n' ∉ ({} : Settings).host ∧
      '\n' ∉ ({} : Settings).database ∧
      ((ofMetabase {} brokenTokenQuery).run .capture).1.splitOn '\n' =
        ["let".toList,
          "\tb = b, /* fill in type */".toList,
          "\t\x7b\x7be = \x7b\x7be, /* fill in type */".toList,
          "\tSource = Value.NativeQuery(".toList,
          "\t\tPostgreSQL.Database(\"localhost\", \"postgres\"),".toList,
          "\t\t\"from t#(lf)where a = @b#(lf)".toList ++
            "and \x7b\x7bc#(lf)d\x7d\x7d = @\x7b\x7be or @b\",".toList,
          "\t\t[".toList,
          "\t\t\tb = b,".toList,
          "\t\t\t\x7b\x7be = \x7b\x7be".toList,
          "\t\t],".toList,
          "\t\t[EnableFolding = true]".toList,
          "\t)".toList,
          "in".toList,
          "\tSource".toList] := by
  have hhost : '\n' ∉ ({} : Settings).host := by decide
  have hdatabase : '\n' ∉ ({} : Settings).database := by decide
  refine ⟨rfl, hhost, hdatabase, ?_⟩
  obtain ⟨names, body, hdraft, -, -, hlines⟩ :=
    splitOn_ofMetabase (s := {}) rfl hhost hdatabase brokenTokenQuery .capture
  have hrun : draft {} brokenTokenQuery =
      ⟨"from t#(lf)where a = @b#(lf)and \x7b\x7bc#(lf)d\x7d\x7d = @\x7b\x7be or @b".toList,
        ⟨["b".toList, "\x7b\x7be".toList]⟩⟩ := by
    decide +kernel
  rw [Stage.run_runAll_fst] at hdraft
  have hfields := hrun.symm.trans hdraft
  simp only [Draft.mk.injEq, Parameters.mk.injEq] at hfields
  obtain ⟨rfl, rfl⟩ := hfields
  rw [hlines]
  decide +kernel

end QueryBridge.PowerBI
