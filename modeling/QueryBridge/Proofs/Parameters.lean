import QueryBridge.Parameters

/-!
Recording many names. Those that are new come behind the known ones, each where it is met first.
-/

namespace QueryBridge.Parameters

theorem insert_of_mem {ps : Parameters} {name : Text} (h : name ∈ ps.names) :
    ps.insert name = ps := by
  simp [insert, h]

theorem insert_of_not_mem {ps : Parameters} {name : Text} (h : name ∉ ps.names) :
    ps.insert name = ⟨ps.names ++ [name]⟩ := by
  simp [insert, h]

theorem names_insertAll (ps : Parameters) (names : List Text) :
    (ps.insertAll names).names =
      ps.names ++ (names.filter fun n => !ps.contains n).eraseDups := by
  induction names generalizing ps with
  | nil => simp [insertAll]
  | cons n names ih =>
    have hstep : ps.insertAll (n :: names) = (ps.insert n).insertAll names := rfl
    rw [hstep, ih]
    by_cases hn : n ∈ ps.names
    · have hknown : (!ps.contains n) = false := by simp [hn]
      rw [insert_of_mem hn, List.filter_cons_of_neg (by simp [hknown])]
    · have hnew : ((n :: names).filter fun m => !ps.contains m) =
          n :: names.filter fun m => !ps.contains m :=
        List.filter_cons_of_pos (by simp [contains, hn])
      have hrest : (names.filter fun m => !contains ⟨ps.names ++ [n]⟩ m) =
          (names.filter fun m => !ps.contains m).filter fun m => !m == n := by
        rw [List.filter_filter]
        refine List.filter_congr fun m _ => ?_
        by_cases hm : m = n <;> simp [contains, hm]
      rw [insert_of_not_mem hn, hnew, List.eraseDups_cons, hrest]
      simp

theorem nodup_insertAll {ps : Parameters} (h : ps.names.Nodup) (names : List Text) :
    (ps.insertAll names).names.Nodup := by
  induction names generalizing ps with
  | nil => exact h
  | cons n names ih => exact ih (nodup_insert h n)

/-- Of the names recorded from the beginning each stands once, where it appears first. -/
theorem insertAll_empty (names : List Text) : empty.insertAll names = ⟨names.eraseDups⟩ := by
  have hnew : (names.filter fun n => !empty.contains n) = names :=
    List.filter_eq_self.2 fun n _ => by simp [empty, contains]
  have h := names_insertAll empty names
  rw [hnew] at h
  exact congrArg Parameters.mk h

end QueryBridge.Parameters
