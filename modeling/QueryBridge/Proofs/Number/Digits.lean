import Mathlib.Data.Nat.Digits.Lemmas
import Mathlib.Tactic.Ring
import QueryBridge.Number.Reading

/-!
The whole number that a row of digits writes, with its size.
-/

namespace QueryBridge

def IsDigits (ds : Text) : Prop :=
  ∀ d ∈ ds, d.isDigit = true

def digitOf (d : Char) : ℕ :=
  d.toNat - '0'.toNat

def written (ds : Text) : ℕ :=
  Nat.ofDigits 10 (ds.reverse.map digitOf)

theorem digitOf_bounds {d : Char} (h : d.isDigit = true) :
    digitOf d < 10 ∧ (d ≠ '0' → 1 ≤ digitOf d) := by
  have hd : '0'.toNat ≤ d.toNat ∧ d.toNat ≤ '9'.toNat := by
    simpa [Char.isDigit, UInt32.le_iff_toNat_le] using h
  have h9 : '9'.toNat = '0'.toNat + 9 := rfl
  unfold digitOf
  refine ⟨by omega, fun hne => ?_⟩
  have hzero : d.toNat ≠ '0'.toNat := mt Char.toNat_inj.1 hne
  omega

theorem written_nil : written [] = 0 :=
  rfl

theorem written_append (ds ds' : Text) :
    written (ds ++ ds') = written ds * 10 ^ ds'.length + written ds' := by
  rw [written, List.reverse_append, List.map_append, Nat.ofDigits_append, List.length_map,
    List.length_reverse, written, written]
  ring

theorem written_singleton (d : Char) : written [d] = digitOf d :=
  Nat.ofDigits_singleton

theorem written_cons (d : Char) (ds : Text) :
    written (d :: ds) = digitOf d * 10 ^ ds.length + written ds := by
  rw [← written_singleton, ← written_append, List.singleton_append]

theorem digitsValue_eq (ds : Text) : Number.digitsValue ds = written ds := by
  induction ds using List.reverseRecOn with
  | nil => rfl
  | append_singleton ds d ih =>
    rw [written_append, ← ih, written_singleton, Number.digitsValue, List.foldl_append,
      List.foldl_cons, List.foldl_nil, List.length_singleton, pow_one, mul_comm]
    rfl

theorem written_dropWhile_zero (ds : Text) : written (ds.dropWhile (· = '0')) = written ds := by
  induction ds with
  | nil => rfl
  | cons d ds ih =>
    by_cases h : d = '0'
    · have hzero : digitOf '0' = 0 := rfl
      rw [List.dropWhile_cons_of_pos (by simpa using h), ih, written_cons, h, hzero, zero_mul,
        zero_add]
    · rw [List.dropWhile_cons_of_neg (by simpa using h)]

theorem written_lt {ds : Text} (h : IsDigits ds) : written ds < 10 ^ ds.length := by
  have hlt := Nat.ofDigits_lt_base_pow_length (b := 10) (l := ds.reverse.map digitOf)
    (by decide) (by simpa using fun d hd => (digitOf_bounds (h d hd)).1)
  rwa [List.length_map, List.length_reverse] at hlt

theorem le_written {d : Char} {ds : Text} (hd : d.isDigit = true) (h0 : d ≠ '0') :
    10 ^ ds.length ≤ written (d :: ds) := by
  rw [written_cons]
  exact le_add_right (Nat.le_mul_of_pos_left _ ((digitOf_bounds hd).2 h0))

end QueryBridge
