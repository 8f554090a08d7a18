import Mathlib.Data.List.TakeWhile
import QueryBridge.Proofs.Number.Digits
import QueryBridge.Proofs.Number.Rounding
import QueryBridge.Proofs.Text.Character

/-!
Reading a numeral. Its text has an exact decimal value, and what is read is the binary value nearest
to it; all other finite values stand for no text. The grammar says what a numeral looks like without
saying how it is taken apart.
-/

namespace QueryBridge

inductive SignText : Text → Bool → Prop
  | none : SignText [] false
  | plus : SignText ['+'] false
  | minus : SignText ['-'] true

inductive ExponentText : Text → ℤ → Prop
  | none : ExponentText [] 0
  | marked {c : Char} {sign ds : Text} {negative : Bool} : c = 'e' ∨ c = 'E' →
      SignText sign negative → ds ≠ [] → IsDigits ds →
      ExponentText (c :: (sign ++ ds)) (if negative then -written ds else written ds)

/-- An unsigned numeral and its value. A point may stand before, between or behind the digits. -/
inductive NumeralText : Text → ℚ → Prop
  | whole {ds t : Text} {e : ℤ} : ds ≠ [] → IsDigits ds → ExponentText t e →
      NumeralText (ds ++ t) (written ds * 10 ^ e)
  | pointed {ds fs t : Text} {e : ℤ} : ds ++ fs ≠ [] → IsDigits ds → IsDigits fs →
      ExponentText t e →
      NumeralText (ds ++ '.' :: (fs ++ t)) ((written ds + written fs / 10 ^ fs.length) * 10 ^ e)

/-- A numeral with its sign, which zero may have too, and its size. -/
def DecimalText (s : Text) (negative : Bool) (q : ℚ) : Prop :=
  ∃ sign t, s = sign ++ t ∧ SignText sign negative ∧ NumeralText t q

theorem takeWhile_digits {ds t : Text} (h : IsDigits ds) (ht : t.head?.any Char.isDigit = false) :
    (ds ++ t).takeWhile Char.isDigit = ds ∧ (ds ++ t).dropWhile Char.isDigit = t := by
  rw [List.takeWhile_append_of_pos h, List.dropWhile_append_of_pos h]
  cases t with
  | nil => simp
  | cons c t => simp_all

theorem isDigits_takeWhile (t : Text) : IsDigits (t.takeWhile Char.isDigit) :=
  fun _ h => List.mem_takeWhile_imp h

theorem ExponentText.head? {t : Text} {e : ℤ} (h : ExponentText t e) :
    t.head? = .none ∨ t.head? = some 'e' ∨ t.head? = some 'E' := by
  cases h with
  | none => exact .inl rfl
  | marked hc => rcases hc with rfl | rfl <;> simp

theorem ExponentText.no_digit {t : Text} {e : ℤ} (h : ExponentText t e) :
    t.head?.any Char.isDigit = false := by
  rcases h.head? with h | h | h <;> rw [h] <;> rfl

theorem NumeralText.front {t : Text} {q : ℚ} (h : NumeralText t q) :
    ∃ c s, t = c :: s ∧ (c.isDigit = true ∨ c = '.') := by
  cases h with
  | @whole ds t e hne hds ht =>
    obtain ⟨c, ds, rfl⟩ := List.exists_cons_of_ne_nil hne
    exact ⟨c, ds ++ t, rfl, .inl (hds c List.mem_cons_self)⟩
  | @pointed ds fs t e hne hds hfs ht =>
    cases ds with
    | nil => exact ⟨'.', fs ++ t, rfl, .inr rfl⟩
    | cons c ds => exact ⟨c, ds ++ '.' :: (fs ++ t), rfl, .inl (hds c List.mem_cons_self)⟩

theorem toLower_digit {c : Char} (h : c.isDigit = true) : c.toLower = c := by
  have hle : c.toNat ≤ 57 := by
    simp only [Char.isDigit, Bool.and_eq_true, decide_eq_true_eq] at h
    exact h.2
  exact Text.toLower_eq_self (by omega)

namespace Number

theorem exists_sign (s : Text) :
    ∃ sign, SignText sign (takeSign s).1 ∧ s = sign ++ (takeSign s).2 := by
  unfold takeSign
  split
  · exact ⟨['-'], .minus, rfl⟩
  · exact ⟨['+'], .plus, rfl⟩
  · exact ⟨[], .none, rfl⟩

theorem takeSign_append {sign t : Text} {negative : Bool} (h : SignText sign negative)
    (ht : t.head? ≠ some '-' ∧ t.head? ≠ some '+') : takeSign (sign ++ t) = (negative, t) := by
  cases h with
  | plus => rfl
  | minus => rfl
  | none =>
    rw [List.nil_append, takeSign]
    · rintro s rfl
      exact ht.1 rfl
    · rintro s rfl
      exact ht.2 rfl

theorem digits_head? {ds : Text} (h : IsDigits ds) :
    ds.head? ≠ some '-' ∧ ds.head? ≠ some '+' := by
  constructor
  · intro hc
    cases h '-' (List.mem_of_mem_head? hc)
  · intro hc
    cases h '+' (List.mem_of_mem_head? hc)

theorem readExponent_eq_some_iff {t : Text} {e : ℤ} :
    readExponent t = some e ↔ ExponentText t e := by
  cases t with
  | nil =>
    constructor
    · rintro ⟨⟩
      exact .none
    · rintro ⟨⟩
      rfl
  | cons c s =>
    constructor
    · intro h
      obtain ⟨sign, hsign, hs⟩ := exists_sign s
      rcases htake : takeSign s with ⟨negative, ds⟩
      rw [htake] at hsign hs
      simp only [readExponent, htake, Bool.and_eq_true, Bool.or_eq_true, decide_eq_true_eq, ne_eq,
        Option.ite_none_right_eq_some, Option.some.injEq, List.all_eq_true, digitsValue_eq] at h
      obtain ⟨⟨⟨hc, hne⟩, hall⟩, rfl⟩ := h
      rw [hs]
      exact .marked hc hsign hne hall
    · intro h
      cases h with
      | marked hc hsign hne hall =>
        simp [readExponent, takeSign_append hsign (digits_head? hall), hc, hne, digitsValue_eq]
        exact hall

def Numeral.quantity (n : Numeral) : ℚ :=
  written n.digits * 10 ^ n.exponent

structure Numeral.Proper (n : Numeral) : Prop where
  digits : IsDigits n.digits
  front : n.digits.head? ≠ some '0'

theorem Numeral.proper_dropZeros {ds : Text} (h : IsDigits ds) (e : ℤ) :
    Numeral.Proper ⟨ds.dropWhile (· = '0'), e⟩ := by
  refine ⟨fun d hd => h d ((List.dropWhile_sublist _).subset hd), fun h0 => ?_⟩
  have hfront := List.head?_dropWhile_not (fun c => decide (c = '0')) ds
  rw [h0] at hfront
  cases hfront

theorem pointed_quantity (ds fs : Text) (e : ℤ) :
    Numeral.quantity ⟨(ds ++ fs).dropWhile (· = '0'), e - (fs.length : ℤ)⟩ =
      (written ds + written fs / 10 ^ fs.length) * 10 ^ e := by
  have hpow : (10 : ℚ) ^ fs.length ≠ 0 := pow_ne_zero _ (by norm_num)
  rw [Numeral.quantity, written_dropWhile_zero, written_append, zpow_sub₀ (by norm_num),
    zpow_natCast, Nat.cast_add, Nat.cast_mul, Nat.cast_pow, Nat.cast_ofNat]
  field_simp

theorem whole_quantity (ds : Text) (e : ℤ) :
    Numeral.quantity ⟨(ds ++ []).dropWhile (· = '0'), e - (([] : Text).length : ℤ)⟩ =
      written ds * 10 ^ e := by
  rw [Numeral.quantity, written_dropWhile_zero, List.append_nil, List.length_nil, Nat.cast_zero,
    sub_zero]

theorem Numeral.read_spec {s : Text} {n : Numeral} (h : Numeral.read s = some n) :
    NumeralText s n.quantity ∧ n.Proper := by
  have hs : s.takeWhile Char.isDigit ++ s.dropWhile Char.isDigit = s :=
    List.takeWhile_append_dropWhile
  have hds := isDigits_takeWhile s
  simp only [Numeral.read] at h
  generalize s.takeWhile Char.isDigit = ds at h hs hds
  split at h
  · next t hrest =>
    have hfs := isDigits_takeWhile t
    simp only [Bool.and_eq_true, decide_eq_true_eq, ← List.append_eq_nil_iff,
      Option.ite_none_left_eq_some, Option.map_eq_some_iff, readExponent_eq_some_iff] at h
    obtain ⟨hne, e, he, rfl⟩ := h
    refine ⟨?_, proper_dropZeros (List.forall_mem_append.2 ⟨hds, hfs⟩) _⟩
    have htext := NumeralText.pointed hne hds hfs he
    rwa [List.takeWhile_append_dropWhile, ← hrest, hs, ← pointed_quantity] at htext
  · simp only [Bool.and_eq_true, decide_eq_true_eq, and_true, Option.ite_none_left_eq_some,
      Option.map_eq_some_iff, readExponent_eq_some_iff] at h
    obtain ⟨hne, e, he, rfl⟩ := h
    refine ⟨?_, proper_dropZeros (by rwa [List.append_nil]) _⟩
    have htext := NumeralText.whole hne hds he
    rwa [hs, ← whole_quantity] at htext

theorem Numeral.exists_read {s : Text} {q : ℚ} (h : NumeralText s q) :
    ∃ n, Numeral.read s = some n ∧ n.quantity = q := by
  cases h with
  | @whole ds t e hne hds ht =>
    obtain ⟨htake, hdrop⟩ := takeWhile_digits hds ht.no_digit
    refine ⟨_, ?_, whole_quantity ds e⟩
    simp only [Numeral.read, htake, hdrop]
    split
    · rcases ht.head? with h | h | h <;> cases h
    · simp [hne, readExponent_eq_some_iff.2 ht]
  | @pointed ds fs t e hne hds hfs ht =>
    obtain ⟨htake, hdrop⟩ := takeWhile_digits (t := '.' :: (fs ++ t)) hds rfl
    obtain ⟨htake', hdrop'⟩ := takeWhile_digits hfs ht.no_digit
    refine ⟨_, ?_, pointed_quantity ds fs e⟩
    simp only [Numeral.read, htake, hdrop, htake', hdrop', readExponent_eq_some_iff.2 ht,
      Option.map_some]
    rw [if_neg (by simpa using hne)]

theorem overflow_le_ten_pow : Dyadic.overflow ≤ 10 ^ 310 := by
  have hpow : (2 : ℚ) ^ 1024 ≤ 10 ^ 310 := by
    exact_mod_cast (by decide +kernel : 2 ^ 1024 ≤ 10 ^ 310)
  refine le_trans ?_ hpow
  have hsplit : (2 : ℚ) ^ 1024 = 2 ^ 53 * 2 ^ (971 : ℤ) := by
    rw [← zpow_natCast, ← zpow_natCast, ← zpow_add₀ two_ne_zero]
    rfl
  rw [hsplit, Dyadic.overflow]
  exact mul_le_mul_of_nonneg_right (by norm_num) (zpow_pos two_pos _).le

theorem ten_zpow_le : (10 : ℚ) ^ (-331 : ℤ) ≤ 2 ^ (-1075 : ℤ) := by
  rw [zpow_neg, zpow_neg]
  refine inv_anti₀ (zpow_pos two_pos _) ?_
  exact_mod_cast (by decide +kernel : 2 ^ 1075 ≤ 10 ^ 331)

namespace Numeral

variable {n : Numeral}

theorem quantity_nonneg (n : Numeral) : 0 ≤ n.quantity :=
  mul_nonneg (Nat.cast_nonneg _) (zpow_pos (by norm_num) _).le

theorem quantity_lt (hn : n.Proper) : n.quantity < 10 ^ (n.digits.length + n.exponent : ℤ) := by
  have hlt : (written n.digits : ℚ) < 10 ^ n.digits.length := by
    exact_mod_cast written_lt hn.digits
  rw [zpow_add₀ (by norm_num), zpow_natCast]
  exact mul_lt_mul_of_pos_right hlt (zpow_pos (by norm_num) _)

theorem le_quantity (hn : n.Proper) (hne : n.digits ≠ []) :
    10 ^ (n.digits.length + n.exponent - 1 : ℤ) ≤ n.quantity := by
  obtain ⟨digits, e⟩ := n
  cases digits with
  | nil => exact absurd rfl hne
  | cons d ds =>
    have hle : (10 : ℚ) ^ ds.length ≤ written (d :: ds) := by
      exact_mod_cast le_written (hn.digits d List.mem_cons_self) (mt (congrArg some) hn.front)
    have hexp : ((d :: ds).length + e - 1 : ℤ) = ds.length + e := by
      rw [List.length_cons]
      omega
    rw [hexp, zpow_add₀ (by norm_num), zpow_natCast]
    exact mul_le_mul_of_nonneg_right hle (zpow_pos (by norm_num) _).le

theorem rounds_value (hn : n.Proper) (negative : Bool) :
    Rounds negative n.quantity (n.value negative) := by
  unfold Numeral.value
  dsimp only
  split
  · next hnil =>
    have hzero : n.quantity = 0 := by
      rw [Numeral.quantity, hnil, written_nil, Nat.cast_zero, zero_mul]
    rw [hzero]
    exact rounds_zero negative le_rfl (zpow_pos two_pos _)
  · next hne =>
    split
    · next hlarge =>
      refine .infinite (overflow_le_ten_pow.trans (le_trans ?_ (le_quantity hn hne)))
      rw [← zpow_natCast]
      exact zpow_le_zpow_right₀ (by norm_num) (by push_cast; omega)
    · split
      · next hsmall =>
        refine rounds_zero negative n.quantity_nonneg ((quantity_lt hn).trans_le ?_)
        exact (zpow_le_zpow_right₀ (by norm_num) (by omega)).trans ten_zpow_le
      · have hquotient : ((written n.digits * powerNum 10 n.exponent : ℕ) : ℚ) /
            powerDen 10 n.exponent = n.quantity := by
          rw [Nat.cast_mul, mul_div_assoc, powerNum_div_powerDen (by decide), Nat.cast_ofNat,
            Numeral.quantity]
        rw [digitsValue_eq, ← hquotient]
        exact rounds_nearest negative (powerDen_pos (by decide) _)

end Numeral

theorem front_ne {c : Char} (h : c.isDigit = true ∨ c = '.') :
    c ≠ '-' ∧ c ≠ '+' ∧ c.toLower ≠ 'i' ∧ c.toLower ≠ 'n' := by
  rcases h with h | rfl
  · rw [toLower_digit h]
    refine ⟨?_, ?_, ?_, ?_⟩ <;> rintro rfl <;> cases h
  · decide

theorem read_append {sign t : Text} {negative : Bool} {q : ℚ} (hsign : SignText sign negative)
    (ht : NumeralText t q) :
    read (sign ++ t) = (Numeral.read t).map (Numeral.value negative) := by
  obtain ⟨c, s, rfl, hc⟩ := ht.front
  obtain ⟨hminus, hplus, hi, hn⟩ := front_ne hc
  have hi' (w : Text) : (c :: s).map Char.toLower ≠ 'i' :: w :=
    fun h => hi (List.head_eq_of_cons_eq h)
  have hn' (w : Text) : (c :: s).map Char.toLower ≠ 'n' :: w :=
    fun h => hn (List.head_eq_of_cons_eq h)
  have htake := takeSign_append (t := c :: s) hsign (by simpa using ⟨hminus, hplus⟩)
  unfold read
  rw [htake]
  dsimp only
  have hnames : ¬(decide ((c :: s).map Char.toLower = "inf".toList) ||
      decide ((c :: s).map Char.toLower = "infinity".toList)) = true := by
    rw [Bool.or_eq_true, decide_eq_true_iff, decide_eq_true_iff]
    exact not_or.2 ⟨hi' _, hi' _⟩
  have hnan : (c :: s).map Char.toLower ≠ "nan".toList := hn' _
  rw [if_neg hnames, if_neg hnan]

theorem exists_read {s : Text} {negative : Bool} {q : ℚ} (h : DecimalText s negative q) :
    ∃ r, read s = some r ∧ Rounds negative q r := by
  obtain ⟨sign, t, rfl, hsign, ht⟩ := h
  obtain ⟨n, hn, rfl⟩ := Numeral.exists_read ht
  refine ⟨n.value negative, ?_, Numeral.rounds_value (Numeral.read_spec hn).2 negative⟩
  rw [read_append hsign ht, hn, Option.map_some]

theorem exists_decimalText {s : Text} {x : Dyadic} (h : read s = some (.finite x)) :
    ∃ negative q, DecimalText s negative q ∧ Rounds negative q (.finite x) := by
  obtain ⟨sign, hsign, hs⟩ := exists_sign s
  unfold read at h
  rcases htake : takeSign s with ⟨negative, t⟩
  rw [htake] at h hsign hs
  dsimp only at h
  split at h
  · cases h
  · split at h
    · cases h
    · obtain ⟨n, hn, hx⟩ := Option.map_eq_some_iff.1 h
      obtain ⟨htext, hproper⟩ := Numeral.read_spec hn
      exact ⟨negative, n.quantity, ⟨sign, t, hs, hsign, htext⟩,
        hx ▸ Numeral.rounds_value hproper negative⟩

/-- What a text may stand for is what is read, except for how zero is written. -/
theorem exists_read_finite {s : Text} {negative : Bool} {q : ℚ} {x : Dyadic}
    (h : DecimalText s negative q) (hx : Rounds negative q (.finite x)) :
    ∃ y, read s = some (.finite y) ∧ y.value = x.value ∧ (x.value ≠ 0 → y = x) := by
  obtain ⟨r, hr, hround⟩ := exists_read h
  cases hround with
  | finite hlt hsign hnear => exact ⟨_, hr, hx.value_eq (.finite hlt hsign hnear)⟩
  | infinite hle =>
    cases hx with
    | finite hlt => exact absurd hle (not_le.2 hlt)

end Number

end QueryBridge
