import Mathlib.Data.Rat.Floor
import Mathlib.Algebra.Order.Field.Power

namespace BitcoreWallet

def log2Fuel : ℕ → ℕ → ℕ
  | 0, _ => 0
  | fuel + 1, n => if n < 2 then 0 else log2Fuel fuel (n / 2) + 1

theorem log2Fuel_spec : ∀ (fuel n : ℕ), 0 < n → n ≤ fuel + 1 →
    2 ^ log2Fuel fuel n ≤ n ∧ n < 2 ^ (log2Fuel fuel n + 1)
  | 0, n, _, _ => by simp only [log2Fuel, pow_zero, zero_add, pow_one]; omega
  | fuel + 1, n, h0, hn => by
    unfold log2Fuel
    split_ifs with h2
    · simp only [pow_zero, zero_add, pow_one]; omega
    · obtain ⟨hlo, hhi⟩ := log2Fuel_spec fuel (n / 2) (by omega) (by omega)
      rw [pow_succ] at hhi ⊢
      rw [pow_succ]
      omega

def binade (q : ℚ) : ℤ :=
  let k : ℤ := (log2Fuel q.num.natAbs q.num.natAbs : ℤ) - log2Fuel q.den q.den
  if (2 : ℚ) ^ k ≤ |q| then k else k - 1

/-- The binade of a nonzero `q`: `2 ^ e ≤ |q| < 2 ^ (e + 1)`. -/
theorem binade_spec {q : ℚ} (hq : q ≠ 0) :
    (2 : ℚ) ^ binade q ≤ |q| ∧ |q| < 2 ^ (binade q + 1) := by
  set A := log2Fuel q.num.natAbs q.num.natAbs
  set B := log2Fuel q.den q.den
  obtain ⟨ha, ha'⟩ := log2Fuel_spec _ _ (Int.natAbs_pos.2 (Rat.num_ne_zero.2 hq)) (Nat.le_succ _)
  obtain ⟨hd, hd'⟩ := log2Fuel_spec _ _ q.den_pos (Nat.le_succ _)
  have hq' : |q| = (q.num.natAbs : ℚ) / q.den := by
    conv_lhs => rw [← Rat.num_div_den q]
    rw [abs_div, Nat.abs_cast, Nat.cast_natAbs, Int.cast_abs]
  have ha₁ : (2 : ℚ) ^ A ≤ q.num.natAbs := by exact_mod_cast ha
  have ha₂ : (q.num.natAbs : ℚ) < 2 ^ (A + 1) := by exact_mod_cast ha'
  have hd₁ : (2 : ℚ) ^ B ≤ q.den := by exact_mod_cast hd
  have hd₂ : (q.den : ℚ) < 2 ^ (B + 1) := by exact_mod_cast hd'
  have hk : ∀ i : ℕ, (2 : ℚ) ^ ((A : ℤ) - B - i) = 2 ^ A / (2 ^ B * 2 ^ i) := by
    intro i
    rw [sub_sub, zpow_sub₀ two_ne_zero, ← Nat.cast_add, zpow_natCast, zpow_natCast, pow_add]
  have hden : (0 : ℚ) < q.den := Nat.cast_pos.2 q.den_pos
  have hlo : (2 : ℚ) ^ ((A : ℤ) - B - 1) ≤ |q| := by
    have h1 := hk 1
    rw [Nat.cast_one] at h1
    rw [h1, pow_one, hq', ← pow_succ]
    exact div_le_div₀ (Nat.cast_nonneg _) ha₁ hden hd₂.le
  have hhi : |q| < 2 ^ ((A : ℤ) - B + 1) := by
    rw [sub_add_eq_add_sub, zpow_sub₀ two_ne_zero, ← Nat.cast_one, ← Nat.cast_add, zpow_natCast,
      zpow_natCast, hq', div_lt_div_iff₀ hden (by positivity)]
    exact (mul_le_mul_of_nonneg_left hd₁ (Nat.cast_nonneg _)).trans_lt
      (mul_lt_mul_of_pos_right ha₂ hden)
  unfold binade
  dsimp only
  split_ifs with h
  · exact ⟨h, hhi⟩
  · exact ⟨by simpa using hlo, by simpa using not_le.1 h⟩

/-- Rounding to the nearest integer, a tie to the even one. -/
def roundEven (x : ℚ) : ℤ :=
  let k := ⌊x⌋
  if x - k < 1 / 2 then k else if 1 / 2 < x - k then k + 1 else k + k % 2

@[simp] theorem roundEven_intCast (k : ℤ) : roundEven k = k := by simp [roundEven]

@[simp] theorem roundEven_zero : roundEven 0 = 0 := by exact_mod_cast roundEven_intCast 0

theorem abs_roundEven_sub_le (x : ℚ) : |(roundEven x : ℚ) - x| ≤ 1 / 2 := by
  have hlo := Int.floor_le x
  have hhi := Int.lt_floor_add_one x
  have hm0 : (0 : ℚ) ≤ (⌊x⌋ % 2 : ℤ) := by exact_mod_cast Int.emod_nonneg ⌊x⌋ two_ne_zero
  have hm1 : ((⌊x⌋ % 2 : ℤ) : ℚ) ≤ 1 := by exact_mod_cast (show ⌊x⌋ % 2 ≤ 1 by omega)
  unfold roundEven
  dsimp only
  split_ifs <;> push_cast <;> rw [abs_le] <;> constructor <;> linarith

theorem abs_roundEven_sub_le_of_int (x : ℚ) (k : ℤ) :
    |(roundEven x : ℚ) - x| ≤ |(k : ℚ) - x| := by
  by_cases hk : roundEven x = k
  · rw [hk]
  have hi : (1 : ℚ) ≤ |(roundEven x : ℚ) - k| := by
    exact_mod_cast Int.one_le_abs (sub_ne_zero.2 hk)
  have ht := abs_sub_le (roundEven x : ℚ) x k
  rw [abs_sub_comm x] at ht
  linarith [abs_roundEven_sub_le x]

def quantumExp (q : ℚ) : ℤ := max (binade q) (-1022) - 52

/-- The binary64 double nearest `q`, a tie to the even one: a JavaScript operation's result. -/
def fl (q : ℚ) : ℚ := roundEven (q / 2 ^ quantumExp q) * 2 ^ quantumExp q

theorem two_zpow_pos (t : ℤ) : (0 : ℚ) < 2 ^ t := zpow_pos two_pos t

theorem abs_fl_sub_le_mul (q : ℚ) (k : ℤ) : |fl q - q| ≤ |k * 2 ^ quantumExp q - q| := by
  have hp := two_zpow_pos (quantumExp q)
  have hi (a : ℚ) : |a * 2 ^ quantumExp q - q| = |a - q / 2 ^ quantumExp q| * 2 ^ quantumExp q := by
    rw [← abs_of_pos hp, ← abs_mul, abs_of_pos hp, sub_mul, div_mul_cancel₀ _ hp.ne']
  rw [fl, hi, hi]
  exact mul_le_mul_of_nonneg_right (abs_roundEven_sub_le_of_int _ k) hp.le

theorem fl_eq_self_of_mul {q : ℚ} (k : ℤ) (h : q = k * 2 ^ quantumExp q) : fl q = q := by
  have := abs_fl_sub_le_mul q k
  rw [← h, sub_self, abs_zero] at this
  exact sub_eq_zero.1 (abs_nonpos_iff.1 this)

@[simp] theorem fl_zero : fl 0 = 0 := by simp [fl]

/-- Every integer below `2 ^ 53` in magnitude is a double. -/
theorem fl_intCast {m : ℤ} (hm : |m| < 2 ^ 53) : fl m = m := by
  rcases eq_or_ne m 0 with rfl | h0
  · simp
  obtain ⟨hlo, -⟩ := binade_spec (Int.cast_ne_zero.2 h0 : (m : ℚ) ≠ 0)
  have hm' : |(m : ℚ)| < 2 ^ (53 : ℤ) := by
    rw [← Int.cast_abs, zpow_ofNat]; exact_mod_cast hm
  have he : binade m < 53 := (zpow_lt_zpow_iff_right₀ one_lt_two).1 (hlo.trans_lt hm')
  have hs : quantumExp m ≤ 0 := by unfold quantumExp; omega
  refine fl_eq_self_of_mul (m * 2 ^ (-quantumExp m).toNat) ?_
  rw [Int.cast_mul, Int.cast_pow, Int.cast_two, mul_assoc, ← zpow_natCast,
    Int.toNat_of_nonneg (neg_nonneg.2 hs), ← zpow_add₀ two_ne_zero, neg_add_cancel, zpow_zero,
    mul_one]

@[simp] theorem fl_natCast {n : ℕ} (h : n < 2 ^ 53) : fl n = n := by
  exact_mod_cast fl_intCast (m := n) (by rw [Nat.abs_cast]; exact_mod_cast h)

@[simp] theorem fl_ofNat (n : ℕ) [n.AtLeastTwo] (h : n < 2 ^ 53) :
    fl (no_index (OfNat.ofNat n : ℚ)) = OfNat.ofNat n :=
  fl_natCast h

@[simp] theorem fl_one : fl 1 = 1 := by exact_mod_cast fl_natCast (n := 1) (by norm_num)

@[simp] theorem fl_neg_ofNat (n : ℕ) [n.AtLeastTwo] (h : n < 2 ^ 53) :
    fl (-(no_index (OfNat.ofNat n : ℚ))) = -OfNat.ofNat n := by
  have := fl_intCast (m := -n) (by rw [abs_neg, Nat.abs_cast]; exact_mod_cast h)
  push_cast at this
  exact this

/-- The rounding error is at most half a last place. -/
theorem abs_fl_sub_le (q : ℚ) : |fl q - q| ≤ (|q| + 1) / 2 ^ 53 := by
  rcases eq_or_ne q 0 with rfl | hq
  · simp only [fl_zero, sub_zero, abs_zero, zero_add]; positivity
  have hp := two_zpow_pos (quantumExp q)
  have hhalf : |fl q - q| ≤ 2 ^ quantumExp q / 2 := by
    have h := abs_roundEven_sub_le (q / 2 ^ quantumExp q)
    have e : fl q - q =
        ((roundEven (q / 2 ^ quantumExp q) : ℚ) - q / 2 ^ quantumExp q) * 2 ^ quantumExp q := by
      rw [fl, sub_mul, div_mul_cancel₀ _ hp.ne']
    rw [e, abs_mul, abs_of_pos hp]
    nlinarith
  obtain ⟨hlo, -⟩ := binade_spec hq
  have hq0 := abs_nonneg q
  have key : (2 : ℚ) ^ quantumExp q / 2 ≤ (|q| + 1) / 2 ^ 53 := by
    unfold quantumExp
    rcases le_total (binade q) (-1022) with h | h
    · rw [max_eq_right h]
      calc (2 : ℚ) ^ ((-1022 : ℤ) - 52) / 2 ≤ 2 ^ ((-1022 : ℤ) - 52) := by
            linarith [two_zpow_pos ((-1022 : ℤ) - 52)]
        _ ≤ 2 ^ (-53 : ℤ) := zpow_le_zpow_right₀ one_le_two (by norm_num)
        _ = 1 / 2 ^ 53 := by rw [zpow_neg, zpow_ofNat, one_div]
        _ ≤ (|q| + 1) / 2 ^ 53 := div_le_div_of_nonneg_right (by linarith) (by positivity)
    · rw [max_eq_left h, zpow_sub₀ two_ne_zero, div_div, zpow_ofNat]
      calc (2 : ℚ) ^ binade q / (2 ^ 52 * 2) = 2 ^ binade q / 2 ^ 53 := by norm_num
        _ ≤ (|q| + 1) / 2 ^ 53 := div_le_div_of_nonneg_right (by linarith) (by positivity)
  linarith

theorem fl_double (q : ℚ) : ∃ j t : ℤ, |j| ≤ 2 ^ 53 ∧ -1074 ≤ t ∧ fl q = j * 2 ^ t := by
  refine ⟨_, _, ?_, by unfold quantumExp; omega, rfl⟩
  have hp := two_zpow_pos (quantumExp q)
  have hy : |q / 2 ^ quantumExp q| ≤ 2 ^ 53 := by
    rcases eq_or_ne q 0 with rfl | hq
    · simp
    obtain ⟨-, hhi⟩ := binade_spec hq
    rw [abs_div, abs_of_pos hp, div_le_iff₀ hp, ← zpow_ofNat, ← zpow_add₀ two_ne_zero]
    refine hhi.le.trans (zpow_le_zpow_right₀ one_le_two ?_)
    unfold quantumExp; omega
  have h := abs_roundEven_sub_le (q / 2 ^ quantumExp q)
  have hr : |(roundEven (q / 2 ^ quantumExp q) : ℚ)| < 2 ^ 53 + 1 := by
    have := abs_add (↑(roundEven (q / 2 ^ quantumExp q)) - q / 2 ^ quantumExp q)
      (q / 2 ^ quantumExp q)
    rw [sub_add_cancel] at this
    linarith
  have : |roundEven (q / 2 ^ quantumExp q)| < 2 ^ 53 + 1 := by exact_mod_cast hr
  omega

theorem abs_fl_sub_le_double (q : ℚ) {j t : ℤ} (hj : |j| ≤ 2 ^ 53) (ht : -1074 ≤ t) :
    |fl q - q| ≤ |j * 2 ^ t - q| := by
  rcases le_or_lt (quantumExp q) t with hst | hts
  case inl =>
    -- the double is a multiple of the last place of `q`
    have : (j : ℚ) * 2 ^ t = ((j * 2 ^ (t - quantumExp q).toNat : ℤ) : ℚ) * 2 ^ quantumExp q := by
      rw [Int.cast_mul, Int.cast_pow, Int.cast_two, mul_assoc, ← zpow_natCast,
        Int.toNat_of_nonneg (sub_nonneg.2 hst), ← zpow_add₀ two_ne_zero, sub_add_cancel]
    rw [this]
    exact abs_fl_sub_le_mul q _
  case inr =>
    -- a double of a finer last place is at most `2 ^ binade q`, the double of the binade's start
    rcases eq_or_ne q 0 with rfl | hq
    · simp
    obtain ⟨hlo, -⟩ := binade_spec hq
    have hs : quantumExp q = binade q - 52 := by unfold quantumExp at hts ⊢; omega
    have hjt : |(j : ℚ) * 2 ^ t| ≤ 2 ^ binade q := by
      rw [abs_mul, abs_of_pos (two_zpow_pos t)]
      have hj' : |(j : ℚ)| ≤ 2 ^ (53 : ℤ) := by rw [← Int.cast_abs, zpow_ofNat]; exact_mod_cast hj
      calc |(j : ℚ)| * 2 ^ t ≤ 2 ^ (53 : ℤ) * 2 ^ (binade q - 53) :=
            mul_le_mul hj' (zpow_le_zpow_right₀ one_le_two (by omega)) (two_zpow_pos t).le
              (by positivity)
        _ = 2 ^ binade q := by rw [← zpow_add₀ two_ne_zero]; ring_nf
    have hedge : ∃ k : ℤ, |(k : ℚ) * 2 ^ quantumExp q - q| = |q| - 2 ^ binade q := by
      have h52 : (2 : ℚ) ^ (52 : ℕ) * 2 ^ quantumExp q = 2 ^ binade q := by
        rw [← zpow_natCast, ← zpow_add₀ two_ne_zero, hs]; ring_nf
      rcases lt_or_gt_of_ne hq with hneg | hpos
      · refine ⟨-2 ^ 52, ?_⟩
        have hk : ((-2 ^ 52 : ℤ) : ℚ) * 2 ^ quantumExp q = -2 ^ binade q := by
          rw [Int.cast_neg, Int.cast_pow, Int.cast_two, neg_mul, h52]
        rw [abs_of_neg hneg] at hlo ⊢
        rw [hk, abs_of_nonneg (by linarith)]
        ring
      · refine ⟨2 ^ 52, ?_⟩
        have hk : ((2 ^ 52 : ℤ) : ℚ) * 2 ^ quantumExp q = 2 ^ binade q := by
          rw [Int.cast_pow, Int.cast_two, h52]
        rw [abs_of_pos hpos] at hlo ⊢
        rw [hk, abs_sub_comm, abs_of_nonneg (by linarith)]
    obtain ⟨k, hk⟩ := hedge
    calc |fl q - q| ≤ |(k : ℚ) * 2 ^ quantumExp q - q| := abs_fl_sub_le_mul q k
      _ = |q| - 2 ^ binade q := hk
      _ ≤ |q| - |(j : ℚ) * 2 ^ t| := by linarith
      _ ≤ |(j : ℚ) * 2 ^ t - q| := by rw [abs_sub_comm]; exact abs_sub_abs_le_abs_sub _ _

/-- Rounding to the nearest double is monotone. -/
theorem fl_mono {x y : ℚ} (h : x ≤ y) : fl x ≤ fl y := by
  by_contra hlt
  rw [not_le] at hlt
  obtain ⟨jx, tx, hjx, htx, hx⟩ := fl_double x
  obtain ⟨jy, ty, hjy, hty, hy⟩ := fl_double y
  have h1 := sq_le_sq.2 (hy ▸ abs_fl_sub_le_double x hjy hty)
  have h2 := sq_le_sq.2 (hx ▸ abs_fl_sub_le_double y hjx htx)
  obtain rfl : x = y := le_antisymm h (by nlinarith)
  exact lt_irrefl _ hlt

theorem fl_le_intCast {x : ℚ} {m : ℤ} (hm : |m| < 2 ^ 53) (h : x ≤ m) : fl x ≤ m :=
  fl_intCast hm ▸ fl_mono h

theorem intCast_le_fl {x : ℚ} {m : ℤ} (hm : |m| < 2 ^ 53) (h : (m : ℚ) ≤ x) : (m : ℚ) ≤ fl x :=
  fl_intCast hm ▸ fl_mono h

theorem fl_nonneg {x : ℚ} (h : 0 ≤ x) : 0 ≤ fl x := fl_zero ▸ fl_mono h

end BitcoreWallet
