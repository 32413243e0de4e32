import RadixCalc.Proofs.Binary64.Whole

/-!
Values without a sign and how large they can be. Infinity is counted as 2^1024,
which is where it begins, so that one bound speaks of finite and infinite values
alike. Each rounding lets a bound grow by one part in 2^53.
-/

namespace RadixCalc.Binary64

open Float.Model Float.Model.UnpackedFloat

/-- A value without a sign that is at most a number; infinity counts as 2^1024. -/
inductive IsAtMost (bound : ℚ) : Float → Prop where
  | number {value : Float} {number : ℚ} (exactly : IsExactly value number)
      (below : number ≤ bound) : IsAtMost bound value
  | infinite (beyond : product 1 1024 ≤ bound) : IsAtMost bound infinity

/-- How much a bound grows when a result is rounded. -/
def growth : ℚ :=
  1 + 1 / 2 ^ 53

theorem one_le_growth : 1 ≤ growth := by
  norm_num [growth]

theorem shrink_pow_ge (count : ℕ) :
    1 - count * (1 / 2 ^ 53 : ℚ) ≤ (1 - 1 / 2 ^ 53) ^ count := by
  have bernoulli := one_add_mul_le_pow (by norm_num : (-2 : ℚ) ≤ -(1 / 2 ^ 53)) count
  rwa [mul_neg, ← sub_eq_add_neg, ← sub_eq_add_neg] at bernoulli

/-- Some thousand roundings together stay below one part in 2^41. -/
theorem growth_pow_le {count : ℕ} (few : count ≤ 2 ^ 11) :
    growth ^ count ≤ 1 + 1 / 2 ^ 41 := by
  have balanced : growth ^ count * (1 - 1 / 2 ^ 53) ^ count ≤ 1 := by
    rw [← mul_pow]
    exact pow_le_one₀ (by norm_num [growth]) (by norm_num [growth])
  have counted : (count : ℚ) ≤ 2 ^ 11 := by exact_mod_cast few
  have positive : 0 < growth ^ count := pow_pos (by norm_num [growth]) count
  have rest : 1 - 1 / 2 ^ 42 ≤ (1 - 1 / 2 ^ 53 : ℚ) ^ count := by
    refine le_trans ?_ (shrink_pow_ge count)
    norm_num
    linarith
  have bounded : growth ^ count * (1 - 1 / 2 ^ 42) ≤ 1 :=
    (mul_le_mul_of_nonneg_left rest positive.le).trans balanced
  norm_num at bounded ⊢
  linarith

variable {value left right : Float} {number bound leftBound rightBound : ℚ}

theorem IsAtMost.mono (atMost : IsAtMost bound value) {larger : ℚ} (ordered : bound ≤ larger) :
    IsAtMost larger value := by
  cases atMost with
  | number exactly below => exact IsAtMost.number exactly (below.trans ordered)
  | infinite beyond => exact IsAtMost.infinite (beyond.trans ordered)

theorem IsAtMost.value_cases (atMost : IsAtMost bound value) :
    (∃ number ≤ bound, IsExactly value number) ∨
      (value = infinity ∧ product 1 1024 ≤ bound) := by
  cases atMost with
  | number exactly below => exact Or.inl ⟨_, below, exactly⟩
  | infinite beyond => exact Or.inr ⟨rfl, beyond⟩

theorem IsAtMost.nonneg (atMost : IsAtMost bound value) : 0 ≤ bound := by
  cases atMost with
  | number exactly below => exact exactly.nonneg.trans below
  | infinite beyond => exact (product_pos one_pos).le.trans beyond

/-- A value that is bounded below 2^1024 is finite. -/
theorem IsAtMost.finite (atMost : IsAtMost bound value) (small : bound < product 1 1024) :
    ∃ number ≤ bound, IsExactly value number :=
  atMost.value_cases.resolve_right fun infinite => absurd small (not_lt.mpr infinite.2)

/-- Rounding lets a bound grow, unless it is below all normal numbers. -/
theorem IsRounded.is_at_most (rounded : IsRounded number value) (below : number ≤ bound)
    (normal : product 1 (-1022) ≤ bound) : IsAtMost (bound * growth) value := by
  have grown : ∀ {result}, Rounds number result → result ≤ bound * growth := by
    intro result rounds
    rcases le_or_gt (product 1 (-1022)) number with large | small
    · exact (rounds.close large).1.trans (mul_le_mul_of_nonneg_right below (by norm_num [growth]))
    · have kept := rounds.at_most (by norm_num) (by norm_num) small.le
      have nonneg : 0 ≤ bound := (product_pos one_pos).le.trans normal
      exact (kept.trans normal).trans (le_mul_of_one_le_right nonneg one_le_growth)
  cases rounded with
  | finite rounds exactly => exact IsAtMost.number exactly (grown rounds)
  | overflow rounds beyond => exact IsAtMost.infinite (beyond.trans (grown rounds))

theorem least_normal_le_one : product 1 (-1022) ≤ 1 := by
  have one : product 1 0 = 1 := by simp [product]
  rw [← one]
  exact product_le_of_exponent (by norm_num)

section Commutative

theorem sign_mul_comm (left right : Sign) : left * right = right * left := by
  cases left <;> cases right <;> rfl

theorem value_mul_comm (left right : Float) : left * right = right * left := by
  have opened : ∀ first second : Float,
      first * second = .ofModel (.pack (UnpackedFloat.mul .binary64
      first.toModel.unpack second.toModel.unpack)) := fun _ _ => rfl
  rw [opened, opened]
  cases left.toModel.unpack <;> cases right.toModel.unpack <;>
    simp only [UnpackedFloat.mul, sign_mul_comm, Nat.mul_comm, Int.add_comm]

theorem value_add_comm (left right : Float) : left + right = right + left := by
  have opened : ∀ first second : Float,
      first + second = .ofModel (.pack (UnpackedFloat.add .binary64
      first.toModel.unpack second.toModel.unpack)) := fun _ _ => rfl
  rw [opened, opened]
  cases left.toModel.unpack <;> cases right.toModel.unpack <;> try rfl
  case infinity.infinity first second => cases first <;> cases second <;> rfl
  case zero.zero first second => cases first <;> cases second <;> rfl
  case finite.finite => simp only [UnpackedFloat.add, Int.add_comm, min_comm]

end Commutative

section Infinite

theorem unpack_infinity : infinity.toModel.unpack = .infinity .positive := by
  rw [infinity_packed]
  rfl

theorem add_infinity (exactly : IsExactly value number) : value + infinity = infinity := by
  have opened : value + infinity = .ofModel (.pack
      (UnpackedFloat.add .binary64 value.toModel.unpack infinity.toModel.unpack)) := rfl
  rw [opened, unpack_infinity]
  cases exactly with
  | zero =>
      rw [unpack_zero]
      exact infinity_packed.symm
  | product canonical =>
      rw [unpack_canonical]
      exact infinity_packed.symm

theorem mul_infinity (exactly : IsExactly value number) (positive : 0 < number) :
    value * infinity = infinity := by
  have opened : value * infinity = .ofModel (.pack
      (UnpackedFloat.mul .binary64 value.toModel.unpack infinity.toModel.unpack)) := rfl
  rw [opened, unpack_infinity]
  cases exactly with
  | zero => exact absurd positive (lt_irrefl 0)
  | product canonical =>
      rw [unpack_canonical]
      exact infinity_packed.symm

end Infinite

section NotANumber

theorem nan_packed : nan = .ofModel (.pack .notANumber) := by
  decide +kernel

theorem unpack_nan : nan.toModel.unpack = .notANumber := by
  rw [nan_packed]
  exact unpack_packedNaN

theorem add_nan (value : Float) : value + nan = nan := by
  have opened : value + nan = .ofModel (.pack
      (UnpackedFloat.add .binary64 value.toModel.unpack nan.toModel.unpack)) := rfl
  rw [opened, unpack_nan]
  cases value.toModel.unpack <;> exact nan_packed.symm

end NotANumber

namespace IsAtMost

theorem add (leftAtMost : IsAtMost leftBound left) (rightAtMost : IsAtMost rightBound right)
    (normal : product 1 (-1022) ≤ leftBound + rightBound) :
    IsAtMost ((leftBound + rightBound) * growth) (left + right) := by
  have leftNonneg := leftAtMost.nonneg
  have rightNonneg := rightAtMost.nonneg
  have grown : leftBound + rightBound ≤ (leftBound + rightBound) * growth :=
    le_mul_of_one_le_right (by linarith) one_le_growth
  cases leftAtMost with
  | number leftExactly leftBelow =>
      cases rightAtMost with
      | number rightExactly rightBelow =>
          exact (leftExactly.add_rounded rightExactly).is_at_most
            (add_le_add leftBelow rightBelow) normal
      | infinite beyond =>
          rw [add_infinity leftExactly]
          exact IsAtMost.infinite (by linarith)
  | infinite beyond =>
      cases rightAtMost with
      | number rightExactly rightBelow =>
          rw [value_add_comm, add_infinity rightExactly]
          exact IsAtMost.infinite (by linarith)
      | infinite =>
          have infinite : infinity + infinity = infinity := by
            decide +kernel
          rw [infinite]
          exact IsAtMost.infinite (by linarith)

/-- A product with a number that is not below one. -/
theorem mul {factor : ℚ} (leftExactly : IsExactly left factor) (some : 1 ≤ factor)
    (rightAtMost : IsAtMost rightBound right) (normal : product 1 (-1022) ≤ rightBound) :
    IsAtMost (factor * rightBound * growth) (left * right) := by
  have nonneg := rightAtMost.nonneg
  have scaled : rightBound ≤ factor * rightBound := le_mul_of_one_le_left nonneg some
  have grown : factor * rightBound ≤ factor * rightBound * growth :=
    le_mul_of_one_le_right (nonneg.trans scaled) one_le_growth
  cases rightAtMost with
  | number rightExactly below =>
      exact (leftExactly.mul_rounded rightExactly).is_at_most
        (mul_le_mul_of_nonneg_left below (by linarith)) (normal.trans scaled)
  | infinite beyond =>
      rw [mul_infinity leftExactly (by linarith)]
      exact IsAtMost.infinite (by linarith)

end IsAtMost

section Unsigned

/-- NaN, or a value without a sign. -/
def IsUnsigned (value : Float) : Prop :=
  value = nan ∨ ∃ bound, IsAtMost bound value

theorem IsExactly.unsigned (exactly : IsExactly value number) : IsUnsigned value :=
  Or.inr ⟨number, IsAtMost.number exactly le_rfl⟩

theorem infinity_unsigned : IsUnsigned infinity :=
  Or.inr ⟨product 1 1024, IsAtMost.infinite le_rfl⟩

theorem IsRounded.unsigned (rounded : IsRounded number value) : IsUnsigned value := by
  cases rounded with
  | finite rounds exactly => exact exactly.unsigned
  | overflow rounds beyond => exact infinity_unsigned

theorem IsUnsigned.add (leftUnsigned : IsUnsigned left) (rightUnsigned : IsUnsigned right) :
    IsUnsigned (left + right) := by
  rcases leftUnsigned with rfl | ⟨leftBound, leftAtMost⟩
  · rw [value_add_comm, add_nan]
    exact Or.inl rfl
  rcases rightUnsigned with rfl | ⟨rightBound, rightAtMost⟩
  · rw [add_nan]
    exact Or.inl rfl
  · have raised := leftAtMost.mono (by linarith : leftBound ≤ leftBound + 1)
    have some : 1 ≤ leftBound + 1 + rightBound := by
      linarith [leftAtMost.nonneg, rightAtMost.nonneg]
    exact Or.inr ⟨_, raised.add rightAtMost (least_normal_le_one.trans some)⟩

/-- Zero is added without changing anything. -/
theorem IsUnsigned.absorbs_zero (unsigned : IsUnsigned value) : value + zeroValue = value := by
  rcases unsigned with rfl | ⟨bound, atMost⟩
  · rw [value_add_comm, add_nan]
  rcases atMost.value_cases with ⟨number, -, exactly⟩ | ⟨rfl, -⟩
  · have fits : Representable (number + 0) := by
      rw [add_zero]
      exact exactly.representable
    have added := exactly.add IsExactly.zero fits
    rw [add_zero] at added
    exact added.unique exactly
  · rw [value_add_comm, add_infinity IsExactly.zero]

end Unsigned

end RadixCalc.Binary64
