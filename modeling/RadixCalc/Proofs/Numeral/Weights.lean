import RadixCalc.Proofs.Numeral.Written

/-!
The weight that grows while a whole part is read. It starts at one and is rounded
each time it is multiplied by the base, and it stays finite exactly as long as
the power of the base that it stands for is below 2^1024: no power of a base up
to 61 comes so close to 2^1024 from either side that rounding could carry the
weight across.
-/

namespace RadixCalc.Numeral

open Binary64

/-- The weight of a whole digit with so many digits behind it. -/
def placeWeight (radix : Radix) : Nat → Float
  | 0 => 1.0
  | places + 1 => placeWeight radix places * radix.toFloat

variable {radix : Radix}

/-- Digits are read one run after another, each from the weight at which it starts. -/
theorem add_whole_append (radix : Radix) (places : Nat) (total : Float)
    (first second : List Char) :
    addWhole radix (placeWeight radix places) total (first ++ second) = (do
      let next ← addWhole radix (placeWeight radix places) total first
      addWhole radix (placeWeight radix (places + first.length)) next second) := by
  induction first generalizing places total with
  | nil => rfl
  | cons char rest induction =>
      have behind : places + (rest.length + 1) = places + 1 + rest.length := by omega
      rw [List.cons_append, addWhole, addWhole]
      cases digitIn radix char with
      | error fault => rfl
      | ok digit =>
          rw [List.length_cons, behind]
          exact induction (places + 1) _

section Bounds

theorem one_le_power (radix : Radix) (places : Nat) : (1 : ℚ) ≤ radix.value ^ places :=
  one_le_pow₀ (by exact_mod_cast radix.pos)

/-- The weight is the power of the base, but for one rounding at each place. -/
theorem place_weight_at_most (radix : Radix) (places : Nat) :
    IsAtMost (radix.value ^ places * growth ^ places) (placeWeight radix places) := by
  induction places with
  | zero => exact IsAtMost.number one_exactly (by simp)
  | succ places induction =>
      have base : (1 : ℚ) ≤ radix.value := by exact_mod_cast radix.pos
      have large : (1 : ℚ) ≤ radix.value ^ places * growth ^ places :=
        one_le_mul_of_one_le_of_one_le (one_le_power radix places) (one_le_pow₀ one_le_growth)
      have normal : product 1 (-1022) ≤ radix.value ^ places * growth ^ places :=
        least_normal_le_one.trans large
      have weighed := IsAtMost.mul (radix_exactly radix) base induction normal
      have same : (radix.value : ℚ) * (radix.value ^ places * growth ^ places) * growth =
          radix.value ^ (places + 1) * growth ^ (places + 1) := by ring
      rw [placeWeight, value_mul_comm, ← same]
      exact weighed

theorem place_weight_infinite {places : Nat} (infinite : placeWeight radix places = infinity)
    (more : Nat) : placeWeight radix (places + more) = infinity := by
  induction more with
  | zero => exact infinite
  | succ more induction =>
      have base : (0 : ℚ) < radix.value := by exact_mod_cast radix.pos
      rw [← Nat.add_assoc, placeWeight, induction, value_mul_comm]
      exact mul_infinity (radix_exactly radix) base

theorem place_weight_cases (radix : Radix) (places : Nat) :
    (∃ number, IsExactly (placeWeight radix places) number) ∨
      placeWeight radix places = infinity := by
  rcases (place_weight_at_most radix places).value_cases with
      ⟨number, -, exactly⟩ | ⟨infinite, -⟩
  · exact Or.inl ⟨number, exactly⟩
  · exact Or.inr infinite

/-- A finite weight is not far below the power of the base. -/
theorem place_weight_at_least {places : Nat} {number : ℚ}
    (exactly : IsExactly (placeWeight radix places) number) :
    1 ≤ number ∧ radix.value ^ places * (1 - 1 / 2 ^ 53) ^ places ≤ number ∧
      ∀ bits, radix.value = 2 ^ bits → (radix.value : ℚ) ^ places ≤ number := by
  induction places generalizing number with
  | zero =>
      rw [placeWeight] at exactly
      have same : number = 1 := exactly.number_of.symm.trans one_exactly.number_of
      simp [same]
  | succ places induction =>
      rcases place_weight_cases radix places with ⟨before, smaller⟩ | infinite
      · obtain ⟨some, close, power⟩ := induction smaller
        have base : (1 : ℚ) ≤ radix.value := by exact_mod_cast radix.pos
        have rounds := (smaller.mul_rounded (radix_exactly radix)).rounds exactly
        have one : product 1 0 = 1 := by simp [product]
        -- Numbers of 53 bits are not rounded past, so one and powers of two stay bounds.
        refine ⟨?_, ?_, ?_⟩
        · rw [← one]
          apply rounds.at_least (by norm_num) (by norm_num)
          rw [one]
          exact one_le_mul_of_one_le_of_one_le some base
        · have large : product 1 (-1022) ≤ before * radix.value :=
            least_normal_le_one.trans (one_le_mul_of_one_le_of_one_le some base)
          calc (radix.value : ℚ) ^ (places + 1) * (1 - 1 / 2 ^ 53) ^ (places + 1)
              = radix.value ^ places * (1 - 1 / 2 ^ 53) ^ places *
                  (radix.value * (1 - 1 / 2 ^ 53)) := by ring
            _ ≤ before * (radix.value * (1 - 1 / 2 ^ 53)) := by
                apply mul_le_mul_of_nonneg_right close
                exact mul_nonneg (by linarith) (by norm_num)
            _ = before * radix.value * (1 - 1 / 2 ^ 53) := by ring
            _ ≤ number := (rounds.close large).2
        · intro bits two
          have exponent : product 1 (bits * (places + 1) : Nat) =
              (radix.value : ℚ) ^ (places + 1) := by
            rw [product, zpow_natCast, pow_mul, two]
            push_cast
            ring
          rw [← exponent]
          apply rounds.at_least (by norm_num) (by omega)
          rw [exponent, pow_succ]
          exact mul_le_mul_of_nonneg_right (power bits two) (by linarith)
      · have never := place_weight_infinite infinite 1
        rw [never] at exactly
        exact absurd exactly.not_infinite (by decide +kernel)

end Bounds

section Limit

/-- No value has a binary exponent as large as this. -/
@[irreducible]
def limitExponent : Nat :=
  1024

/-- The whole number from which on there are no values. -/
def valueLimit : Nat :=
  2 ^ limitExponent

theorem value_limit : valueLimit = 2 ^ 1024 := by
  rw [valueLimit, limitExponent]

theorem value_limit_pos : 0 < valueLimit :=
  Nat.two_pow_pos limitExponent

theorem product_limit : product 1 1024 = valueLimit := by
  have exponent : (1024 : Int) = limitExponent := by
    rw [limitExponent]
    rfl
  rw [product, Nat.cast_one, one_mul, valueLimit, Nat.cast_pow, Nat.cast_ofNat, exponent]
  exact zpow_natCast 2 limitExponent

/-- The last power of a base below 2^1024 is well below it, and the next one well above it or a
power of two. -/
theorem last_power_apart : ∀ value < 62, 2 ≤ value →
    257 * value ^ Nat.log value (valueLimit - 1) ≤ 256 * valueLimit ∧
      (257 * valueLimit ≤ 256 * value ^ (Nat.log value (valueLimit - 1) + 1) ∨
        ∃ bits < 6, value = 2 ^ bits) := by
  decide +kernel

/-- A base has no more than 1024 powers below 2^1024. -/
theorem places_of_power_lt {places : Nat} (small : radix.value ^ places < valueLimit) :
    places < 1024 := by
  have doubled : 2 ^ places ≤ radix.value ^ places := Nat.pow_le_pow_left radix.two_le places
  have fewer := (Nat.pow_lt_pow_iff_right one_lt_two).mp (doubled.trans_lt small)
  rwa [limitExponent] at fewer

theorem le_last_iff (radix : Radix) (places : Nat) :
    places ≤ Nat.log radix.value (valueLimit - 1) ↔ radix.value ^ places < valueLimit := by
  have positive := value_limit_pos
  have some : 1 ≤ radix.value ^ places := Nat.one_le_pow _ _ radix.pos
  rcases Nat.eq_zero_or_pos (valueLimit - 1) with nothing | filled
  · have two : (2 : Nat) ≤ valueLimit := by
      rw [valueLimit]
      exact Nat.le_self_pow (by rw [limitExponent]; norm_num) 2
    omega
  · rw [Nat.le_log_iff_pow_le radix.two_le filled.ne']
    omega

theorem place_weight_finite {places : Nat} (small : radix.value ^ places < valueLimit) :
    ∃ number ≤ (radix.value ^ places * growth ^ places : ℚ),
      IsExactly (placeWeight radix places) number := by
  have listed := radix.le_max
  have few := places_of_power_lt small
  have apart := (last_power_apart radix.value (by omega) radix.two_le).1
  have last := Nat.pow_le_pow_right radix.pos ((le_last_iff radix places).mpr small)
  have bounded : (257 * radix.value ^ places : ℚ) ≤ 256 * valueLimit := by
    exact_mod_cast (Nat.mul_le_mul_left 257 last).trans apart
  have some : (0 : ℚ) < valueLimit := by exact_mod_cast value_limit_pos
  have grown := growth_pow_le (by omega : places ≤ 2 ^ 11)
  apply (place_weight_at_most radix places).finite
  rw [product_limit]
  calc (radix.value ^ places * growth ^ places : ℚ)
      ≤ radix.value ^ places * (1 + 1 / 2 ^ 41) := by gcongr
    _ < valueLimit := by
        norm_num
        linarith

/-- As long as its weight is finite a zero adds nothing. -/
theorem add_weighed_zero {places : Nat} (small : radix.value ^ places < valueLimit) {total : Float}
    (unsigned : IsUnsigned total) : total + Float.ofNat 0 * placeWeight radix places = total := by
  obtain ⟨number, -, exactly⟩ := place_weight_finite small
  rw [of_nat_zero, exactly.zero_value_mul, unsigned.absorbs_zero]

theorem place_weight_infinity {places : Nat} (large : valueLimit ≤ radix.value ^ places) :
    placeWeight radix places = infinity := by
  have listed := radix.le_max
  have apart := (last_power_apart radix.value (by omega) radix.two_le).2
  generalize counted : Nat.log radix.value (valueLimit - 1) = last at apart
  have few : last < 1024 := places_of_power_lt ((le_last_iff radix last).mp counted.ge)
  have beyond : valueLimit ≤ radix.value ^ (last + 1) := by
    by_contra small
    have within := (le_last_iff radix (last + 1)).mpr (not_le.mp small)
    omega
  have reached : last + 1 ≤ places := by
    by_contra before
    have smaller := (le_last_iff radix places).mp (by omega)
    omega
  -- Only the first power that is too large has to be looked at.
  suffices first : placeWeight radix (last + 1) = infinity by
    have later := place_weight_infinite first (places - (last + 1))
    rwa [Nat.add_sub_cancel' reached] at later
  refine (place_weight_cases radix (last + 1)).resolve_left ?_
  rintro ⟨number, exactly⟩
  obtain ⟨-, close, power⟩ := place_weight_at_least exactly
  have limited := exactly.representable.bounded
  rw [product_limit] at limited
  rcases apart with above | ⟨bits, -, two⟩
  · -- It is so far above the limit that the roundings before it cannot make up for it.
    have kept : (257 * valueLimit : ℚ) ≤ 256 * radix.value ^ (last + 1) := by
      exact_mod_cast above
    have rest : (256 / 257 : ℚ) < (1 - 1 / 2 ^ 53) ^ (last + 1) := by
      have counted : ((last + 1 : Nat) : ℚ) ≤ 1024 := by exact_mod_cast few
      refine lt_of_lt_of_le ?_ (shrink_pow_ge (last + 1))
      norm_num at counted ⊢
      linarith
    have some : (0 : ℚ) < valueLimit := by exact_mod_cast value_limit_pos
    have scaled := mul_lt_mul_of_pos_left rest (by linarith :
      (0 : ℚ) < radix.value ^ (last + 1))
    linarith
  · have full := power bits two
    have large : (valueLimit : ℚ) ≤ radix.value ^ (last + 1) := by exact_mod_cast beyond
    linarith

end Limit

end RadixCalc.Numeral
