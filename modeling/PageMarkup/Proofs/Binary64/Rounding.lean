import Mathlib.Tactic.Ring
import PageMarkup.Binary64

/-!
# Powers of two are kept apart

Rounding does not pass over a power of two, since powers of two are among the finite magnitudes.  So
what is computed from numbers of a moderate size is finite.
-/

namespace PageMarkup

namespace Binary64

/-! ### Rounding to whole numbers -/

/-- A quotient is not rounded beyond a whole number that it does not exceed. -/
theorem roundQuotient_le {numerator denominator bound : Nat} (hpos : 0 < denominator)
    (h : numerator ≤ bound * denominator) : roundQuotient numerator denominator ≤ bound := by
  have hquotient : numerator / denominator ≤ bound := Nat.div_le_of_le_mul (by rwa [Nat.mul_comm])
  rw [roundQuotient]
  rcases Nat.lt_or_eq_of_le hquotient with hlt | heq
  · split_ifs <;> omega
  · have hrest : numerator % denominator = 0 := by
      have hdiv := Nat.div_add_mod numerator denominator
      rw [heq, Nat.mul_comm] at hdiv
      omega
    rw [hrest, if_pos (by omega)]
    exact hquotient

/-- A quotient is not rounded below a whole number that does not exceed it. -/
theorem le_roundQuotient {numerator denominator bound : Nat} (hpos : 0 < denominator)
    (h : bound * denominator ≤ numerator) : bound ≤ roundQuotient numerator denominator := by
  have hquotient : bound ≤ numerator / denominator := (Nat.le_div_iff_mul_le hpos).mpr h
  rw [roundQuotient]
  split_ifs <;> omega

/-! ### Powers of two -/

/-- The magnitude of `2 ^ power` units, from `2 ^ 52` units on. -/
def ofPower (power : Nat) : Nat :=
  (power - 51) * fractions

theorem ofPower_lt_infinite {power : Nat} (h : power < 2098) : ofPower power < infinite :=
  Nat.mul_lt_mul_of_pos_right (by omega) (by decide)

/-- A quotient of at most `2 ^ power` is rounded to at most that. -/
theorem nearestUnits_le {numerator denominator power : Nat} (hpos : 0 < denominator)
    (hpower : 52 ≤ power) (h : numerator ≤ 2 ^ power * denominator) :
    nearestUnits numerator denominator ≤ ofPower power := by
  let whole := numerator / denominator
  let shift := Nat.log2 whole - 52
  let rounded := roundQuotient numerator (denominator * 2 ^ shift)
  have hstep : 0 < denominator * 2 ^ shift := Nat.mul_pos hpos (Nat.two_pow_pos shift)
  have hlog : Nat.log2 whole ≤ power := by
    have hwhole : whole ≤ 2 ^ power := Nat.div_le_of_le_mul (by rwa [Nat.mul_comm])
    rcases Nat.eq_zero_or_pos whole with hzero | hwholePos
    · rw [hzero]
      exact Nat.zero_le power
    · have hself := Nat.log2_self_le (Nat.pos_iff_ne_zero.mp hwholePos)
      exact (Nat.pow_le_pow_iff_right (by decide)).mp (hself.trans hwhole)
  have hsum : rounded + shift * fractions ≤ ofPower power := by
    rcases Nat.lt_or_ge shift (power - 52) with hlt | hge
    · -- The quotient lies below the next power of two.
      have hbelow : numerator ≤ 2 ^ (shift + 53) * denominator := by
        have hwhole : whole < 2 ^ (Nat.log2 whole + 1) := Nat.lt_log2_self
        have hnext : 2 ^ (Nat.log2 whole + 1) ≤ 2 ^ (shift + 53) :=
          Nat.pow_le_pow_right (by decide) (by omega)
        have hdiv : numerator < denominator * (whole + 1) := Nat.lt_mul_div_succ numerator hpos
        have hmul : denominator * (whole + 1) ≤ denominator * 2 ^ (shift + 53) :=
          Nat.mul_le_mul_left denominator (by omega)
        rw [Nat.mul_comm]
        exact (hdiv.trans_le hmul).le
      have hrounded : rounded ≤ 2 ^ 53 := by
        refine roundQuotient_le hstep (hbelow.trans_eq ?_)
        rw [Nat.pow_add]
        ring
      calc rounded + shift * fractions
        _ ≤ 2 ^ 53 + shift * fractions := Nat.add_le_add_right hrounded _
        _ = (shift + 2) * fractions := by rw [fractions]; ring
        _ ≤ ofPower power := Nat.mul_le_mul_right fractions (by omega)
    · -- the greatest shift there can be: the quotient is at most the power itself
      have hshift : shift = power - 52 := by omega
      have hrounded : rounded ≤ 2 ^ 52 := by
        refine roundQuotient_le hstep (h.trans_eq ?_)
        have hsplit : power = 52 + shift := by omega
        rw [hsplit, Nat.pow_add]
        ring
      calc rounded + shift * fractions
        _ ≤ 2 ^ 52 + shift * fractions := Nat.add_le_add_right hrounded _
        _ = (shift + 1) * fractions := by rw [fractions]; ring
        _ ≤ ofPower power := Nat.mul_le_mul_right fractions (by omega)
  exact (Nat.min_le_left _ _).trans hsum

/-- A quotient of at least `2 ^ power` is rounded to at least that. -/
theorem le_nearestUnits {numerator denominator power : Nat} (hpos : 0 < denominator)
    (hlow : 52 ≤ power) (hhigh : power ≤ 2098) (h : 2 ^ power * denominator ≤ numerator) :
    ofPower power ≤ nearestUnits numerator denominator := by
  let whole := numerator / denominator
  let shift := Nat.log2 whole - 52
  have hwhole : 2 ^ power ≤ whole := (Nat.le_div_iff_mul_le hpos).mpr h
  have hne : whole ≠ 0 := by
    have hpowerPos : 0 < 2 ^ power := Nat.two_pow_pos power
    omega
  have hlog : power ≤ Nat.log2 whole := (Nat.le_log2 hne).mpr hwhole
  have hrounded : 2 ^ 52 ≤ roundQuotient numerator (denominator * 2 ^ shift) := by
    refine le_roundQuotient (Nat.mul_pos hpos (Nat.two_pow_pos shift)) ?_
    calc 2 ^ 52 * (denominator * 2 ^ shift)
      _ = 2 ^ (52 + shift) * denominator := by rw [Nat.pow_add]; ring
      _ = 2 ^ Nat.log2 whole * denominator := by rw [Nat.add_sub_cancel' (by omega)]
      _ ≤ whole * denominator := Nat.mul_le_mul_right denominator (Nat.log2_self_le hne)
      _ ≤ numerator := Nat.div_mul_le_self numerator denominator
  refine Nat.le_min.mpr ⟨?_, Nat.mul_le_mul_right fractions (by omega)⟩
  calc ofPower power
    _ ≤ (shift + 1) * fractions := Nat.mul_le_mul_right fractions (by omega)
    _ = 2 ^ 52 + shift * fractions := by rw [fractions]; ring
    _ ≤ _ := Nat.add_le_add_right hrounded _

/-- A magnitude of at most `2 ^ power` units has no more units. -/
theorem units_le {magnitude power : Nat} (hpower : 52 ≤ power) (h : magnitude ≤ ofPower power) :
    units magnitude ≤ 2 ^ power := by
  have hpos : 0 < fractions := by decide
  have hexponent : magnitude / fractions ≤ power - 51 :=
    Nat.div_le_of_le_mul (by rwa [Nat.mul_comm])
  have hrest : magnitude % fractions < fractions := Nat.mod_lt magnitude hpos
  rw [units]
  split_ifs with hzero
  · have hsmall : magnitude < fractions := (Nat.div_eq_zero_iff_lt hpos).mp hzero
    exact hsmall.le.trans (Nat.pow_le_pow_right (by decide) hpower)
  · have hnormal : 0 < magnitude / fractions := Nat.pos_of_ne_zero hzero
    rcases Nat.lt_or_eq_of_le hexponent with hlt | heq
    · calc (fractions + magnitude % fractions) * 2 ^ (magnitude / fractions - 1)
        _ ≤ 2 ^ 53 * 2 ^ (magnitude / fractions - 1) :=
          Nat.mul_le_mul_right _ (by rw [fractions] at hrest ⊢; omega)
        _ = 2 ^ (53 + (magnitude / fractions - 1)) := (Nat.pow_add _ _ _).symm
        _ ≤ 2 ^ power := Nat.pow_le_pow_right (by decide) (by omega)
    · have hwhole : magnitude % fractions = 0 := by
        have hdiv := Nat.div_add_mod magnitude fractions
        rw [heq, Nat.mul_comm] at hdiv
        rw [ofPower] at h
        omega
      rw [hwhole, heq, fractions, Nat.add_zero, ← Nat.pow_add]
      exact Nat.pow_le_pow_right (by decide) (by omega)

/-- A magnitude of at least `2 ^ power` units has at least as many units. -/
theorem le_units {magnitude power : Nat} (hpower : 52 ≤ power) (h : ofPower power ≤ magnitude) :
    2 ^ power ≤ units magnitude := by
  have hexponent : power - 51 ≤ magnitude / fractions :=
    (Nat.le_div_iff_mul_le (by decide)).mpr h
  rw [units, if_neg (by omega)]
  calc 2 ^ power
    _ ≤ 2 ^ (52 + (magnitude / fractions - 1)) := Nat.pow_le_pow_right (by decide) (by omega)
    _ = fractions * 2 ^ (magnitude / fractions - 1) := Nat.pow_add _ _ _
    _ ≤ _ := Nat.mul_le_mul_right _ (Nat.le_add_right _ _)

/-! ### Numbers of a moderate size -/

/-- The magnitude of a whole number of some bits is at most that of their power of two. -/
theorem nearest_le {n bits : Nat} (h : n ≤ 2 ^ bits) : nearest n 1 ≤ ofPower (bits + 1074) := by
  refine nearestUnits_le Nat.one_pos (by omega) ?_
  calc n * unitsPerOne
    _ ≤ 2 ^ bits * unitsPerOne := Nat.mul_le_mul_right unitsPerOne h
    _ = 2 ^ (bits + 1074) * 1 := by rw [Nat.mul_one, Nat.pow_add, unitsPerOne]

/-- A whole number of at most 64 bits is finite. -/
theorem isFinite_ofNat {n : Nat} (h : n ≤ 2 ^ 64) : (ofNat n).isFinite = true :=
  decide_eq_true ((nearest_le h).trans_lt (ofPower_lt_infinite (by decide)))

/-- An integer of at most 64 bits is finite. -/
theorem isFinite_ofInt {n : Int} (h : n.natAbs ≤ 2 ^ 64) : (ofInt n).isFinite = true :=
  decide_eq_true ((nearest_le h).trans_lt (ofPower_lt_infinite (by decide)))

/-- A whole number other than zero is at least one. -/
theorem unitsPerOne_le_units_nearest {n : Nat} (h : 0 < n) : unitsPerOne ≤ units (nearest n 1) := by
  -- The power is a variable here, so that it is not computed.
  obtain ⟨power, hpower⟩ : ∃ power, power = 1074 := ⟨_, rfl⟩
  have hone : unitsPerOne = 2 ^ power := by rw [hpower, unitsPerOne]
  have hquotient : 2 ^ power * 1 ≤ n * unitsPerOne := by
    rw [Nat.mul_one, hone]
    exact Nat.le_mul_of_pos_left _ h
  rw [hone]
  exact le_units (by omega) (le_nearestUnits Nat.one_pos (by omega) (by omega) hquotient)

/-- A number that is one or greater has a whole part. -/
theorem one_le_wholePart {x : Binary64} (h : x.isAtLeastOne = true) : 1 ≤ x.wholePart := by
  obtain ⟨power, hpower⟩ : ∃ power, power = 1074 := ⟨_, rfl⟩
  have hone : unitsPerOne = 2 ^ power := by rw [hpower, unitsPerOne]
  have hmagnitude : ofPower power ≤ x.magnitude := by
    unfold isAtLeastOne at h
    rw [Bool.and_eq_true, decide_eq_true_eq] at h
    rw [hpower]
    exact h.2
  unfold wholePart
  rw [hone]
  exact (Nat.one_le_div_iff (Nat.two_pow_pos power)).mpr (le_units (by omega) hmagnitude)

/-- A division by a number of at least one does not lead beyond a power of two. -/
theorem divMagnitude_le {x y power : Nat} (hpower : 52 ≤ power) (hx : x ≤ ofPower power)
    (hy : unitsPerOne ≤ units y) : divMagnitude x y ≤ ofPower power := by
  have hpos : 0 < units y := by
    rw [unitsPerOne] at hy
    exact (Nat.two_pow_pos 1074).trans_le hy
  exact nearestUnits_le hpos hpower (Nat.mul_le_mul (units_le hpower hx) hy)

end Binary64

end PageMarkup
