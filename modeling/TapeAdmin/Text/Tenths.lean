/-!
# Numbers with one decimal place

The text of a fraction with one decimal place is the nearest multiple of a tenth; a fraction
half-way between two multiples goes to the even one.
-/

namespace TapeAdmin.Text

/-- The nearest whole number to `numerator / denominator`, the even one if two are equally near. -/
def roundHalfEven (numerator denominator : Nat) : Nat :=
  let quotient := numerator / denominator
  let twice := 2 * (numerator % denominator)
  if twice < denominator then quotient
  else if denominator < twice then quotient + 1
  else if quotient % 2 = 0 then quotient
  else quotient + 1

/-- The rounded number is at most half a unit away. -/
theorem roundHalfEven_near (numerator : Nat) {denominator : Nat} (positive : 0 < denominator) :
    2 * numerator ≤ denominator * (2 * roundHalfEven numerator denominator + 1) ∧
      denominator * (2 * roundHalfEven numerator denominator) ≤ 2 * numerator + denominator := by
  have split : denominator * (numerator / denominator) + numerator % denominator = numerator :=
    Nat.div_add_mod numerator denominator
  have small : numerator % denominator < denominator := Nat.mod_lt _ positive
  have up : denominator * (2 * (numerator / denominator + 1)) =
      2 * (denominator * (numerator / denominator)) + 2 * denominator := by
    rw [Nat.mul_left_comm, Nat.mul_add, Nat.mul_one, Nat.mul_add]
  have down : denominator * (2 * (numerator / denominator)) =
      2 * (denominator * (numerator / denominator)) := Nat.mul_left_comm ..
  unfold roundHalfEven
  dsimp only
  constructor
  · (repeat' split) <;> rw [Nat.mul_add, Nat.mul_one] <;> omega
  · (repeat' split) <;> omega

/-- The fraction `numerator / denominator` with one decimal place. -/
def oneDecimal (numerator denominator : Nat) : String :=
  let tenths := roundHalfEven (10 * numerator) denominator
  toString (tenths / 10) ++ "." ++ toString (tenths % 10)

end TapeAdmin.Text
