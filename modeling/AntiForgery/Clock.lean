/-!
# Clock readings

Points in time and lengths of time in whole seconds, as integers of sixty-four bits with a sign.
Sums that leave that range stop at its ends, so a comparison of two readings gives the right verdict
also when the readings are far apart.  `toInt_clamp` says what a sum is as an integer.
-/

namespace AntiForgery

/-- Whole seconds: a length of time, or a point in time counted from the start of 1970. -/
abbrev Seconds := Int64

namespace Seconds

/-- The reading closest to an integer. -/
def clamp (value : Int) : Seconds := Int64.ofIntClamp value

/-- The sum, stopped at the ends of the range. -/
def plus (left right : Seconds) : Seconds := clamp (left.toInt + right.toInt)

/-- The difference, stopped at the ends of the range. -/
def minus (left right : Seconds) : Seconds := clamp (left.toInt - right.toInt)

/-- The product, stopped at the ends of the range. -/
def times (left right : Seconds) : Seconds := clamp (left.toInt * right.toInt)

/-- The length of a day. -/
def perDay : Seconds := 86400

/-- A time to live: at least one second, whatever is left. -/
def toLifetime (remaining : Seconds) : Nat := max 1 remaining.toInt.toNat

/-- A reading is the integer itself where that is in range, and the nearest end where it is not. -/
theorem toInt_clamp (value : Int) :
    (clamp value).toInt = max Int64.minValue.toInt (min value Int64.maxValue.toInt) := by
  have least : Int64.minValue.toInt = -9223372036854775808 := by decide
  have largest : Int64.maxValue.toInt = 9223372036854775807 := by decide
  simp only [clamp, Int64.ofIntClamp]
  split
  · next above =>
      split
      · next below =>
          rw [Int64.toInt_ofIntLE]
          omega
      · omega
  · omega

end Seconds
end AntiForgery
