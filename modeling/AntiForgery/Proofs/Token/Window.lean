import AntiForgery.Token.Engine
import Mathlib.Algebra.Group.Int.Defs

/-!
# The window of a token

The tests on the time of issue, said with integers: no reading of a clock is so far from another that
a stopped sum would change the verdict.  A window as long as the whole range of a clock is left out,
since no stopped difference exceeds it; the windows that the configuration allows are far shorter.
-/

namespace AntiForgery

/-- A number is cut to the range of the readings. -/
theorem Seconds.toInt_clamp_eq (value : Int) :
    (clamp value).toInt = max (-2 ^ 63) (min value (2 ^ 63 - 1)) := by
  have least : Int64.minValue.toInt = -2 ^ 63 := by decide
  have largest : Int64.maxValue.toInt = 2 ^ 63 - 1 := by decide
  rw [toInt_clamp, least, largest]

/-- The difference of two readings is the one of integers, cut to the range of the readings. -/
theorem Seconds.toInt_minus (left right : Seconds) :
    (left.minus right).toInt = max (-2 ^ 63) (min (left.toInt - right.toInt) (2 ^ 63 - 1)) :=
  toInt_clamp_eq _

theorem Seconds.toInt_plus (left right : Seconds) :
    (left.plus right).toInt = max (-2 ^ 63) (min (left.toInt + right.toInt) (2 ^ 63 - 1)) :=
  toInt_clamp_eq _

theorem Seconds.toInt_bounds (reading : Seconds) :
    -2 ^ 63 ≤ reading.toInt ∧ reading.toInt ≤ 2 ^ 63 - 1 := by
  have least := reading.le_toInt
  have largest := reading.toInt_lt
  omega

namespace Token

/-- A stamp lies too far ahead exactly if it does so in the integers, for no cut difference hides it. -/
theorem skewLimit_lt_minus_iff (issued now : Seconds) :
    skewLimit < issued.minus now ↔ now.toInt - issued.toInt < -60 := by
  have limit : skewLimit.toInt = 60 := by decide
  rw [Int64.lt_iff_toInt_lt, limit, Seconds.toInt_minus]
  omega

namespace Engine

/-- The time of issue lets a token pass: neither too far ahead of the clock nor too old. -/
structure Timely (engine : Engine) (issued now : Seconds) : Prop where
  notEarly : -60 ≤ now.toInt - issued.toInt
  notLate : now.toInt - issued.toInt ≤ engine.window.toInt

/-- A stamp is too old exactly if it is so in the integers. A window that ends with the range would be
reached by differences that are cut. -/
theorem window_lt_minus_iff
    {engine : Engine}
    (bounded : engine.window < Int64.maxValue)
    (issued now : Seconds) :
    engine.window < now.minus issued ↔ engine.window.toInt < now.toInt - issued.toInt := by
  have largest : Int64.maxValue.toInt = 2 ^ 63 - 1 := by decide
  have range := Seconds.toInt_bounds engine.window
  rw [Int64.lt_iff_toInt_lt, largest] at bounded
  rw [Int64.lt_iff_toInt_lt, Seconds.toInt_minus]
  omega

/-- A token that is stamped too far ahead is malformed. -/
theorem judgeTime_of_early
    {engine : Engine}
    {issued now : Seconds}
    (early : now.toInt - issued.toInt < -60) :
    engine.judgeTime issued now = .error .malformed := by
  rw [judgeTime, if_pos ((skewLimit_lt_minus_iff issued now).mpr early)]

/-- A token that is older than the window has expired. -/
theorem judgeTime_of_late
    {engine : Engine}
    (bounded : engine.window < Int64.maxValue)
    {issued now : Seconds}
    (notEarly : -60 ≤ now.toInt - issued.toInt)
    (late : engine.window.toInt < now.toInt - issued.toInt) :
    engine.judgeTime issued now = .error .expired := by
  have notAhead : ¬ skewLimit < issued.minus now := by
    rw [skewLimit_lt_minus_iff]
    omega
  rw [judgeTime, if_neg notAhead, if_pos ((window_lt_minus_iff bounded issued now).mpr late)]

/-- The two comparisons of the engine leave exactly the readings in the window. -/
theorem judgeTime_eq_ok_iff
    {engine : Engine}
    (bounded : engine.window < Int64.maxValue)
    {issued now : Seconds} :
    engine.judgeTime issued now = .ok () ↔ engine.Timely issued now := by
  have ahead := skewLimit_lt_minus_iff issued now
  have behind := window_lt_minus_iff bounded issued now
  simp only [judgeTime]
  constructor
  · intro passed
    split at passed
    · cases passed
    · next notAhead =>
        split at passed
        · cases passed
        · next notBehind =>
            rw [ahead] at notAhead
            rw [behind] at notBehind
            exact ⟨by omega, by omega⟩
  · rintro ⟨notEarly, notLate⟩
    rw [if_neg (by rw [ahead]; omega), if_neg (by rw [behind]; omega)]

/-- The last reading of a clock at which a token is in its window. -/
def lastReading (engine : Engine) (issued : Seconds) : Int :=
  min (issued.toInt + engine.window.toInt) (2 ^ 63 - 1)

/-- No token passes after its last reading. -/
theorem Timely.le_lastReading
    {engine : Engine}
    {issued now : Seconds}
    (timely : engine.Timely issued now) :
    now.toInt ≤ engine.lastReading issued := by
  have range := Seconds.toInt_bounds now
  have notLate := timely.notLate
  rw [lastReading]
  omega

/-- A token that is in its window at all is so at the last reading. -/
theorem Timely.of_lastReading
    {engine : Engine}
    {issued now later : Seconds}
    (timely : engine.Timely issued now)
    (last : later.toInt = engine.lastReading issued) :
    engine.Timely issued later := by
  have before := timely.le_lastReading
  obtain ⟨notEarly, notLate⟩ := timely
  rw [lastReading] at last before
  exact ⟨by omega, by omega⟩

theorem bounded_of_short {engine : Engine} (short : engine.window.toInt ≤ 2 ^ 62) :
    engine.window < Int64.maxValue := by
  have largest : Int64.maxValue.toInt = 2 ^ 63 - 1 := by decide
  rw [Int64.lt_iff_toInt_lt, largest]
  omega

/-- A token in its window is remembered up to its last reading, and for a second at least. -/
theorem claimLifetime_eq
    {engine : Engine}
    {issued now : Seconds}
    (short : engine.window.toInt ≤ 2 ^ 62)
    (timely : engine.Timely issued now) :
    engine.claimLifetime issued now = max 1 (engine.lastReading issued - now.toInt).toNat := by
  have range := Seconds.toInt_bounds now
  have notEarly := timely.notEarly
  have notLate := timely.notLate
  simp only [claimLifetime, Seconds.toLifetime, Seconds.toInt_minus, Seconds.toInt_plus, lastReading]
  omega

end Engine
end Token
end AntiForgery
