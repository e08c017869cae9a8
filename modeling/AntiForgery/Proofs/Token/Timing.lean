import AntiForgery.Proofs.Token.Acceptance

/-!
# The interval of a token

The readings of a clock at which the time of issue lets a token pass are all those between a minute
before it and the end of the window, and a spent token is remembered for what is left of them.  Both are
said with integers, for times of issue and readings up to the ends of their range: no stopped sum moves
a verdict there, and none shortens or lengthens a record.
-/

namespace AntiForgery
namespace Token
namespace Engine

/-! ## The verdict on the time of issue -/

section Verdict

variable {engine : Engine} {issued now : Seconds}

/-- The window in the integers is an interval around the stamp. -/
theorem timely_iff :
    engine.Timely issued now ↔
      issued.toInt - 60 ≤ now.toInt ∧ now.toInt ≤ issued.toInt + engine.window.toInt := by
  constructor
  · rintro ⟨notEarly, notLate⟩
    exact ⟨by omega, by omega⟩
  · rintro ⟨above, below⟩
    exact ⟨by omega, by omega⟩

/-- A reading is early, in time or late, and the verdict says which. -/
theorem judgeTime_cases
    (bounded : engine.window < Int64.maxValue)
    (issued now : Seconds) :
    (now.toInt < issued.toInt - 60 ∧ engine.judgeTime issued now = .error .malformed) ∨
    (engine.Timely issued now ∧ engine.judgeTime issued now = .ok ()) ∨
    (issued.toInt + engine.window.toInt < now.toInt ∧
      engine.judgeTime issued now = .error .expired) := by
  by_cases early : now.toInt < issued.toInt - 60
  · exact .inl ⟨early, judgeTime_of_early (by omega)⟩
  · by_cases late : issued.toInt + engine.window.toInt < now.toInt
    · exact .inr (.inr ⟨late, judgeTime_of_late bounded (by omega) (by omega)⟩)
    · have timely : engine.Timely issued now := timely_iff.mpr ⟨by omega, by omega⟩
      exact .inr (.inl ⟨timely, (judgeTime_eq_ok_iff bounded).mpr timely⟩)

/-- A token is malformed by time exactly before the window. -/
theorem judgeTime_eq_malformed_iff
    (bounded : engine.window < Int64.maxValue)
    (least : 0 ≤ engine.window.toInt) :
    engine.judgeTime issued now = .error .malformed ↔ now.toInt < issued.toInt - 60 := by
  rcases judgeTime_cases bounded issued now with
    ⟨early, judged⟩ | ⟨timely, judged⟩ | ⟨late, judged⟩
  · exact iff_of_true judged early
  · have above := (timely_iff.mp timely).1
    exact iff_of_false (by simp [judged]) (by omega)
  · exact iff_of_false (by simp [judged]) (by omega)

theorem judgeTime_eq_expired_iff
    (bounded : engine.window < Int64.maxValue)
    (least : 0 ≤ engine.window.toInt) :
    engine.judgeTime issued now = .error .expired ↔
      issued.toInt + engine.window.toInt < now.toInt := by
  rcases judgeTime_cases bounded issued now with
    ⟨early, judged⟩ | ⟨timely, judged⟩ | ⟨late, judged⟩
  · exact iff_of_false (by simp [judged]) (by omega)
  · have below := (timely_iff.mp timely).2
    exact iff_of_false (by simp [judged]) (by omega)
  · exact iff_of_true judged late

end Verdict

/-! ## The length of a record -/

/-- What is left of the window is the length of the record, and where the window ends beyond the last
reading there is, what is left up to that. -/
theorem cast_claimLifetime
    {engine : Engine}
    {issued now : Seconds}
    (short : engine.window.toInt ≤ 2 ^ 62)
    (timely : engine.Timely issued now) :
    (engine.claimLifetime issued now : Int) =
      max 1 (min (issued.toInt + engine.window.toInt) (2 ^ 63 - 1) - now.toInt) := by
  have last := timely.le_lastReading
  rw [claimLifetime_eq short timely, lastReading] at *
  omega

/-! ## Checks -/

/-- An error that comes up while a token is claimed is one of the store. -/
theorem error_of_claim
    {token : String}
    {lifetime : Nat}
    {store : Store}
    {error : Error}
    (failed : (claim token lifetime store).1 = .error error) :
    ∃ failure, error = .store failure := by
  simp only [claim] at failed
  grind

/-- What is judged of a token whose time of issue lets it pass is only whose it is. -/
theorem judge_of_timely
    {engine : Engine}
    (bounded : engine.window < Int64.maxValue)
    {token : String}
    {payload : Payload}
    (opens : engine.Opens token payload)
    {now : Seconds}
    (timely : engine.Timely payload.issued now)
    (session : String) :
    engine.judge session token now =
      .ok (if payload.session = session then .claim (engine.claimLifetime payload.issued now)
        else .foreign) := by
  rw [judge_of_opens opens, (judgeTime_eq_ok_iff bounded).mpr timely]
  dsimp only
  split
  · rfl
  · rfl

/-- The only errors of a check of a token whose time of issue lets it pass are those of the store. -/
theorem error_of_check_of_timely
    {engine : Engine}
    (bounded : engine.window < Int64.maxValue)
    {token : String}
    {payload : Payload}
    (opens : engine.Opens token payload)
    {now : Seconds}
    (timely : engine.Timely payload.issued now)
    {session : String}
    {store : Store}
    {error : Error}
    (failed : (engine.check session token now store).1 = .error error) :
    ∃ failure, error = .store failure := by
  have judged := judge_of_timely bounded opens timely session
  by_cases own : payload.session = session
  · rw [if_pos own] at judged
    simp only [check, judged] at failed
    exact error_of_claim failed
  · rw [if_neg own] at judged
    simp only [check, judged] at failed
    cases failed

/-! ## Timing -/

/-- Timing is exact at every time of issue and every reading there is.  The time of issue lets a token
pass between a minute before it and the end of the window, and at no other reading; every reading before
that is too early and every one after it too late, and a check answers accordingly, whatever the session
and the store.  The record of a token that passes lasts for what is left of the window as far as the
clock goes, and for a second at least. -/
theorem timing_exact
    {engine : Engine}
    (least : 1 ≤ engine.window.toInt)
    (most : engine.window.toInt ≤ 2592000)
    (issued now : Seconds) :
    (engine.judgeTime issued now = .ok () ↔
      issued.toInt - 60 ≤ now.toInt ∧ now.toInt ≤ issued.toInt + engine.window.toInt) ∧
    (engine.judgeTime issued now = .error .malformed ↔ now.toInt < issued.toInt - 60) ∧
    (engine.judgeTime issued now = .error .expired ↔
      issued.toInt + engine.window.toInt < now.toInt) ∧
    (engine.judgeTime issued now = .ok () →
      (engine.claimLifetime issued now : Int) =
        max 1 (min (issued.toInt + engine.window.toInt) Int64.maxValue.toInt - now.toInt) ∧
      1 ≤ engine.claimLifetime issued now ∧
      (engine.claimLifetime issued now : Int) ≤ engine.window.toInt + 60) ∧
    ∀ token owner, engine.Opens token ⟨owner, issued⟩ →
      ∀ session store,
        (now.toInt < issued.toInt - 60 →
          engine.check session token now store = (.error .malformed, store)) ∧
        (issued.toInt + engine.window.toInt < now.toInt →
          engine.check session token now store = (.error .expired, store)) ∧
        (issued.toInt - 60 ≤ now.toInt → now.toInt ≤ issued.toInt + engine.window.toInt →
          engine.judge session token now =
            .ok (if owner = session then .claim (engine.claimLifetime issued now) else .foreign) ∧
          ∀ error, (engine.check session token now store).1 = .error error →
            ∃ failure, error = .store failure) := by
  have bounded : engine.window < Int64.maxValue := bounded_of_short (by omega)
  have largest : Int64.maxValue.toInt = 2 ^ 63 - 1 := by decide
  have passes : engine.judgeTime issued now = .ok () ↔
      issued.toInt - 60 ≤ now.toInt ∧ now.toInt ≤ issued.toInt + engine.window.toInt := by
    rw [judgeTime_eq_ok_iff bounded, timely_iff]
  refine ⟨passes, judgeTime_eq_malformed_iff bounded (by omega),
    judgeTime_eq_expired_iff bounded (by omega), ?_, ?_⟩
  · intro passed
    have range := Seconds.toInt_bounds now
    have length := cast_claimLifetime (by omega) (timely_iff.mpr (passes.mp passed))
    obtain ⟨above, below⟩ := passes.mp passed
    rw [← largest] at length
    exact ⟨length, by omega, by omega⟩
  · intro token owner opens session store
    refine ⟨fun early => ?_, fun late => ?_, fun above below => ?_⟩
    · exact check_of_rejects bounded (.early _ opens (by dsimp only; omega)) store
    · exact check_of_rejects bounded (.late _ opens (by dsimp only; omega) (by dsimp only; omega)) store
    · have timely : engine.Timely issued now := timely_iff.mpr ⟨above, below⟩
      exact ⟨judge_of_timely bounded opens timely session,
        fun error failed => error_of_check_of_timely bounded opens timely failed⟩

/-- At the ends of the clock: a token of the last reading of all is claimed a minute ahead for sixty
seconds and in its own second for one, and a token of the first reading is in time up to an hour later
and too old at the last. -/
theorem timing_exact_ends :
    ∃ engine : Engine,
      ofSecret (List.replicate 16 0) 3600 = .ok engine ∧
      1 ≤ engine.window.toInt ∧
      engine.window.toInt ≤ 2592000 ∧
      (engine.claimLifetime Int64.maxValue (Int64.maxValue - 60) : Int) = 60 ∧
      (engine.claimLifetime Int64.maxValue Int64.maxValue : Int) = 1 ∧
      engine.judgeTime Int64.maxValue (Int64.maxValue - 61) = .error .malformed ∧
      engine.judgeTime Int64.minValue (Int64.minValue + 3600) = .ok () ∧
      ∃ token, ∀ session store,
        engine.check session token Int64.maxValue store = (.error .expired, store) := by
  let engine : Engine := ⟨.ofKey (List.replicate 16 0), 3600⟩
  have least : 1 ≤ engine.window.toInt := by decide
  have most : engine.window.toInt ≤ 2592000 := by decide
  have spelt : Payload.decode? (Payload.encode ⟨"sid-1", Int64.minValue⟩) =
      some ⟨"sid-1", Int64.minValue⟩ := by decide +kernel
  obtain ⟨token, opens⟩ := engine.exists_opens (by decide +kernel) spelt
  have ahead := timing_exact least most Int64.maxValue (Int64.maxValue - 60)
  have level := timing_exact least most Int64.maxValue Int64.maxValue
  have early := timing_exact least most Int64.maxValue (Int64.maxValue - 61)
  have inTime := timing_exact least most Int64.minValue (Int64.minValue + 3600)
  have late := timing_exact least most Int64.minValue Int64.maxValue
  refine ⟨engine, ofSecret_of_size (by decide) 3600, least, most, ?_, ?_,
    early.2.1.mpr (by decide), inTime.1.mpr (by decide), token, ?_⟩
  · rw [(ahead.2.2.2.1 (ahead.1.mpr (by decide))).1]
    decide
  · rw [(level.2.2.2.1 (level.1.mpr (by decide))).1]
    decide
  · intro session store
    exact (late.2.2.2.2 token "sid-1" opens session store).2.1 (by decide)

end Engine
end Token
end AntiForgery
