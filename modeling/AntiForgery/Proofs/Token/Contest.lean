import AntiForgery.Proofs.Token.Race

/-!
# Races that the first claim decides

When every check of a token is judged good and the token has no record at the start, nobody is
answered before the first claim.  That claim succeeds, and until its end all others are refused.
-/

namespace AntiForgery
namespace Token
namespace Race

variable {Caller : Type} [DecidableEq Caller]
variable {engine : Engine} {attempts : Caller → Attempt} {token : String}

/-- The claims of the token, in order. -/
def claimsOf
    (attempts : Caller → Attempt)
    (token : String)
    (race : Race Caller) : List (Claim Caller) :=
  race.claims.filter fun claim => (attempts claim.caller).token == token

omit [DecidableEq Caller] in
theorem own_of_head?_claimsOf
    {race : Race Caller}
    {first : Claim Caller}
    (head : (race.claimsOf attempts token).head? = some first) :
    first ∈ race.claims ∧ (attempts first.caller).token = token := by
  have member := List.mem_filter.mp (List.mem_of_head? head)
  exact ⟨member.1, by simpa using member.2⟩

/-- A claim joins the claims of its own token. -/
theorem claimsOf_claim
    (caller : Caller)
    (lifetime : Nat)
    (race : Race Caller) :
    (race.claim attempts caller lifetime).claimsOf attempts token =
      race.claimsOf attempts token ++
        if (attempts caller).token = token then
          [⟨caller, lifetime, race.store.clock,
            ((attempts caller).claim lifetime race.store).1⟩]
        else [] := by
  simp only [claimsOf, claim_claims, List.filter_append, List.filter_singleton]
  congr 1
  by_cases own : (attempts caller).token = token
  · rw [if_pos own, own, beq_self_eq_true, cond_true]
  · rw [if_neg own, beq_eq_false_iff_ne.mpr own, cond_false]

/-- The race is decided by its first claim: that one succeeded, and until its end every other check
that is answered is refused. -/
structure Decided
    (attempts : Caller → Attempt)
    (token : String)
    (first : Claim Caller)
    (race : Race Caller) : Prop where
  winner : race.stage first.caller = .done (.ok true) first.reading
  guards : race.store.Guards (Store.spentKey token) (first.reading + 1000 * first.lifetime)
  losers : ∀ caller, (attempts caller).token = token → caller ≠ first.caller →
    ∀ answer reading, race.stage caller = .done answer reading →
      reading < first.reading + 1000 * first.lifetime → answer = .ok false

/-- What holds of a race for a token that is free at the start and that every check is judged good
for: nobody is answered before the first claim, and the first claim decides, if it is in range. -/
structure Contest
    (attempts : Caller → Attempt)
    (token : String)
    (race : Race Caller) : Prop where
  undecided : race.claimsOf attempts token = [] →
    race.store.table.isLive (Store.spentKey token) race.store.clock = false ∧
    ∀ caller, (attempts caller).token = token →
      ∀ answer reading, race.stage caller ≠ .done answer reading
  decided : ∀ first, (race.claimsOf attempts token).head? = some first →
    Store.deadline? first.reading first.lifetime ≠ none → Decided attempts token first race

omit [DecidableEq Caller] in
/-- Before the race nobody has claimed the token. -/
theorem contest_start
    {store : Store}
    (free : store.table.isLive (Store.spentKey token) store.clock = false) :
    Contest attempts token (start store) where
  undecided _ := ⟨free, fun _ _ _ _ => by simp [start]⟩
  decided _ head := by simp [start, claimsOf] at head

omit [DecidableEq Caller] in
/-- What happens under other keys does not decide the contest. -/
theorem Contest.of_keeps
    {before after : Race Caller}
    (contest : Contest attempts token before)
    (keeps : Store.Keeps (Store.spentKey token) before.store after.store)
    (stage : after.stage = before.stage)
    (claims : after.claims = before.claims) :
    Contest attempts token after where
  undecided empty := by
    rw [claimsOf, claims] at empty
    have open_ := contest.undecided empty
    exact ⟨keeps.free open_.1, by rw [stage]; exact open_.2⟩
  decided first head range := by
    rw [claimsOf, claims] at head
    have decided := contest.decided first head range
    exact ⟨by rw [stage]; exact decided.winner, decided.guards.keeps keeps,
      by rw [stage]; exact decided.losers⟩

/-- A caller that looks the token up does not decide the contest. -/
theorem Contest.lookUp
    {race : Race Caller}
    (contest : Contest attempts token race)
    (sound : race.store.condition = .sound)
    (good : ∀ caller, (attempts caller).token = token → ∃ lifetime,
      (attempts caller).judge engine = .ok (.claim lifetime))
    (caller : Caller)
    (begun : race.stage caller = .begun) :
    Contest attempts token (race.lookUp engine attempts caller) where
  undecided empty := by
    obtain ⟨free, unanswered⟩ := contest.undecided empty
    refine ⟨free, fun other own answer reading => ?_⟩
    by_cases same : other = caller
    · subst same
      obtain ⟨lifetime, judged⟩ := good other own
      have cleared := Attempt.lookUp_of_sound judged sound
      rw [own, free] at cleared
      rw [lookUp_stage_self, cleared]
      simp
    · rw [lookUp_stage_of_ne same]
      exact unanswered other own answer reading
  decided first head range := by
    have decided := contest.decided first head range
    have notWinner : first.caller ≠ caller := by
      rintro rfl
      rw [decided.winner] at begun
      cases begun
    refine ⟨?_, decided.guards, fun other own rival answer reading answered early => ?_⟩
    · rw [lookUp_stage_of_ne notWinner]
      exact decided.winner
    · by_cases same : other = caller
      · subst same
        obtain ⟨lifetime, judged⟩ := good other own
        rw [lookUp_stage_self, Attempt.lookUp_of_sound judged sound] at answered
        split at answered
        · cases answered
          rfl
        · cases answered
      · rw [lookUp_stage_of_ne same] at answered
        exact decided.losers other own rival answer reading answered early

/-- The first claim succeeds if it is in range. -/
theorem Contest.first_claim
    {race : Race Caller}
    (contest : Contest attempts token race)
    (sound : race.store.condition = .sound)
    (empty : race.claimsOf attempts token = [])
    {caller : Caller}
    (own : (attempts caller).token = token)
    (lifetime : Nat)
    (range : Store.deadline? race.store.clock lifetime ≠ none) :
    Decided attempts token
      ⟨caller, lifetime, race.store.clock, ((attempts caller).claim lifetime race.store).1⟩
      (race.claim attempts caller lifetime) := by
  obtain ⟨free, unanswered⟩ := contest.undecided empty
  obtain ⟨deadline, within⟩ := Option.ne_none_iff_exists'.mp range
  have won := Attempt.claim_of_sound (attempts caller) lifetime sound
  rw [own, free, within] at won
  simp only [Bool.false_eq_true, if_false] at won
  refine ⟨?_, ?_, fun other ownOther rival answer reading answered _ => ?_⟩
  · rw [claim_stage_self, won]
  · rw [claim_store, won, ← (Store.deadline?_eq_some_iff.mp within).2]
    exact Store.guards_write _ _ _
  · rw [claim_stage_of_ne rival] at answered
    exact absurd answered (unanswered other ownOther answer reading)

/-- A later claim is refused unless the end of the first one has passed. -/
theorem Decided.claim
    {race : Race Caller}
    {first : Claim Caller}
    (decided : Decided attempts token first race)
    (sound : race.store.condition = .sound)
    (caller : Caller)
    (lifetime : Nat)
    (cleared : race.stage caller = .cleared lifetime) :
    Decided attempts token first (race.claim attempts caller lifetime) := by
  have notWinner : first.caller ≠ caller := by
    rintro rfl
    rw [decided.winner] at cleared
    cases cleared
  refine ⟨?_, ?_, fun other ownOther rival answer reading answered early => ?_⟩
  · rw [claim_stage_of_ne notWinner]
    exact decided.winner
  · exact guards_claim decided.guards (attempts caller) lifetime
  · by_cases same : other = caller
    · subst same
      rw [claim_stage_self, Stage.done.injEq] at answered
      obtain ⟨rfl, rfl⟩ := answered
      have live := decided.guards _ (Nat.le_refl _) early
      rw [Attempt.claim_of_sound (attempts other) lifetime sound, ownOther, if_pos live]
    · rw [claim_stage_of_ne same] at answered
      exact decided.losers other ownOther rival answer reading answered early

theorem Contest.claim_of_foreign
    {race : Race Caller}
    (contest : Contest attempts token race)
    (sound : race.store.condition = .sound)
    {caller : Caller}
    (foreign : (attempts caller).token ≠ token)
    (lifetime : Nat)
    (cleared : race.stage caller = .cleared lifetime) :
    Contest attempts token (race.claim attempts caller lifetime) where
  undecided empty := by
    rw [claimsOf_claim, if_neg foreign, List.append_nil] at empty
    obtain ⟨free, unanswered⟩ := contest.undecided empty
    refine ⟨(Attempt.claim_keeps foreign lifetime race.store).free free, ?_⟩
    intro other own answer reading
    have different : other ≠ caller := by
      rintro rfl
      exact foreign own
    rw [claim_stage_of_ne different]
    exact unanswered other own answer reading
  decided first head range := by
    rw [claimsOf_claim, if_neg foreign, List.append_nil] at head
    exact (contest.decided first head range).claim sound caller lifetime cleared

/-- The first claim of the token decides the contest, and every later one loses. -/
theorem Contest.claim
    {race : Race Caller}
    (contest : Contest attempts token race)
    (sound : race.store.condition = .sound)
    {caller : Caller}
    (own : (attempts caller).token = token)
    (lifetime : Nat)
    (cleared : race.stage caller = .cleared lifetime) :
    Contest attempts token (race.claim attempts caller lifetime) where
  undecided empty := by
    rw [claimsOf_claim, if_pos own] at empty
    simp at empty
  decided first head range := by
    rw [claimsOf_claim, if_pos own] at head
    cases earlier : race.claimsOf attempts token with
    | nil =>
        rw [earlier, List.nil_append, List.head?_cons, Option.some.injEq] at head
        subst head
        exact contest.first_claim sound earlier own lifetime range
    | cons claim others =>
        rw [earlier, List.cons_append, List.head?_cons, Option.some.injEq] at head
        subst head
        have decided := contest.decided claim (by rw [earlier, List.head?_cons]) range
        exact decided.claim sound caller lifetime cleared

/-- No step of the race breaks the contest. -/
theorem Contest.step
    {before after : Race Caller}
    (contest : Contest attempts token before)
    (sound : before.store.condition = .sound)
    (good : ∀ caller, (attempts caller).token = token → ∃ lifetime,
      (attempts caller).judge engine = .ok (.claim lifetime))
    (step : Step engine attempts token before after) :
    Contest attempts token after := by
  cases step with
  | lookUp caller begun => exact contest.lookUp sound good caller begun
  | claim caller lifetime cleared =>
      by_cases own : (attempts caller).token = token
      · exact contest.claim sound own lifetime cleared
      · exact contest.claim_of_foreign sound own lifetime cleared
  | outside call elsewhere =>
      exact contest.of_keeps (.perform elsewhere.symm before.store) rfl rfl
  | pass milliseconds =>
      exact contest.of_keeps (.advance _ before.store milliseconds) rfl rfl

theorem Run.contest
    {store : Store}
    {race : Race Caller}
    (run : Run engine attempts token (start store) race)
    (sound : store.condition = .sound)
    (good : ∀ caller, (attempts caller).token = token → ∃ lifetime,
      (attempts caller).judge engine = .ok (.claim lifetime))
    (free : store.table.isLive (Store.spentKey token) store.clock = false) :
    Contest attempts token race := by
  induction run with
  | refl => exact contest_start free
  | tail before step ih => exact ih.step (Run.sound before sound) good step

omit [DecidableEq Caller] in
/-- When every check of the token is answered before the end of the first claim, one is accepted and
the others are refused. -/
theorem Contest.one_winner
    {race : Race Caller}
    (contest : Contest attempts token race)
    (someone : ∃ caller, (attempts caller).token = token)
    (range : ∀ claim ∈ race.claims, (attempts claim.caller).token = token →
      Store.deadline? claim.reading claim.lifetime ≠ none)
    (finished : ∀ caller, (attempts caller).token = token →
      ∃ answer reading, race.stage caller = .done answer reading ∧
        ∀ first, (race.claimsOf attempts token).head? = some first →
          reading < first.reading + 1000 * first.lifetime) :
    ∃ winner reading,
      (attempts winner).token = token ∧
      race.stage winner = .done (.ok true) reading ∧
      ∀ other, (attempts other).token = token → other ≠ winner →
        ∃ reading, race.stage other = .done (.ok false) reading := by
  obtain ⟨caller, own⟩ := someone
  cases claims : race.claimsOf attempts token with
  | nil =>
      obtain ⟨answer, reading, answered, _⟩ := finished caller own
      exact absurd answered ((contest.undecided claims).2 caller own answer reading)
  | cons first others =>
      have head : (race.claimsOf attempts token).head? = some first := by
        rw [claims, List.head?_cons]
      obtain ⟨member, ownFirst⟩ := own_of_head?_claimsOf head
      have decided := contest.decided first head (range first member ownFirst)
      refine ⟨first.caller, first.reading, ownFirst, decided.winner, ?_⟩
      intro other ownOther rival
      obtain ⟨answer, reading, answered, early⟩ := finished other ownOther
      have refused := decided.losers other ownOther rival answer reading answered (early first head)
      exact ⟨reading, by rw [answered, refused]⟩

/-- Two checks of a token are accepted only a lifetime apart, and of those that are judged good and
answered before the end of the first claim exactly one is accepted. -/
theorem Run.accepts_one
    {store : Store}
    {race : Race Caller}
    (run : Run engine attempts token (start store) race)
    (sound : store.condition = .sound) :
    (∀ first second, first ≠ second →
      (attempts first).token = token → (attempts second).token = token →
      ∀ firstReading secondReading,
        race.stage first = .done (.ok true) firstReading →
        race.stage second = .done (.ok true) secondReading →
        firstReading ≤ secondReading →
        ∃ lifetime, (attempts first).judge engine = .ok (.claim lifetime) ∧
          firstReading + 1000 * lifetime ≤ secondReading) ∧
    ((∃ caller, (attempts caller).token = token) →
      (∀ caller, (attempts caller).token = token →
        ∃ lifetime, (attempts caller).judge engine = .ok (.claim lifetime)) →
      store.table.isLive (Store.spentKey token) store.clock = false →
      (∀ claim ∈ race.claims, (attempts claim.caller).token = token →
        Store.deadline? claim.reading claim.lifetime ≠ none) →
      (∀ caller, (attempts caller).token = token →
        ∃ answer reading, race.stage caller = .done answer reading ∧
          ∀ first, (race.claimsOf attempts token).head? = some first →
            reading < first.reading + 1000 * first.lifetime) →
      ∃ winner reading,
        (attempts winner).token = token ∧
        race.stage winner = .done (.ok true) reading ∧
        ∀ other, (attempts other).token = token → other ≠ winner →
          ∃ reading, race.stage other = .done (.ok false) reading) := by
  constructor
  · intro first second different ownFirst ownSecond firstReading secondReading
      acceptedFirst acceptedSecond order
    exact run.exclusive.apart different ownFirst ownSecond acceptedFirst acceptedSecond order
  · intro someone good free range finished
    exact (run.contest sound good free).one_winner someone range finished

/-- Both checks have looked the record up, and neither has claimed it. -/
theorem run_ready
    {attempts : Bool → Attempt}
    (own : ∀ caller, (attempts caller).token = token)
    {lifetime : Nat}
    (judged : ∀ caller, (attempts caller).judge engine = .ok (.claim lifetime))
    {store : Store}
    (sound : store.condition = .sound)
    (free : store.table.isLive (Store.spentKey token) store.clock = false) :
    ∃ ready, Run engine attempts token (start store) ready ∧
      ready.store = store ∧
      ready.claims = [] ∧
      ∀ caller, ready.stage caller = .cleared lifetime := by
  let looked : Race Bool := (start store).lookUp engine attempts false
  let ready := looked.lookUp engine attempts true
  have cleared : ∀ caller, (attempts caller).lookUp engine store = .cleared lifetime := by
    intro caller
    rw [Attempt.lookUp_of_sound (judged caller) sound, own, if_neg (by simp [free])]
  have looked_run : Run engine attempts token (start store) looked :=
    .single (.lookUp _ false rfl)
  have ready_run : Run engine attempts token (start store) ready :=
    looked_run.tail (.lookUp looked true (lookUp_stage_of_ne (by simp) _))
  refine ⟨ready, ready_run, rfl, rfl, ?_⟩
  intro caller
  cases caller with
  | false =>
      rw [lookUp_stage_of_ne (by simp), lookUp_stage_self]
      exact cleared false
  | true =>
      rw [lookUp_stage_self]
      exact cleared true

/-- A claim of the same length that waits since the last one succeeds if it waits for its end. -/
theorem claim_of_waited
    {attempt : Attempt}
    (own : attempt.token = token)
    {lifetime : Nat}
    {store : Store}
    (sound : store.condition = .sound)
    (wait : Nat)
    (within : (store.clock + wait) / 1000 + lifetime ≤ Store.lastSecond) :
    (attempt.claim lifetime
      ((store.write (Store.spentKey token) (store.clock + 1000 * lifetime)).advance wait)).1 =
        .ok (decide (1000 * lifetime ≤ wait)) := by
  let spent := store.write (Store.spentKey token) (store.clock + 1000 * lifetime)
  have live : (spent.advance wait).table.isLive (Store.spentKey token) (spent.advance wait).clock =
      decide (store.clock + wait < store.clock + 1000 * lifetime) :=
    Store.isLive_write_self ..
  have range : Store.deadline? (spent.advance wait).clock lifetime =
      some (store.clock + wait + 1000 * lifetime) :=
    Store.deadline?_eq_some_iff.mpr ⟨within, rfl⟩
  have waited : (spent.advance wait).condition = .sound := sound
  rw [Attempt.claim_of_sound _ _ waited, own, live, range]
  by_cases ended : 1000 * lifetime ≤ wait
  · rw [if_neg (by simp only [decide_eq_true_eq]; omega), decide_eq_true ended]
  · rw [if_pos (by simp only [decide_eq_true_eq]; omega), decide_eq_false ended]

/-- Two checks that both look the record up before either claims it: the first claim succeeds, and the
second one exactly when it waits for the end of the first. -/
theorem run_overlap
    {attempts : Bool → Attempt}
    (own : ∀ caller, (attempts caller).token = token)
    {lifetime : Nat}
    (judged : ∀ caller, (attempts caller).judge engine = .ok (.claim lifetime))
    {store : Store}
    (sound : store.condition = .sound)
    (free : store.table.isLive (Store.spentKey token) store.clock = false)
    (wait : Nat)
    (within : (store.clock + wait) / 1000 + lifetime ≤ Store.lastSecond) :
    ∃ race, Run engine attempts token (start store) race ∧
      race.stage false = .done (.ok true) store.clock ∧
      race.stage true = .done (.ok (decide (1000 * lifetime ≤ wait))) (store.clock + wait) ∧
      race.claims = [⟨false, lifetime, store.clock, .ok true⟩,
        ⟨true, lifetime, store.clock + wait, .ok (decide (1000 * lifetime ≤ wait))⟩] := by
  obtain ⟨ready, ready_run, ready_store, ready_claims, ready_stage⟩ :=
    run_ready own judged sound free
  -- The first claim, and then the wait.
  let spent := store.write (Store.spentKey token) (store.clock + 1000 * lifetime)
  have won : (attempts false).claim lifetime ready.store = (.ok true, spent) := by
    have range : Store.deadline? store.clock lifetime = some (store.clock + 1000 * lifetime) :=
      Store.deadline?_eq_some_iff.mpr ⟨by omega, rfl⟩
    rw [ready_store, Attempt.claim_of_sound _ _ sound, own, if_neg (by simp [free]), range]
  let claimed := ready.claim attempts false lifetime
  let waited : Race Bool := { claimed with store := claimed.store.advance wait }
  have waited_run : Run engine attempts token (start store) waited :=
    (ready_run.tail (.claim ready false lifetime (ready_stage false))).tail (.pass claimed wait)
  have waited_store : waited.store = spent.advance wait := by
    rw [show waited.store = claimed.store.advance wait from rfl, claim_store, won]
  have waiting : waited.stage true = .cleared lifetime := by
    rw [show waited.stage = claimed.stage from rfl, claim_stage_of_ne (by simp)]
    exact ready_stage true
  have answered : ((attempts true).claim lifetime waited.store).1 =
      .ok (decide (1000 * lifetime ≤ wait)) := by
    rw [waited_store]
    exact claim_of_waited (own true) sound wait within
  refine ⟨waited.claim attempts true lifetime,
    waited_run.tail (.claim waited true lifetime waiting), ?_, ?_, ?_⟩
  · rw [claim_stage_of_ne (by simp), show waited.stage = claimed.stage from rfl,
      claim_stage_self, won, ready_store]
  · rw [claim_stage_self, answered, waited_store]
    rfl
  · rw [claim_claims, answered, waited_store, show waited.claims = claimed.claims from rfl,
      claim_claims, won, ready_store, ready_claims]
    rfl

/-- In the last second of its window a token is claimed for a second: of two claims at once one is
refused, and two that are a second apart are both accepted. -/
theorem accepts_one_zeros :
    ∃ (engine : Engine) (token : String),
      let attempts : Bool → Attempt := fun _ => ⟨"sid-1", token, 1700003600⟩
      (∃ race, Run engine attempts token (start (.new .sound)) race ∧
        ∃ winner reading,
          race.stage winner = .done (.ok true) reading ∧
          ∀ other, other ≠ winner → ∃ reading, race.stage other = .done (.ok false) reading) ∧
      ∃ race, Run engine attempts token (start (.new .sound)) race ∧
        race.stage false = .done (.ok true) 0 ∧
        race.stage true = .done (.ok true) 1000 ∧
        ∃ lifetime, (attempts false).judge engine = .ok (.claim lifetime) ∧
          0 + 1000 * lifetime ≤ 1000 := by
  let engine : Engine := ⟨.ofKey (List.replicate 16 0), 3600⟩
  have spelt : Payload.decode? (Payload.encode ⟨"sid-1", 1700000000⟩) =
      some ⟨"sid-1", 1700000000⟩ := by decide +kernel
  obtain ⟨token, opens⟩ := engine.exists_opens (by decide +kernel) spelt
  have timely : engine.Timely 1700000000 1700003600 := ⟨by decide, by decide⟩
  have lifetime : engine.claimLifetime 1700000000 1700003600 = 1 := by decide
  refine ⟨engine, token, ?_⟩
  intro attempts
  have judged : ∀ caller, (attempts caller).judge engine = .ok (.claim 1) := by
    intro caller
    rw [Attempt.judge, Engine.judge_eq_claim_iff (by decide)]
    exact ⟨_, ⟨opens, timely, rfl⟩, lifetime.symm⟩
  let store : Store := .new .sound
  have free : store.table.isLive (Store.spentKey token) store.clock = false := rfl
  have overlap := run_overlap (fun _ => rfl) judged (show store.condition = .sound from rfl) free
  constructor
  · obtain ⟨race, run, first, second, claims⟩ := overlap 0 (by decide)
    have range : ∀ claim ∈ race.claims, (attempts claim.caller).token = token →
        Store.deadline? claim.reading claim.lifetime ≠ none := by
      rw [claims]
      intro claim member _
      simp only [List.mem_cons, List.not_mem_nil, or_false] at member
      rcases member with rfl | rfl <;> decide
    have finished : ∀ caller, (attempts caller).token = token →
        ∃ answer reading, race.stage caller = .done answer reading ∧
          ∀ first, (race.claimsOf attempts token).head? = some first →
            reading < first.reading + 1000 * first.lifetime := by
      have all : race.claimsOf attempts token = race.claims :=
        List.filter_eq_self.mpr fun _ _ => beq_self_eq_true token
      rw [all, claims]
      intro caller _
      cases caller with
      | false => exact ⟨_, _, first, by simp⟩
      | true => exact ⟨_, _, second, by simp⟩
    obtain ⟨winner, reading, _, won, lost⟩ := (run.accepts_one rfl).2
      ⟨false, rfl⟩ (fun caller _ => ⟨1, judged caller⟩) free range finished
    exact ⟨race, run, winner, reading, won, fun other => lost other rfl⟩
  · obtain ⟨race, run, first, second, _⟩ := overlap 1000 (by decide)
    have apart := (run.accepts_one rfl).1 false true (by simp) rfl rfl 0 1000 first second (by simp)
    exact ⟨race, run, first, second, apart⟩

end Race
end Token
end AntiForgery
