import AntiForgery.Proofs.Token.Attempt
import AntiForgery.Proofs.Token.Judgement

/-!
# What makes a token acceptable

A check passes through conditions in a fixed order: the token opens, its time of issue lets it pass,
it belongs to the session, its record is free, and the record has an end that the clock reaches.  The
first condition that fails decides the answer, and those before the store decide it for every store.
-/

namespace AntiForgery
namespace Token
namespace Engine

/-- The answers that the store decides, for a token that it is asked about. -/
inductive Settles
    (engine : Engine)
    (session token : String)
    (now : Seconds)
    (store : Store) : Except Error Bool → Prop
  | spent
      (payload : Payload)
      (admits : engine.Admits session token now payload)
      (live : store.table.isLive (Store.spentKey token) store.clock = true) :
      Settles engine session token now store (.ok false)
  | endless
      (payload : Payload)
      (admits : engine.Admits session token now payload)
      (free : store.table.isLive (Store.spentKey token) store.clock = false)
      (beyond : Store.lastSecond <
        store.clock / 1000 + engine.claimLifetime payload.issued now) :
      Settles engine session token now store
        (.error (.store (.lifetimeOutOfRange (engine.claimLifetime payload.issued now))))
  | accepted
      (payload : Payload)
      (admits : engine.Admits session token now payload)
      (free : store.table.isLive (Store.spentKey token) store.clock = false)
      (within : store.clock / 1000 + engine.claimLifetime payload.issued now ≤
        Store.lastSecond) :
      Settles engine session token now store (.ok true)

/-! ## What a check does to the store -/

/-- A check either accepts the token, and then records it as spent, or changes nothing. -/
theorem check_cases
    (engine : Engine)
    (session token : String)
    (now : Seconds)
    (store : Store) :
    ((engine.check session token now store).1 ≠ .ok true ∧
      (engine.check session token now store).2 = store) ∨
    ∃ lifetime deadline,
      engine.judge session token now = .ok (.claim lifetime) ∧
      Store.deadline? store.clock lifetime = some deadline ∧
      store.table.isLive (Store.spentKey token) store.clock = false ∧
      engine.check session token now store =
        (.ok true, store.write (Store.spentKey token) deadline) := by
  let attempt : Attempt := ⟨session, token, now⟩
  rw [show engine.check session token now store = attempt.check engine store from rfl]
  rcases attempt.check_eq_lookUp_claim engine store with
    ⟨answer, looked, checked⟩ | ⟨lifetime, cleared, checked⟩
  · left
    rw [checked]
    refine ⟨?_, rfl⟩
    rintro rfl
    exact attempt.lookUp_ne_accepted engine store store.clock looked
  · rw [checked]
    rcases attempt.claim_cases lifetime store with refused | ⟨deadline, range, free, won⟩
    · exact .inl refused
    · exact .inr ⟨lifetime, deadline, Attempt.judge_of_lookUp_eq_cleared cleared, range, free, won⟩

/-- A token that is judged good is accepted by a store in sound condition if its record is free and
the clock reaches the end of a new one. -/
theorem check_of_sound
    {engine : Engine}
    {session token : String}
    {now : Seconds}
    {lifetime : Nat}
    (judged : engine.judge session token now = .ok (.claim lifetime))
    {store : Store}
    (sound : store.condition = .sound) :
    engine.check session token now store =
      if store.table.isLive (Store.spentKey token) store.clock then (.ok false, store)
      else
        match Store.deadline? store.clock lifetime with
        | none => (.error (.store (.lifetimeOutOfRange lifetime)), store)
        | some deadline => (.ok true, store.write (Store.spentKey token) deadline) := by
  let attempt : Attempt := ⟨session, token, now⟩
  rw [show engine.check session token now store = attempt.check engine store from rfl]
  have looked := @Attempt.lookUp_of_sound engine attempt lifetime judged store sound
  rcases attempt.check_eq_lookUp_claim engine store with
    ⟨answer, answered, checked⟩ | ⟨found, cleared, checked⟩
  · rw [checked]
    rw [answered] at looked
    split at looked
    · next live =>
        cases looked
        rw [if_pos live]
    · cases looked
  · rw [checked]
    rw [cleared] at looked
    split at looked
    · cases looked
    · cases looked
      exact attempt.claim_of_sound lifetime sound

/-- A token that is not accepted leaves the store as it is. -/
theorem check_store_of_ne
    {engine : Engine}
    {session token : String}
    {now : Seconds}
    {store : Store}
    (refused : (engine.check session token now store).1 ≠ .ok true) :
    (engine.check session token now store).2 = store := by
  rcases engine.check_cases session token now store with ⟨_, kept⟩ | ⟨_, _, _, _, _, accepted⟩
  · exact kept
  · rw [accepted] at refused
    exact absurd rfl refused

/-- A token that is accepted was judged good and had no record, and now has one. -/
theorem write_of_accepted
    {engine : Engine}
    {session token : String}
    {now : Seconds}
    {store : Store}
    (accepted : (engine.check session token now store).1 = .ok true) :
    ∃ lifetime deadline,
      engine.judge session token now = .ok (.claim lifetime) ∧
      Store.deadline? store.clock lifetime = some deadline ∧
      store.table.isLive (Store.spentKey token) store.clock = false ∧
      (engine.check session token now store).2 =
        store.write (Store.spentKey token) deadline := by
  rcases engine.check_cases session token now store with
    ⟨refused, _⟩ | ⟨lifetime, deadline, judged, range, free, written⟩
  · exact absurd accepted refused
  · exact ⟨lifetime, deadline, judged, range, free, by rw [written]⟩

/-- A check leaves the records under all keys but the token's own as they are. -/
theorem check_keeps
    (engine : Engine)
    (session : String)
    {token : String}
    (now : Seconds)
    (store : Store)
    {key : String}
    (different : key ≠ Store.spentKey token) :
    Store.Keeps key store (engine.check session token now store).2 := by
  rcases engine.check_cases session token now store with ⟨_, kept⟩ | ⟨_, _, _, _, _, written⟩
  · rw [kept]
    exact .refl key store
  · rw [written]
    exact .write different _ store

/-- A record stays guarded when a token is checked: its own is accepted only after the deadline. -/
theorem check_guards
    (engine : Engine)
    (session token : String)
    (now : Seconds)
    {store : Store}
    {spent : String}
    {deadline : Nat}
    (guards : store.Guards (Store.spentKey spent) deadline) :
    (engine.check session token now store).2.Guards (Store.spentKey spent) deadline := by
  by_cases own : token = spent
  · subst own
    rcases engine.check_cases session token now store with ⟨_, kept⟩ | ⟨_, _, _, _, free, written⟩
    · rw [kept]
      exact guards
    · rw [written]
      exact Store.guards_of_le _ (guards.le_clock free)
  · have different := (Store.spentKey_ne_spentKey own).symm
    exact guards.keeps (engine.check_keeps session now store different)

@[simp] theorem check_clock
    (engine : Engine)
    (session token : String)
    (now : Seconds)
    (store : Store) :
    (engine.check session token now store).2.clock = store.clock := by
  rcases engine.check_cases session token now store with ⟨_, kept⟩ | ⟨_, _, _, _, _, accepted⟩
  · rw [kept]
  · rw [accepted, Store.write_clock]

@[simp] theorem check_condition
    (engine : Engine)
    (session token : String)
    (now : Seconds)
    (store : Store) :
    (engine.check session token now store).2.condition = store.condition := by
  rcases engine.check_cases session token now store with ⟨_, kept⟩ | ⟨_, _, _, _, _, accepted⟩
  · rw [kept]
  · rw [accepted, Store.write_condition]

/-- Nothing is accepted when calls about tokens, or calls that write, fail. -/
theorem condition_of_accepted
    {engine : Engine}
    {session token : String}
    {now : Seconds}
    {store : Store}
    (accepted : (engine.check session token now store).1 = .ok true) :
    store.condition = .sound ∨ store.condition = .blind := by
  have spent := Store.isSpentKey_spentKey token
  simp only [check, claim, Store.perform] at accepted
  cases condition : store.condition with
  | sound => exact .inl rfl
  | blind => exact .inr rfl
  | broken =>
      simp only [condition, Store.Condition.intercept?] at accepted
      grind
  | outage =>
      simp only [condition, Store.Condition.intercept?, Store.Call.key, spent] at accepted
      grind
  | readOnly =>
      simp only [condition, Store.Condition.intercept?, Store.Call.writes] at accepted
      grind

/-! ## The answer of a check -/

/-- What is decided before the store is asked is decided for every store, and leaves it as it is. -/
theorem check_of_rejects
    {engine : Engine}
    (bounded : engine.window < Int64.maxValue)
    {session token : String}
    {now : Seconds}
    {answer : Except Error Bool}
    (rejects : engine.Rejects session token now answer)
    (store : Store) :
    engine.check session token now store = (answer, store) := by
  cases rejects with
  | unopened none =>
      cases read : engine.read token with
      | ok payload => exact absurd (read_eq_ok_iff.mp read) (none payload)
      | error error =>
          have malformed := read_error read
          subst malformed
          simp only [check, judge, read, bind, Except.bind]
  | early payload opens early =>
      simp only [check, judge_of_opens opens, judgeTime_of_early early]
  | late payload opens notEarly late =>
      simp only [check, judge_of_opens opens, judgeTime_of_late bounded notEarly late]
  | foreign payload opens timely foreign =>
      have other : ¬ payload.session = session := fun same => foreign (by rw [same])
      simp only [check, judge_of_opens opens, (judgeTime_eq_ok_iff bounded).mpr timely,
        if_neg other]

/-- A sound store answers a check as it is settled. -/
theorem check_of_settles
    {engine : Engine}
    (bounded : engine.window < Int64.maxValue)
    {session token : String}
    {now : Seconds}
    {store : Store}
    (sound : store.condition = .sound)
    {answer : Except Error Bool}
    (settles : engine.Settles session token now store answer) :
    (engine.check session token now store).1 = answer := by
  cases settles with
  | spent payload admits live =>
      have judged := (judge_eq_claim_iff bounded).mpr ⟨payload, admits, rfl⟩
      rw [check_of_sound judged sound, if_pos live]
  | endless payload admits free beyond =>
      have judged := (judge_eq_claim_iff bounded).mpr ⟨payload, admits, rfl⟩
      rw [check_of_sound judged sound, if_neg (by simp [free]),
        Store.deadline?_eq_none_iff.mpr beyond]
  | accepted payload admits free within =>
      have judged := (judge_eq_claim_iff bounded).mpr ⟨payload, admits, rfl⟩
      rw [check_of_sound judged sound, if_neg (by simp [free]),
        Store.deadline?_eq_some_iff.mpr ⟨within, rfl⟩]

/-- On a store in sound condition, the first condition that fails decides the answer. -/
theorem check_eq_iff
    {engine : Engine}
    (bounded : engine.window < Int64.maxValue)
    (session token : String)
    (now : Seconds)
    {store : Store}
    (sound : store.condition = .sound)
    (answer : Except Error Bool) :
    (engine.check session token now store).1 = answer ↔
      engine.Rejects session token now answer ∨
        engine.Settles session token now store answer := by
  constructor
  · rintro rfl
    rcases rejects_or_admits engine session token now with ⟨answer, rejects⟩ | ⟨payload, admits⟩
    · rw [check_of_rejects bounded rejects]
      exact .inl rejects
    · right
      cases live : store.table.isLive (Store.spentKey token) store.clock with
      | true =>
          have settles := Settles.spent payload admits live
          rwa [check_of_settles bounded sound settles]
      | false =>
          by_cases within : store.clock / 1000 + engine.claimLifetime payload.issued now ≤
              Store.lastSecond
          · have settles := Settles.accepted payload admits live within
            rwa [check_of_settles bounded sound settles]
          · have settles := Settles.endless payload admits live (by omega)
            rwa [check_of_settles bounded sound settles]
  · rintro (rejects | settles)
    · rw [check_of_rejects bounded rejects]
    · exact check_of_settles bounded sound settles

/-- A token is accepted exactly when every condition holds. -/
theorem check_eq_true_iff
    {engine : Engine}
    (bounded : engine.window < Int64.maxValue)
    (session token : String)
    (now : Seconds)
    {store : Store}
    (sound : store.condition = .sound) :
    (engine.check session token now store).1 = .ok true ↔
      ∃ payload,
        engine.Admits session token now payload ∧
        store.table.isLive (Store.spentKey token) store.clock = false ∧
        store.clock / 1000 + engine.claimLifetime payload.issued now ≤ Store.lastSecond := by
  rw [check_eq_iff bounded session token now sound]
  constructor
  · rintro (rejects | settles)
    · cases rejects
    · cases settles with
      | accepted payload admits free within => exact ⟨payload, admits, free, within⟩
  · rintro ⟨payload, admits, free, within⟩
    exact .inr (.accepted payload admits free within)

theorem ofSecret_of_size
    {secret : List UInt8}
    (sized : secret.length ∈ Cipher.secretSizes)
    (window : Seconds) :
    ofSecret secret window = .ok ⟨.ofKey secret, window⟩ := by
  simp only [ofSecret, Cipher.KeySchedule.ofSecret?, if_pos sized]

/-- The engine of a secret accepts a token exactly when every condition holds; otherwise the first
condition that fails decides the answer, and a condition that is looked at before the store decides
it for every store alike. -/
theorem ofSecret_check
    {secret : List UInt8}
    {window : Seconds}
    (sized : secret.length ∈ Cipher.secretSizes)
    (bounded : window < Int64.maxValue) :
    ∃ engine : Engine,
      ofSecret secret window = .ok engine ∧
      engine.schedule = .ofKey secret ∧
      engine.window = window ∧
      ∀ session token now,
        (∀ table clock,
          let store : Store := ⟨.sound, table, clock⟩
          ((engine.check session token now store).1 = .ok true ↔
            ∃ payload : Payload,
              engine.Opens token payload ∧
              (-60 ≤ now.toInt - payload.issued.toInt ∧
                now.toInt - payload.issued.toInt ≤ window.toInt) ∧
              Text.utf8 payload.session = Text.utf8 session ∧
              table.isLive (Store.spentKey token) clock = false ∧
              clock / 1000 + engine.claimLifetime payload.issued now ≤ Store.lastSecond) ∧
          ∀ answer,
            (engine.check session token now store).1 = answer ↔
              engine.Rejects session token now answer ∨
                engine.Settles session token now store answer) ∧
        ∀ answer, engine.Rejects session token now answer →
          ∀ store, engine.check session token now store = (answer, store) := by
  obtain ⟨engine, made, schedule, rfl⟩ : ∃ engine : Engine,
      ofSecret secret window = .ok engine ∧
      engine.schedule = .ofKey secret ∧
      engine.window = window :=
    ⟨_, ofSecret_of_size sized window, rfl, rfl⟩
  refine ⟨engine, made, schedule, rfl, fun session token now => ⟨?_, ?_⟩⟩
  · intro table clock store
    refine ⟨?_, check_eq_iff bounded session token now rfl⟩
    rw [check_eq_true_iff bounded session token now rfl]
    constructor
    · rintro ⟨payload, ⟨opens, timely, own⟩, free, within⟩
      exact ⟨payload, opens, ⟨timely.notEarly, timely.notLate⟩, own, free, within⟩
    · rintro ⟨payload, opens, ⟨notEarly, notLate⟩, own, free, within⟩
      exact ⟨payload, ⟨opens, ⟨notEarly, notLate⟩, own⟩, free, within⟩
  · intro answer rejects store
    exact check_of_rejects bounded rejects store

/-- A token for `sid-1` is accepted in the last second of its window, and refused one second later
whatever the store. -/
theorem ofSecret_check_zeros :
    (List.replicate 16 0 : List UInt8).length ∈ Cipher.secretSizes ∧
    (3600 : Seconds) < Int64.maxValue ∧
    ∃ engine : Engine,
      ofSecret (List.replicate 16 0) 3600 = .ok engine ∧
      ∃ token,
        (engine.check "sid-1" token 1700003600 (.new .sound)).1 = .ok true ∧
        ∀ store, engine.check "sid-1" token 1700003601 store = (.error .expired, store) := by
  have sized : (List.replicate 16 0 : List UInt8).length ∈ Cipher.secretSizes := by decide
  have bounded : (3600 : Seconds) < Int64.maxValue := by decide
  obtain ⟨engine, made, _, window, checks⟩ := ofSecret_check sized bounded
  have spelt : Payload.decode? (Payload.encode ⟨"sid-1", 1700000000⟩) =
      some ⟨"sid-1", 1700000000⟩ := by decide +kernel
  obtain ⟨token, opens⟩ := engine.exists_opens (by decide +kernel) spelt
  refine ⟨sized, bounded, engine, made, token, ?_, ?_⟩
  · apply ((checks _ token _).1 .empty 0).1.mpr
    have lifetime : engine.claimLifetime 1700000000 1700003600 = 1 := by
      rw [claimLifetime, window]
      decide
    refine ⟨_, opens, by decide, rfl, rfl, ?_⟩
    rw [lifetime]
    decide
  · exact (checks _ token _).2 _ (.late _ opens (by decide) (by rw [window]; decide))

end Engine
end Token
end AntiForgery
