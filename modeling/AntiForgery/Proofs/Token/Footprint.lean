import AntiForgery.Proofs.Token.Acceptance

/-!
# What a check leaves behind

A check that does not accept a token leaves the whole store as it was, down to the records that have
ended.  So a token is not lost to its owner because somebody else tried it, or because it was tried
too early, too late, or while the store was out of service.  A check that accepts adds one record, and
says nothing about any other.
-/

namespace AntiForgery
namespace Store

/-- The live records of a store are those of another one and one more, which was not live there. -/
structure Gains (key : String) (deadline : Nat) (before after : Store) : Prop where
  clock : after.clock = before.clock
  condition : after.condition = before.condition
  ahead : before.clock < deadline
  free : before.liveUntil? key = none
  live : ∀ other last, after.liveUntil? other = some last ↔
    before.liveUntil? other = some last ∨ other = key ∧ last = deadline

theorem liveUntil?_eq_none_iff {key : String} {store : Store} :
    store.liveUntil? key = none ↔ store.table.isLive key store.clock = false := by
  rw [Table.isLive_eq_isSome, Option.isSome_eq_false_iff, Option.isNone_iff_eq_none, liveUntil?]

/-- A record that is written under a free key is gained, also where the write has swept. -/
theorem gains_write
    {key : String}
    {deadline : Nat}
    {store : Store}
    (free : store.table.isLive key store.clock = false)
    (ahead : store.clock < deadline) :
    Gains key deadline store (store.write key deadline) where
  clock := rfl
  condition := rfl
  ahead := ahead
  free := liveUntil?_eq_none_iff.mpr free
  live other last := by
    rw [liveUntil?, write_clock]
    by_cases own : other = key
    · subst own
      rw [liveUntil?_write_self, if_pos ahead, liveUntil?_eq_none_iff.mpr free]
      simp [eq_comm]
    · rw [liveUntil?_write_of_ne own deadline store (Nat.le_refl _), liveUntil?]
      simp [own]

end Store

namespace Token
namespace Engine

/-- A check brings in a record only if it accepts the token, and only that of the token. -/
theorem mem_of_mem_check
    {engine : Engine}
    {session token : String}
    {now : Seconds}
    {store : Store}
    {entry : Store.Entry}
    (member : entry ∈ (engine.check session token now store).2.table.entries) :
    entry ∈ store.table.entries ∨
      (engine.check session token now store).1 = .ok true ∧
      ∃ payload,
        engine.Opens token payload ∧
        entry = ⟨Store.spentKey token,
          store.clock + 1000 * engine.claimLifetime payload.issued now⟩ := by
  by_cases accepted : (engine.check session token now store).1 = .ok true
  · obtain ⟨lifetime, deadline, judged, range, _, written⟩ := write_of_accepted accepted
    obtain ⟨payload, opens, rfl⟩ := exists_opens_of_judge judged
    obtain ⟨_, rfl⟩ := Store.deadline?_eq_some_iff.mp range
    rw [written] at member
    rcases Store.mem_of_mem_write member with own | kept
    · exact .inr ⟨accepted, payload, opens, own⟩
    · exact .inl kept
  · rw [check_store_of_ne accepted] at member
    exact .inl member

/-- A check that does not accept changes nothing, whatever the reason and whatever the condition of
the store.  One that accepts adds the record of its token to the live records, to end when the claim
is over, and changes none of the others. -/
theorem check_footprint
    (engine : Engine)
    (session token : String)
    (now : Seconds)
    (store : Store) :
    let answer := (engine.check session token now store).1
    let after := (engine.check session token now store).2
    (answer ≠ .ok true → after = store) ∧
    (answer = .ok true → ∃ payload,
      engine.Opens token payload ∧
      Store.Gains (Store.spentKey token)
        (store.clock + 1000 * engine.claimLifetime payload.issued now) store after) := by
  intro answer after
  refine ⟨check_store_of_ne, fun accepted => ?_⟩
  obtain ⟨lifetime, deadline, judged, range, free, written⟩ := write_of_accepted accepted
  obtain ⟨payload, opens, rfl⟩ := exists_opens_of_judge judged
  have ahead := Store.deadline_pos (one_le_of_judge judged) range
  obtain ⟨_, rfl⟩ := Store.deadline?_eq_some_iff.mp range
  refine ⟨payload, opens, ?_⟩
  rw [show after = _ from written]
  exact Store.gains_write free ahead

/-- A token that another session has tried in vain is still good for its owner, whose check records it
next to a live session. -/
theorem check_footprint_two_sessions :
    ∃ (engine : Engine) (token : String) (store after : Store),
      store.liveUntil? "session:a" = some 5000 ∧
      engine.check "sid-2" token 1700000000 store = (.ok false, store) ∧
      engine.check "sid-1" token 1700000000 store = (.ok true, after) ∧
      Store.Gains (Store.spentKey token) 3600000 store after := by
  let engine : Engine := ⟨.ofKey (List.replicate 16 0), 3600⟩
  let payload : Payload := ⟨"sid-1", 1700000000⟩
  let store : Store := (Store.new .sound).write "session:a" 5000
  have bounded : engine.window < Int64.maxValue := by decide
  have spelt : Payload.decode? payload.encode = some payload := by decide +kernel
  obtain ⟨token, opens⟩ := engine.exists_opens (by decide +kernel) spelt
  have timely : engine.Timely 1700000000 1700000000 := ⟨by decide, by decide⟩
  have foreign : Text.utf8 payload.session ≠ Text.utf8 "sid-2" := by decide +kernel
  have refused : (engine.check "sid-2" token 1700000000 store).1 = .ok false :=
    congrArg Prod.fst (check_of_rejects bounded (.foreign payload opens timely foreign) store)
  have kept := (check_footprint engine "sid-2" token 1700000000 store).1 (by simp [refused])
  have other : Store.spentKey token ≠ "session:a" := by
    intro same
    have letters := congrArg (fun key => key.toList.head?) same
    simp [Store.spentKey, Store.spentPrefix] at letters
  have free : store.table.isLive (Store.spentKey token) store.clock = false :=
    (Store.Keeps.write other 5000 (.new .sound)).isLive_eq (Nat.le_refl 0)
  have accepted : (engine.check "sid-1" token 1700000000 store).1 = .ok true :=
    (check_eq_true_iff bounded _ _ _ rfl).mpr
      ⟨payload, ⟨opens, timely, rfl⟩, free, by decide⟩
  obtain ⟨found, opensFound, gains⟩ :=
    (check_footprint engine "sid-1" token 1700000000 store).2 accepted
  obtain rfl := opensFound.unique opens
  have lifetime : engine.claimLifetime 1700000000 1700000000 = 3600 := by decide
  refine ⟨engine, token, store, _, by decide +kernel, Prod.ext refused kept,
    Prod.ext accepted rfl, ?_⟩
  rwa [show store.clock = 0 from rfl, show payload.issued = 1700000000 from rfl, lifetime] at gains

end Engine
end Token
end AntiForgery
