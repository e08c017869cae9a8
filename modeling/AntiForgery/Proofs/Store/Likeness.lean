import AntiForgery.Proofs.Store.Sweeping

/-!
# Stores that are alike under some keys

Two stores are alike under a set of keys if from now on the same records are live under these keys, at
every reading to come.  They need not hold the same records: one may have swept what the other still
holds, and the next sweep of each may be due at another time.  No answer tells alike stores apart, and
the same call leaves them alike.
-/

namespace AntiForgery
namespace Store

/-! ## Calls that reach the table -/

section Reached

variable {store : Store} {key : String} {lifetime : Nat}

theorem perform_record_of_none
    (reached : store.condition.intercept? (.record key lifetime) = none) :
    store.perform (.record key lifetime) =
      match deadline? store.clock lifetime with
      | none => (.error (.lifetimeOutOfRange lifetime), store)
      | some deadline => (.ok (), store.write key deadline) := by
  rw [perform, reached]
  simp only [Table.perform_record]
  cases deadline? store.clock lifetime <;> rfl

theorem perform_lookUp_of_none
    (reached : store.condition.intercept? (.lookUp key) = none) :
    store.perform (.lookUp key) =
      (.ok (if store.table.isLive key store.clock then .present else .absent), store) := by
  rw [perform, reached]
  rfl

theorem perform_claim_of_none
    (reached : store.condition.intercept? (.claim key lifetime) = none) :
    store.perform (.claim key lifetime) =
      if store.table.isLive key store.clock then (.ok false, store)
      else
        match deadline? store.clock lifetime with
        | none => (.error (.lifetimeOutOfRange lifetime), store)
        | some deadline => (.ok true, store.write key deadline) := by
  rw [perform, reached]
  simp only [Table.perform_claim]
  split
  · rfl
  · cases deadline? store.clock lifetime <;> rfl

theorem perform_remove_of_none
    (reached : store.condition.intercept? (.remove key) = none) :
    store.perform (.remove key) = (.ok (), { store with table := store.table.erase key }) := by
  rw [perform, reached]
  rfl

end Reached

/-! ## Likeness -/

/-- The stores behave in the same way, show the same time, and have the same live records under each of
the keys, now and later. -/
structure Alike (keys : String → Prop) (first second : Store) : Prop where
  condition : first.condition = second.condition
  clock : first.clock = second.clock
  same : ∀ key, keys key → ∀ later, first.clock ≤ later →
    first.table.liveUntil? key later = second.table.liveUntil? key later

namespace Alike

variable {keys : String → Prop} {first second third : Store}

theorem refl (keys : String → Prop) (store : Store) : Alike keys store store :=
  ⟨rfl, rfl, fun _ _ _ _ => rfl⟩

theorem symm (alike : Alike keys first second) : Alike keys second first where
  condition := alike.condition.symm
  clock := alike.clock.symm
  same key inside later ahead := (alike.same key inside later (by rwa [alike.clock])).symm

theorem trans (alike : Alike keys first second) (next : Alike keys second third) :
    Alike keys first third where
  condition := alike.condition.trans next.condition
  clock := alike.clock.trans next.clock
  same key inside later ahead :=
    (alike.same key inside later ahead).trans
      (next.same key inside later (by rwa [← alike.clock]))

/-- What keeps the record under each of the keys leaves the store as one alike. -/
theorem of_keeps
    (condition : first.condition = second.condition)
    (clock : first.clock = second.clock)
    (keeps : ∀ key, keys key → Keeps key first second) :
    Alike keys first second where
  condition := condition
  clock := clock
  same key inside later ahead := ((keeps key inside).same later (by rwa [← clock])).symm

/-- Stores that are alike agree about what is live under the keys. -/
theorem isLive_eq (alike : Alike keys first second) {key : String} (inside : keys key) :
    first.table.isLive key first.clock = second.table.isLive key second.clock := by
  rw [Table.isLive_eq_isSome, Table.isLive_eq_isSome,
    alike.same key inside first.clock (Nat.le_refl _), alike.clock]

theorem advance (alike : Alike keys first second) (milliseconds : Nat) :
    Alike keys (first.advance milliseconds) (second.advance milliseconds) where
  condition := alike.condition
  clock := congrArg (· + milliseconds) alike.clock
  same key inside later ahead := alike.same key inside later (Nat.le_of_add_right_le ahead)

/-- The same record is written to both, and each sweeps on its own account. -/
theorem write (alike : Alike keys first second) (key : String) (deadline : Nat) :
    Alike keys (first.write key deadline) (second.write key deadline) where
  condition := alike.condition
  clock := alike.clock
  same other inside later ahead := by
    rw [write_clock] at ahead
    by_cases own : other = key
    · rw [own, liveUntil?_write_self, liveUntil?_write_self]
    · rw [liveUntil?_write_of_ne own deadline first ahead,
        liveUntil?_write_of_ne own deadline second (by rwa [← alike.clock])]
      exact alike.same other inside later ahead

theorem erase (alike : Alike keys first second) (key : String) :
    Alike keys { first with table := first.table.erase key }
      { second with table := second.table.erase key } where
  condition := alike.condition
  clock := alike.clock
  same other inside later ahead := by
    by_cases own : other = key
    · rw [own, Table.liveUntil?_erase_self, Table.liveUntil?_erase_self]
    · rw [Table.liveUntil?_erase_of_ne _ own, Table.liveUntil?_erase_of_ne _ own]
      exact alike.same other inside later ahead

/-- A call about one of the keys gets the same answer from both, and leaves them alike. -/
theorem perform (alike : Alike keys first second) (call : Call α) (inside : keys call.key) :
    (first.perform call).1 = (second.perform call).1 ∧
      Alike keys (first.perform call).2 (second.perform call).2 := by
  have condition := alike.condition
  cases reached : first.condition.intercept? call with
  | some answer =>
      have otherReached := reached
      rw [condition] at otherReached
      simp only [Store.perform, reached, otherReached]
      exact ⟨trivial, alike⟩
  | none =>
      have otherReached := reached
      rw [condition] at otherReached
      cases call with
      | record key lifetime =>
          rw [perform_record_of_none reached, perform_record_of_none otherReached, ← alike.clock]
          cases deadline? first.clock lifetime with
          | none => exact ⟨rfl, alike⟩
          | some deadline => exact ⟨rfl, alike.write key deadline⟩
      | lookUp key =>
          have live : first.table.isLive key first.clock = second.table.isLive key second.clock :=
            alike.isLive_eq inside
          rw [perform_lookUp_of_none reached, perform_lookUp_of_none otherReached, live]
          exact ⟨rfl, alike⟩
      | claim key lifetime =>
          have live : first.table.isLive key first.clock = second.table.isLive key second.clock :=
            alike.isLive_eq inside
          rw [perform_claim_of_none reached, perform_claim_of_none otherReached, live, ← alike.clock]
          cases second.table.isLive key first.clock with
          | true => exact ⟨rfl, alike⟩
          | false =>
              cases deadline? first.clock lifetime with
              | none => exact ⟨rfl, alike⟩
              | some deadline => exact ⟨rfl, alike.write key deadline⟩
      | remove key =>
          rw [perform_remove_of_none reached, perform_remove_of_none otherReached]
          exact ⟨rfl, alike.erase key⟩

/-- Stores that are alike under every key hold as many live records. -/
theorem liveCount_eq (alike : Alike (fun _ => True) first second) :
    first.liveCount = second.liveCount := by
  have same : ∀ entry : Entry, first.clock < entry.deadline →
      (entry ∈ first.table.entries ↔ entry ∈ second.table.entries) := by
    intro entry ahead
    have found := alike.same entry.key trivial first.clock (Nat.le_refl _)
    have both : ∀ table : Table, entry ∈ table.entries ↔
        table.liveUntil? entry.key first.clock = some entry.deadline := by
      intro table
      rw [Table.liveUntil?_eq_some_iff]
      exact ⟨fun member => ⟨member, ahead⟩, fun there => there.1⟩
    rw [both, both, found]
  rw [liveCount, liveCount, ← alike.clock]
  exact length_live_eq first.table.distinct second.table.distinct same

end Alike
end Store
end AntiForgery
