import AntiForgery.Store.Condition
import Mathlib.Tactic.ByContra

/-!
# Live records

A table is seen through one function: the reading at which the record under a key ends, if it has not
ended.  Each call to a table changes that view at its own key only, and a sweep does not change it at
all.  The same holds of a store in any condition.
-/

namespace AntiForgery
namespace Store

/-- A deadline is the end of the lifetime, if the clock can show it. -/
theorem deadline?_eq_some_iff {now lifetime deadline : Nat} :
    deadline? now lifetime = some deadline ↔
      now / 1000 + lifetime ≤ lastSecond ∧ deadline = now + 1000 * lifetime := by
  simp only [deadline?]
  split
  · simp only [Option.some.injEq]
    omega
  · simp only [reduceCtorEq, false_iff]
    omega

theorem deadline?_eq_none_iff {now lifetime : Nat} :
    deadline? now lifetime = none ↔ lastSecond < now / 1000 + lifetime := by
  simp only [deadline?]
  split
  · simp only [reduceCtorEq, false_iff]
    omega
  · simp only [true_iff]
    omega

/-- Where no two records have one key, the record that is found under a key is the one that has it. -/
theorem find?_key_eq_some_iff
    {entries : List Entry}
    (distinct : entries.Pairwise fun earlier later => earlier.key ≠ later.key)
    {key : String}
    {entry : Entry} :
    entries.find? (·.key == key) = some entry ↔ entry ∈ entries ∧ entry.key = key := by
  induction entries with
  | nil => simp
  | cons first rest ih =>
      have others := (List.pairwise_cons.mp distinct).1
      have restDistinct := (List.pairwise_cons.mp distinct).2
      by_cases found : first.key = key
      · rw [List.find?_cons_of_pos (by simpa using found)]
        simp only [Option.some.injEq, List.mem_cons]
        constructor
        · rintro rfl
          exact ⟨.inl rfl, found⟩
        · rintro ⟨rfl | member, same⟩
          · rfl
          · exact absurd (found.trans same.symm) (others entry member)
      · rw [List.find?_cons_of_neg (by simpa using found), ih restDistinct]
        simp only [List.mem_cons]
        constructor
        · rintro ⟨member, same⟩
          exact ⟨.inr member, same⟩
        · rintro ⟨rfl | member, same⟩
          · exact absurd same found
          · exact ⟨member, same⟩

namespace Table

/-- The reading at which the record under a key ends, if it has not ended. -/
def liveUntil? (key : String) (now : Nat) (table : Table) : Option Nat :=
  ((table.find? key).map (·.deadline)).filter fun deadline => now < deadline

theorem find?_eq_some_iff
    {table : Table}
    {key : String}
    {entry : Entry} :
    table.find? key = some entry ↔ entry ∈ table.entries ∧ entry.key = key :=
  find?_key_eq_some_iff table.distinct

/-- A key is live until the deadline of its entry, which lies ahead. -/
theorem liveUntil?_eq_some_iff
    {table : Table}
    {key : String}
    {now deadline : Nat} :
    table.liveUntil? key now = some deadline ↔
      ⟨key, deadline⟩ ∈ table.entries ∧ now < deadline := by
  simp only [liveUntil?, Option.filter_eq_some_iff, Option.map_eq_some_iff, find?_eq_some_iff,
    decide_eq_true_eq]
  constructor
  · rintro ⟨⟨entry, ⟨member, rfl⟩, rfl⟩, ahead⟩
    exact ⟨member, ahead⟩
  · rintro ⟨member, ahead⟩
    exact ⟨⟨_, ⟨member, rfl⟩, rfl⟩, ahead⟩

theorem isLive_eq_isSome (table : Table) (key : String) (now : Nat) :
    table.isLive key now = (table.liveUntil? key now).isSome := by
  simp only [isLive, liveUntil?]
  cases table.find? key with
  | none => rfl
  | some entry =>
      by_cases ahead : now < entry.deadline <;>
        simp [Entry.isLive, Option.filter, ahead]

/-- A record that is live at a reading was live at each earlier one. -/
theorem liveUntil?_later
    (table : Table)
    (key : String)
    {now later : Nat}
    (order : now ≤ later) :
    table.liveUntil? key later = (table.liveUntil? key now).filter fun deadline => later < deadline := by
  ext deadline
  simp only [Option.filter_eq_some_iff, liveUntil?_eq_some_iff, decide_eq_true_eq]
  constructor
  · rintro ⟨member, ahead⟩
    exact ⟨⟨member, by omega⟩, ahead⟩
  · rintro ⟨⟨member, _⟩, ahead⟩
    exact ⟨member, ahead⟩

/-- A sweep drops only what has ended. -/
theorem liveUntil?_sweep
    (table : Table)
    (key : String)
    {now later : Nat}
    (order : now ≤ later) :
    (table.sweep now).liveUntil? key later = table.liveUntil? key later := by
  ext deadline
  simp only [liveUntil?_eq_some_iff, sweep]
  split
  · rfl
  · simp only [List.mem_filter, Entry.isLive, decide_eq_true_eq]
    constructor
    · rintro ⟨⟨member, _⟩, ahead⟩
      exact ⟨member, ahead⟩
    · rintro ⟨member, ahead⟩
      exact ⟨⟨member, by omega⟩, ahead⟩

@[simp] theorem liveUntil?_erase_self (table : Table) (key : String) (now : Nat) :
    (table.erase key).liveUntil? key now = none := by
  rw [Option.eq_none_iff_forall_ne_some]
  intro deadline live
  simp [liveUntil?_eq_some_iff, erase] at live

/-- To remove a key does not touch the others. -/
theorem liveUntil?_erase_of_ne
    (table : Table)
    {key other : String}
    (different : other ≠ key)
    (now : Nat) :
    (table.erase key).liveUntil? other now = table.liveUntil? other now := by
  ext deadline
  simp [liveUntil?_eq_some_iff, erase, different]

theorem liveUntil?_put_self
    (table : Table)
    (key : String)
    (deadline now : Nat) :
    (table.put ⟨key, deadline⟩).liveUntil? key now =
      if now < deadline then some deadline else none := by
  ext other
  have member : (⟨key, other⟩ : Entry) ∈ (table.put ⟨key, deadline⟩).entries ↔ other = deadline := by
    simp [put, erase]
  rw [liveUntil?_eq_some_iff, member]
  split
  · next ahead =>
      simp only [Option.some.injEq]
      constructor
      · rintro ⟨rfl, _⟩
        rfl
      · rintro rfl
        exact ⟨rfl, ahead⟩
  · next ended =>
      simp only [reduceCtorEq, iff_false, not_and]
      rintro rfl
      exact ended

theorem liveUntil?_put_of_ne
    (table : Table)
    (entry : Entry)
    {other : String}
    (different : other ≠ entry.key)
    (now : Nat) :
    (table.put entry).liveUntil? other now = table.liveUntil? other now := by
  ext deadline
  obtain ⟨key, last⟩ := entry
  simp only [ne_eq] at different
  simp [liveUntil?_eq_some_iff, put, erase, different]

/-- To record a key is to sweep the table and to write the key, if there is a deadline. -/
theorem perform_record (table : Table) (now : Nat) (key : String) (lifetime : Nat) :
    table.perform now (.record key lifetime) =
      match deadline? now lifetime with
      | none => (.error (.lifetimeOutOfRange lifetime), table)
      | some deadline => (.ok (), (table.sweep now).put ⟨key, deadline⟩) := by
  simp only [perform, insert]
  cases deadline? now lifetime <;> rfl

/-- To claim a key is to record it, unless it is live. -/
theorem perform_claim (table : Table) (now : Nat) (key : String) (lifetime : Nat) :
    table.perform now (.claim key lifetime) =
      if table.isLive key now then (.ok false, table)
      else
        match deadline? now lifetime with
        | none => (.error (.lifetimeOutOfRange lifetime), table)
        | some deadline => (.ok true, (table.sweep now).put ⟨key, deadline⟩) := by
  simp only [perform, insert]
  cases deadline? now lifetime <;> rfl

/-- Neither does the sweep before it, as it drops nothing that is live now or later. -/
theorem liveUntil?_put_sweep_of_ne
    (table : Table)
    (entry : Entry)
    {other : String}
    (different : other ≠ entry.key)
    {now later : Nat}
    (order : now ≤ later) :
    ((table.sweep now).put entry).liveUntil? other later = table.liveUntil? other later := by
  rw [liveUntil?_put_of_ne _ _ different, liveUntil?_sweep _ _ order]

/-- A call leaves the records under all other keys as they are. -/
theorem liveUntil?_perform_of_ne
    (table : Table)
    (call : Call α)
    {other : String}
    (different : other ≠ call.key)
    {now later : Nat}
    (order : now ≤ later) :
    (table.perform now call).2.liveUntil? other later = table.liveUntil? other later := by
  cases call with
  | record key lifetime =>
      rw [perform_record]
      split
      · rfl
      · exact liveUntil?_put_sweep_of_ne _ _ different order
  | lookUp key => rfl
  | claim key lifetime =>
      rw [perform_claim]
      split
      · rfl
      · split
        · rfl
        · exact liveUntil?_put_sweep_of_ne _ _ different order
  | remove key => exact liveUntil?_erase_of_ne _ different _

end Table

/-! ## Stores in any condition -/

/-- The reading at which the record under a key ends, if it has not ended, whatever the condition. -/
def liveUntil? (key : String) (store : Store) : Option Nat :=
  store.table.liveUntil? key store.clock

@[simp] theorem perform_clock (store : Store) (call : Call α) :
    (store.perform call).2.clock = store.clock := by
  simp only [perform]
  split <;> rfl

@[simp] theorem perform_condition (store : Store) (call : Call α) :
    (store.perform call).2.condition = store.condition := by
  simp only [perform]
  split <;> rfl

@[simp] theorem perform_lookUp_store (store : Store) (key : String) :
    (store.perform (.lookUp key)).2 = store := by
  simp only [perform]
  split <;> rfl

/-- A sound store hands every call to its table. -/
theorem perform_of_sound
    {store : Store}
    (sound : store.condition = .sound)
    (call : Call α) :
    store.perform call =
      ((store.table.perform store.clock call).1,
        { store with table := (store.table.perform store.clock call).2 }) := by
  simp only [perform, sound, Condition.intercept?]

/-- A call does not touch the keys that it does not name. -/
theorem liveUntil?_perform_of_ne
    (store : Store)
    (call : Call α)
    {other : String}
    (different : other ≠ call.key)
    {later : Nat}
    (order : store.clock ≤ later) :
    (store.perform call).2.table.liveUntil? other later = store.table.liveUntil? other later := by
  simp only [perform]
  split
  · rfl
  · exact Table.liveUntil?_perform_of_ne _ _ different order

/-- The store after a record is written. -/
def write (key : String) (deadline : Nat) (store : Store) : Store :=
  { store with table := (store.table.sweep store.clock).put ⟨key, deadline⟩ }

@[simp] theorem write_clock (key : String) (deadline : Nat) (store : Store) :
    (store.write key deadline).clock = store.clock := rfl

@[simp] theorem write_condition (key : String) (deadline : Nat) (store : Store) :
    (store.write key deadline).condition = store.condition := rfl

theorem liveUntil?_write_self
    (key : String)
    (deadline : Nat)
    (store : Store)
    (later : Nat) :
    (store.write key deadline).table.liveUntil? key later =
      if later < deadline then some deadline else none :=
  Table.liveUntil?_put_self _ key deadline later

theorem isLive_write_self (key : String) (deadline : Nat) (store : Store) (later : Nat) :
    (store.write key deadline).table.isLive key later = decide (later < deadline) := by
  rw [Table.isLive_eq_isSome, liveUntil?_write_self]
  by_cases early : later < deadline
  · rw [if_pos early, Option.isSome_some, decide_eq_true early]
  · rw [if_neg early, Option.isSome_none, decide_eq_false early]

theorem liveUntil?_write_of_ne
    {key other : String}
    (different : other ≠ key)
    (deadline : Nat)
    (store : Store)
    {later : Nat}
    (order : store.clock ≤ later) :
    (store.write key deadline).table.liveUntil? other later =
      store.table.liveUntil? other later :=
  Table.liveUntil?_put_sweep_of_ne _ _ different order

/-- A write brings in one record and none besides. -/
theorem mem_of_mem_write
    {key : String}
    {deadline : Nat}
    {store : Store}
    {entry : Entry}
    (member : entry ∈ (store.write key deadline).table.entries) :
    entry = ⟨key, deadline⟩ ∨ entry ∈ store.table.entries := by
  simp only [write, Table.put, Table.erase, Table.sweep, List.mem_cons, List.mem_filter] at member
  rcases member with written | ⟨kept, _⟩
  · exact .inl written
  · right
    split at kept
    · exact kept
    · exact (List.mem_filter.mp kept).1

theorem mem_of_mem_perform_remove
    {key : String}
    {store : Store}
    {entry : Entry}
    (member : entry ∈ (store.perform (.remove key)).2.table.entries) :
    entry ∈ store.table.entries := by
  simp only [perform] at member
  split at member
  · exact member
  · exact (List.mem_filter.mp member).1

theorem perform_lookUp_of_sound
    {store : Store}
    (sound : store.condition = .sound)
    (key : String) :
    store.perform (.lookUp key) =
      (.ok (if store.table.isLive key store.clock then .present else .absent), store) := by
  rw [perform_of_sound sound]
  rfl

/-- A sound store grants a claim to a key that is not live, if there is a deadline. -/
theorem perform_claim_of_sound
    {store : Store}
    (sound : store.condition = .sound)
    (key : String)
    (lifetime : Nat) :
    store.perform (.claim key lifetime) =
      if store.table.isLive key store.clock then (.ok false, store)
      else
        match deadline? store.clock lifetime with
        | none => (.error (.lifetimeOutOfRange lifetime), store)
        | some deadline => (.ok true, store.write key deadline) := by
  rw [perform_of_sound sound, Table.perform_claim]
  split
  · rfl
  · cases deadline? store.clock lifetime <;> rfl

/-- How long the record is to last that a call writes, if it writes one. -/
def Call.lifetime? : Call α → Option Nat
  | .record _ lifetime => some lifetime
  | .lookUp _ => none
  | .claim _ lifetime => some lifetime
  | .remove _ => none

/-- A sound store fails only where a record would have no end. -/
theorem perform_ne_error_of_sound
    {store : Store}
    (sound : store.condition = .sound)
    {call : Call α}
    (within : ∀ lifetime, call.lifetime? = some lifetime →
      store.clock / 1000 + lifetime ≤ lastSecond)
    (failure : Failure) :
    (store.perform call).1 ≠ .error failure := by
  have ends : ∀ lifetime, call.lifetime? = some lifetime →
      deadline? store.clock lifetime = some (store.clock + 1000 * lifetime) :=
    fun lifetime own => deadline?_eq_some_iff.mpr ⟨within lifetime own, rfl⟩
  cases call with
  | record key lifetime =>
      rw [perform_of_sound sound, Table.perform_record, ends lifetime rfl]
      simp
  | lookUp key => simp [perform_lookUp_of_sound sound]
  | claim key lifetime =>
      rw [perform_claim_of_sound sound, ends lifetime rfl]
      split <;> simp
  | remove key =>
      rw [perform_of_sound sound, Table.perform]
      simp

/-- A condition that keeps a write from the table answers with a failure. -/
theorem Condition.eq_error_of_intercept?
    {condition : Condition}
    {call : Call α}
    {answer : Except Failure α}
    (writes : call.writes = true)
    (intercepted : condition.intercept? call = some answer) :
    ∃ reason, answer = .error (.unavailable reason) := by
  cases condition with
  | sound => simp [intercept?] at intercepted
  | broken => exact ⟨_, (Option.some.inj intercepted).symm⟩
  | outage =>
      simp only [intercept?] at intercepted
      split at intercepted
      · exact ⟨_, (Option.some.inj intercepted).symm⟩
      · cases intercepted
  | readOnly =>
      simp only [intercept?, writes, if_true] at intercepted
      exact ⟨_, (Option.some.inj intercepted).symm⟩
  | blind => cases call <;> simp_all [intercept?, Call.writes]

/-- Recording a key either succeeds, and then writes the record, or changes nothing. -/
theorem perform_record_cases (store : Store) (key : String) (lifetime : Nat) :
    ((store.perform (.record key lifetime)).1 ≠ .ok () ∧
      (store.perform (.record key lifetime)).2 = store) ∨
    ∃ deadline,
      deadline? store.clock lifetime = some deadline ∧
      store.perform (.record key lifetime) = (.ok (), store.write key deadline) := by
  simp only [perform]
  cases intercepted : store.condition.intercept? (.record key lifetime) with
  | some answer =>
      obtain ⟨reason, rfl⟩ := Condition.eq_error_of_intercept? rfl intercepted
      exact .inl ⟨by simp, rfl⟩
  | none =>
      simp only [Table.perform_record]
      cases range : deadline? store.clock lifetime with
      | none => simp
      | some deadline => simp [write]

/-- A claim either succeeds, and then records a key that was free, or changes nothing. -/
theorem perform_claim_cases (store : Store) (key : String) (lifetime : Nat) :
    ((store.perform (.claim key lifetime)).1 ≠ .ok true ∧
      (store.perform (.claim key lifetime)).2 = store) ∨
    ∃ deadline,
      deadline? store.clock lifetime = some deadline ∧
      store.table.isLive key store.clock = false ∧
      store.perform (.claim key lifetime) = (.ok true, store.write key deadline) := by
  simp only [perform]
  cases intercepted : store.condition.intercept? (.claim key lifetime) with
  | some answer =>
      obtain ⟨reason, rfl⟩ := Condition.eq_error_of_intercept? rfl intercepted
      exact .inl ⟨by simp, rfl⟩
  | none =>
      simp only [Table.perform_claim]
      cases live : store.table.isLive key store.clock with
      | true => simp
      | false =>
          cases range : deadline? store.clock lifetime with
          | none => simp
          | some deadline => simp [write]

/-! ## What becomes of the record under one key -/

theorem deadline_pos {now lifetime deadline : Nat} (positive : 1 ≤ lifetime)
    (range : deadline? now lifetime = some deadline) : now < deadline := by
  have length := (deadline?_eq_some_iff.mp range).2
  omega

/-- The record under a key is the same in both stores, as far as readings from now on can tell. -/
structure Keeps (key : String) (before after : Store) : Prop where
  order : before.clock ≤ after.clock
  same : ∀ later, after.clock ≤ later →
    after.table.liveUntil? key later = before.table.liveUntil? key later

namespace Keeps

variable {key : String} {before middle after : Store}

theorem refl (key : String) (store : Store) : Keeps key store store :=
  ⟨Nat.le_refl _, fun _ _ => rfl⟩

theorem trans (first : Keeps key before middle) (second : Keeps key middle after) :
    Keeps key before after where
  order := Nat.le_trans first.order second.order
  same later ahead :=
    (second.same later ahead).trans (first.same later (Nat.le_trans second.order ahead))

theorem perform {call : Call α} (different : key ≠ call.key) (store : Store) :
    Keeps key store (store.perform call).2 where
  order := Nat.le_of_eq (perform_clock store call).symm
  same later ahead := by
    rw [perform_clock] at ahead
    exact liveUntil?_perform_of_ne store call different ahead

theorem write {other : String} (different : key ≠ other) (deadline : Nat) (store : Store) :
    Keeps key store (store.write other deadline) where
  order := Nat.le_refl _
  same _ ahead := liveUntil?_write_of_ne different deadline store ahead

theorem advance (key : String) (store : Store) (milliseconds : Nat) :
    Keeps key store (store.advance milliseconds) where
  order := Nat.le_add_right _ _
  same _ _ := rfl

theorem isLive_eq (keeps : Keeps key before after) {later : Nat} (ahead : after.clock ≤ later) :
    after.table.isLive key later = before.table.isLive key later := by
  rw [Table.isLive_eq_isSome, Table.isLive_eq_isSome, keeps.same later ahead]

end Keeps

/-- Removing a record makes no record live. -/
theorem isLive_of_perform_remove
    {store : Store}
    {key other : String}
    {later : Nat}
    (ahead : store.clock ≤ later)
    (live : (store.perform (.remove key)).2.table.isLive other later = true) :
    store.table.isLive other later = true := by
  by_cases same : other = key
  · subst same
    simp only [Store.perform] at live
    split at live
    · exact live
    · simp only [Table.perform, Table.isLive_eq_isSome, Table.liveUntil?_erase_self,
        Option.isSome_none, Bool.false_eq_true] at live
  · rwa [(Keeps.perform same store).isLive_eq (by rwa [perform_clock])] at live

/-- A record that is not live stays so until something is written. -/
theorem Table.isLive_eq_false_of_le
    {table : Table}
    {key : String}
    {now later : Nat}
    (order : now ≤ later)
    (free : table.isLive key now = false) :
    table.isLive key later = false := by
  rw [isLive_eq_isSome, Option.isSome_eq_false_iff, Option.isNone_iff_eq_none] at free ⊢
  rw [liveUntil?_later table key order, free, Option.filter_none]

theorem Keeps.free
    {key : String}
    {before after : Store}
    (keeps : Keeps key before after)
    (free : before.table.isLive key before.clock = false) :
    after.table.isLive key after.clock = false := by
  rw [keeps.isLive_eq (Nat.le_refl _)]
  exact Table.isLive_eq_false_of_le keeps.order free

/-- The record under a key is live at every reading from now on that is before the deadline. -/
def Guards (key : String) (deadline : Nat) (store : Store) : Prop :=
  ∀ later, store.clock ≤ later → later < deadline → store.table.isLive key later = true

/-- A key that is kept stays guarded if it is. -/
theorem Guards.keeps
    {key : String}
    {deadline : Nat}
    {before after : Store}
    (guards : before.Guards key deadline)
    (keeps : Keeps key before after) :
    after.Guards key deadline := by
  intro later ahead early
  rw [keeps.isLive_eq ahead]
  exact guards later (Nat.le_trans keeps.order ahead) early

theorem guards_write (key : String) (deadline : Nat) (store : Store) :
    (store.write key deadline).Guards key deadline := by
  intro later _ early
  rw [isLive_write_self, decide_eq_true early]

/-- A deadline that is over guards nothing, so every key is guarded until then. -/
theorem guards_of_le {deadline : Nat} {store : Store} (key : String)
    (ended : deadline ≤ store.clock) : store.Guards key deadline := by
  intro later ahead early
  omega

/-- A key that is guarded is free only when the deadline has passed. -/
theorem Guards.le_clock
    {key : String}
    {deadline : Nat}
    {store : Store}
    (guards : store.Guards key deadline)
    (free : store.table.isLive key store.clock = false) :
    deadline ≤ store.clock := by
  by_contra early
  have live := guards store.clock (Nat.le_refl _) (by omega)
  rw [free] at live
  cases live

/-- The record under a key ends at a known reading, or there is none, as far as readings from now on
can tell. -/
def Holds (key : String) (last? : Option Nat) (store : Store) : Prop :=
  ∀ later, store.clock ≤ later →
    store.table.liveUntil? key later = last?.filter fun last => later < last

theorem Holds.keeps
    {key : String}
    {last? : Option Nat}
    {before after : Store}
    (holds : before.Holds key last?)
    (keeps : Keeps key before after) :
    after.Holds key last? := by
  intro later ahead
  rw [keeps.same later ahead]
  exact holds later (Nat.le_trans keeps.order ahead)

theorem holds_write (key : String) (deadline : Nat) (store : Store) :
    (store.write key deadline).Holds key (some deadline) := by
  intro later _
  rw [liveUntil?_write_self, Option.filter_some]
  simp only [decide_eq_true_eq]

theorem holds_perform_remove
    (key : String)
    {store : Store}
    (sound : store.condition = .sound) :
    (store.perform (.remove key)).2.Holds key none := by
  intro later _
  rw [perform_of_sound sound]
  exact Table.liveUntil?_erase_self store.table key later

theorem holds_of_empty (key : String) {store : Store} (empty : store.table = .empty) :
    store.Holds key none := by
  intro later _
  rw [empty]
  rfl

/-- A key is live exactly until the deadline that it holds. -/
theorem Holds.isLive_iff {key : String} {last? : Option Nat} {store : Store}
    (holds : store.Holds key last?) :
    store.table.isLive key store.clock = true ↔ ∃ last, last? = some last ∧ store.clock < last := by
  rw [Table.isLive_eq_isSome, holds _ (Nat.le_refl _)]
  cases last? with
  | none => simp
  | some last => simp [Option.filter_some, apply_ite]

theorem isSpentKey_spentKey (token : String) : isSpentKey (spentKey token) = true := by
  simp [isSpentKey, spentKey, spentPrefix]

/-- No two tokens share a key in the store. -/
theorem spentKey_inj {first second : String} :
    spentKey first = spentKey second ↔ first = second := by
  simp [spentKey]

theorem spentKey_ne_spentKey {first second : String} (different : first ≠ second) :
    spentKey first ≠ spentKey second :=
  fun same => different (spentKey_inj.mp same)

end Store
end AntiForgery
