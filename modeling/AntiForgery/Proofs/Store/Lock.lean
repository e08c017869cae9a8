import AntiForgery.Proofs.Store.Growth

/-!
# Readings taken before the lock

The calls to a table take turns under a lock, and each reads the clock before it waits for its turn.  So
the table is asked at readings that may lie behind the instant of the turn and may go back from one turn
to the next.  A claimed key stays claimed all the same: until the deadline no reading has reached it, so
no sweep has dropped the record and no claim has found it ended.
-/

namespace AntiForgery
namespace Store

/-- A turn under the lock. -/
structure Hold where
  /-- When the lock is held. -/
  instant : Nat
  /-- What the clock showed before the wait for the lock. -/
  reading : Nat
  /-- What is asked. -/
  query : Query
  deriving DecidableEq, Repr

/-- What the table gets to see of a turn. -/
def Hold.moment (hold : Hold) : Moment := ⟨hold.reading, hold.query⟩

/-- Whether a query replaces or removes the record under a key, live or not. -/
def Query.resets (key : String) : Query → Bool
  | .record other _ => other == key
  | .remove other => other == key
  | _ => false

namespace Table

variable {table : Table}

/-- A claim succeeds only on a key that is not live, and then its record is there. -/
theorem of_claimed
    {moment : Moment}
    {key : String}
    {lifetime : Nat}
    (claims : moment.query = .claim key lifetime)
    (won : (keeper.ask table moment).1 = .claimed (.ok true)) :
    table.isLive key moment.reading = false ∧
      ⟨key, moment.reading + 1000 * lifetime⟩ ∈ (keeper.ask table moment).2.entries := by
  obtain ⟨reading, query⟩ := moment
  obtain rfl : query = .claim key lifetime := claims
  simp only [Keeper.ask, keeper, perform_claim] at won ⊢
  cases live : table.isLive key reading with
  | true => simp [live] at won
  | false =>
      cases range : deadline? reading lifetime with
      | none => simp [live, range] at won
      | some deadline =>
          obtain ⟨-, rfl⟩ := deadline?_eq_some_iff.mp range
          exact ⟨rfl, mem_put.mpr (.inl rfl)⟩

/-- A write under another key keeps a record that it does not find ended. -/
theorem mem_put_sweep
    {entry : Entry}
    (member : entry ∈ table.entries)
    {reading : Nat}
    (early : reading < entry.deadline)
    {written : Entry}
    (different : entry.key ≠ written.key) :
    entry ∈ ((table.sweep reading).put written).entries :=
  mem_put.mpr (.inr ⟨(mem_sweep early).mpr member, different⟩)

/-- A record stays when something is asked at a reading before its deadline, unless the query resets its
key. -/
theorem mem_ask
    {entry : Entry}
    (member : entry ∈ table.entries)
    {moment : Moment}
    (early : moment.reading < entry.deadline)
    (spared : moment.query.resets entry.key = false) :
    entry ∈ (keeper.ask table moment).2.entries := by
  obtain ⟨reading, query⟩ := moment
  cases query with
  | record key lifetime =>
      have different : entry.key ≠ key := fun same => by simp [Query.resets, same] at spared
      simp only [Keeper.ask, keeper, perform_record]
      cases deadline? reading lifetime with
      | none => exact member
      | some deadline => exact mem_put_sweep member early different
  | lookUp key => exact member
  | claim key lifetime =>
      simp only [Keeper.ask, keeper, perform_claim]
      cases live : table.isLive key reading with
      | true => exact member
      | false =>
          -- The record itself would have been found live under its own key.
          have different : entry.key ≠ key := by
            rintro rfl
            rw [isLive_eq_true_iff.mpr ⟨entry.deadline, member, early⟩] at live
            cases live
          cases deadline? reading lifetime with
          | none => exact member
          | some deadline => exact mem_put_sweep member early different
  | remove key =>
      have different : entry.key ≠ key := fun same => by simp [Query.resets, same] at spared
      exact mem_erase.mpr ⟨member, different⟩
  | countLive => exact member

theorem mem_after
    {entry : Entry}
    (member : entry ∈ table.entries)
    (timeline : List Moment)
    (early : ∀ moment ∈ timeline, moment.reading < entry.deadline)
    (spared : ∀ moment ∈ timeline, moment.query.resets entry.key = false) :
    entry ∈ (keeper.after table timeline).entries := by
  induction timeline generalizing table with
  | nil => exact member
  | cons moment rest ih =>
      have kept := mem_ask member (early moment List.mem_cons_self)
        (spared moment List.mem_cons_self)
      exact ih kept (fun other inside => early other (List.mem_cons_of_mem _ inside))
        fun other inside => spared other (List.mem_cons_of_mem _ inside)

end Table

theorem Keeper.after_append (keeper : Keeper σ) (records : σ) (early late : List Moment) :
    keeper.after records (early ++ late) = keeper.after (keeper.after records early) late := by
  induction early generalizing records with
  | nil => rfl
  | cons moment rest ih => exact ih _

/-- A key that is claimed twice, with nothing in between that resets it, is claimed the second time at an
instant no earlier than the end of the first claim, which is counted from the first one's reading of the
clock.  It does not matter how stale any reading is, nor what the other turns have asked and swept. -/
theorem claims_apart
    (table : Table)
    {holds : List Hold}
    (ordered : holds.Pairwise fun earlier later => earlier.instant ≤ later.instant)
    (behind : ∀ hold ∈ holds, hold.reading ≤ hold.instant)
    {before between after : List Hold}
    {first second : Hold}
    (split : holds = before ++ first :: (between ++ second :: after))
    {key : String}
    {lifetime again : Nat}
    (claims : first.query = .claim key lifetime)
    (claimsAgain : second.query = .claim key again)
    (spared : ∀ hold ∈ between, hold.query.resets key = false)
    (won :
      let held := Table.keeper.after table (before.map Hold.moment)
      (Table.keeper.ask held first.moment).1 = .claimed (.ok true))
    (wonAgain :
      let held := Table.keeper.after table ((before ++ first :: between).map Hold.moment)
      (Table.keeper.ask held second.moment).1 = .claimed (.ok true)) :
    first.reading + 1000 * lifetime ≤ second.instant := by
  subst split
  have tail := (List.pairwise_append.mp ordered).2.1
  have order := (List.pairwise_append.mp (List.pairwise_cons.mp tail).2).2.2
  by_contra early
  -- Every reading in between lies before the deadline, because its instant does.
  have unripe : ∀ hold ∈ between, hold.reading < first.reading + 1000 * lifetime := by
    intro hold member
    have read := behind hold (by simp [member])
    have later := order hold member second List.mem_cons_self
    omega
  have unripeLast : second.reading < first.reading + 1000 * lifetime := by
    have read := behind second (by simp)
    omega
  obtain ⟨-, member⟩ := Table.of_claimed claims won
  obtain ⟨free, -⟩ := Table.of_claimed claimsAgain wonAgain
  rw [List.map_append, List.map_cons, Keeper.after_append, Keeper.after] at free
  have kept := Table.mem_after member (between.map Hold.moment)
    (by simpa [Hold.moment] using unripe) (by simpa [Hold.moment] using spared)
  have live := Table.isLive_eq_true_iff.mpr ⟨_, kept, unripeLast⟩
  cases free.symm.trans live

/-- The claim of `csrf:t` reads 400 and waits until 900.  A write that has waited even longer and a claim
that fails come in between, and the next claim succeeds at 1400, when the second is over that the first
one has counted from 400. -/
theorem claims_apart_stale :
    let before : List Hold := [⟨0, 0, .record "csrf:t" 0⟩]
    let first : Hold := ⟨900, 400, .claim "csrf:t" 1⟩
    let between : List Hold :=
      [⟨1000, 100, .record "session:a" 1⟩, ⟨1300, 1300, .claim "csrf:t" 5⟩]
    let second : Hold := ⟨1400, 1400, .claim "csrf:t" 5⟩
    let held (holds : List Hold) := Table.keeper.after .empty (holds.map Hold.moment)
    (before ++ first :: (between ++ second :: [])).Pairwise
        (fun earlier later => earlier.instant ≤ later.instant) ∧
      (∀ hold ∈ before ++ first :: (between ++ second :: []), hold.reading ≤ hold.instant) ∧
      (∀ hold ∈ between, hold.query.resets "csrf:t" = false) ∧
      (Table.keeper.ask (held before) first.moment).1 = .claimed (.ok true) ∧
      (Table.keeper.ask (held (before ++ first :: between)) second.moment).1 =
        .claimed (.ok true) ∧
      first.reading + 1000 * 1 ≤ second.instant := by
  intro before first between second held
  have ordered : (before ++ first :: (between ++ second :: [])).Pairwise
      (fun earlier later => earlier.instant ≤ later.instant) := by decide
  have behind : ∀ hold ∈ before ++ first :: (between ++ second :: []),
      hold.reading ≤ hold.instant := by decide
  have spared : ∀ hold ∈ between, hold.query.resets "csrf:t" = false := by decide
  have won : (Table.keeper.ask (held before) first.moment).1 = .claimed (.ok true) := by
    decide +kernel
  have wonAgain : (Table.keeper.ask (held (before ++ first :: between)) second.moment).1 =
      .claimed (.ok true) := by decide +kernel
  exact ⟨ordered, behind, spared, won, wonAgain,
    claims_apart .empty ordered behind rfl rfl rfl spared won wonAgain⟩

end Store
end AntiForgery
