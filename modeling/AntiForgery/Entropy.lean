/-!
# Entropy

A source of random bytes that hands out each byte once, in order.  The bytes never end, but only so
many of them are ready.  Whoever asks for bytes either fails when too few are ready, and then takes
none, or waits for those that are missing, and then always gets them.
-/

namespace AntiForgery

/-- A source of random bytes. -/
structure Entropy where
  /-- The bytes that have not been handed out, the next one first. -/
  stream : Nat → UInt8
  /-- How many of them are ready. -/
  ready : Nat

namespace Entropy

/-- The source that has these bytes ready, and zeros after them. -/
def ofList (bytes : List UInt8) : Entropy where
  stream index := bytes.getD index 0
  ready := bytes.length

/-- The next `count` bytes. -/
def take (count : Nat) (source : Entropy) : List UInt8 :=
  (List.range count).map source.stream

/-- The source without the next `count` bytes. -/
def drop (count : Nat) (source : Entropy) : Entropy where
  stream index := source.stream (count + index)
  ready := source.ready - count

/-- The next `count` bytes and the source without them, if that many are ready. -/
def draw? (count : Nat) (source : Entropy) : Option (List UInt8 × Entropy) :=
  if source.ready < count then none else some (source.take count, source.drop count)

@[simp] theorem length_take (count : Nat) (source : Entropy) : (source.take count).length = count := by
  simp [take]

@[simp] theorem ready_drop (count : Nat) (source : Entropy) :
    (source.drop count).ready = source.ready - count := rfl

@[simp] theorem drop_zero (source : Entropy) : source.drop 0 = source := by
  simp [drop]

theorem drop_drop (first second : Nat) (source : Entropy) :
    (source.drop first).drop second = source.drop (first + second) := by
  simp [drop, Nat.add_assoc, Nat.sub_sub]

theorem draw?_eq_none_iff {count : Nat} {source : Entropy} :
    source.draw? count = none ↔ source.ready < count := by
  simp [draw?]

theorem draw?_eq_some_iff {count : Nat} {source rest : Entropy} {bytes : List UInt8} :
    source.draw? count = some (bytes, rest) ↔
      count ≤ source.ready ∧ source.take count = bytes ∧ source.drop count = rest := by
  rw [draw?]
  split
  · next few => simp [Nat.not_le_of_lt few]
  · next enough => simp [Nat.le_of_not_lt enough]

end Entropy
end AntiForgery
