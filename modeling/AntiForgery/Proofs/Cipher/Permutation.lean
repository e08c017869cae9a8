import AntiForgery.Cipher.Aes
import Mathlib.Logic.Function.Basic

/-!
# The block cipher is a permutation

Under one key no two blocks are encrypted to the same one.  Every step of a round can be undone: the
substitution by its table, the turn of the rows by turning them on, the addition of a key by adding it
again, and the mixing of a column by mixing it three times more.
-/

namespace AntiForgery
namespace Cipher

open Function

theorem xor_left_comm (first second third : UInt8) :
    first ^^^ (second ^^^ third) = second ^^^ (first ^^^ third) := by
  ac_rfl

theorem xor_xor_cancel_left (first second : UInt8) : first ^^^ (first ^^^ second) = second := by
  rw [← UInt8.xor_assoc, UInt8.xor_self, UInt8.zero_xor]

theorem eighty_le_iff_msb (byte : UInt8) : 0x80 ≤ byte ↔ byte.toBitVec.msb = true := by
  rw [BitVec.msb_eq_decide]
  simp [UInt8.le_iff_toNat_le]

/-- Doubling goes through sums. -/
theorem double_xor (first second : UInt8) :
    double (first ^^^ second) = double first ^^^ double second := by
  simp only [double, eighty_le_iff_msb, UInt8.toBitVec_xor, BitVec.msb_xor, UInt8.shiftLeft_xor]
  -- What is put back for two bytes whose highest bits are both set cancels out.
  cases first.toBitVec.msb <;> cases second.toBitVec.msb
  · simp
  · simp only [Bool.false_bne, if_true, Bool.false_eq_true, if_false, UInt8.xor_zero]
    ac_rfl
  · simp only [Bool.bne_false, if_true, Bool.false_eq_true, if_false, UInt8.xor_zero]
    ac_rfl
  · simp only [bne_self_eq_false, Bool.false_eq_true, if_false, if_true, UInt8.xor_zero]
    rw [UInt8.xor_assoc, xor_left_comm 0x1B, UInt8.xor_self, UInt8.xor_zero]

namespace Column

/-- What mixing twice comes to: each byte with four times its sum with the byte two rows away. -/
def mixTwice (column : Column) : Column where
  first := column.first ^^^ double (double (column.first ^^^ column.third))
  second := column.second ^^^ double (double (column.second ^^^ column.fourth))
  third := column.third ^^^ double (double (column.first ^^^ column.third))
  fourth := column.fourth ^^^ double (double (column.second ^^^ column.fourth))

theorem mix_mix (column : Column) : column.mix.mix = column.mixTwice := by
  simp only [mix, mixTwice, triple, double_xor, Column.mk.injEq]
  refine ⟨?_, ?_, ?_, ?_⟩ <;>
    simp only [UInt8.xor_assoc, UInt8.xor_comm, xor_left_comm, UInt8.xor_self,
      xor_xor_cancel_left, UInt8.zero_xor]

/-- Mixing a column four times gives it back, so mixing loses nothing. -/
theorem mixTwice_mixTwice (column : Column) : column.mixTwice.mixTwice = column := by
  obtain ⟨first, second, third, fourth⟩ := column
  simp only [mixTwice, double_xor, Column.mk.injEq]
  refine ⟨?_, ?_, ?_, ?_⟩ <;>
    simp only [UInt8.xor_assoc, UInt8.xor_comm, xor_left_comm, UInt8.xor_self, UInt8.xor_zero]

/-- Mixing a column four times leaves it as it was. -/
theorem mix_injective : Injective mix := by
  have undone : LeftInverse (fun column => column.mix.mix.mix) mix := by
    intro column
    simp only [mix_mix, mixTwice_mixTwice]
  exact undone.injective

theorem add_add_cancel (column key : Column) : (column.add key).add key = column := by
  simp only [add, UInt8.xor_assoc, UInt8.xor_self, UInt8.xor_zero]

theorem map_injective {replace : UInt8 → UInt8} (injective : Injective replace) :
    Injective (Column.map replace) := by
  rintro ⟨_, _, _, _⟩ ⟨_, _, _, _⟩ same
  simpa only [map, Column.mk.injEq, injective.eq_iff] using same

end Column

namespace Block

theorem add_injective (key : Block) : Injective fun block : Block => block.add key := by
  have undone : LeftInverse (fun block => block.add key) fun block : Block => block.add key := by
    intro block
    simp only [add, Column.add_add_cancel]
  exact undone.injective

theorem map_injective {replace : Column → Column} (injective : Injective replace) :
    Injective (Block.map replace) := by
  rintro ⟨_, _, _, _⟩ ⟨_, _, _, _⟩ same
  simpa only [map, Block.mk.injEq, injective.eq_iff] using same

theorem substitute_injective : Injective Block.substitute :=
  map_injective (Column.map_injective fun _ _ => substitute_inj.mp)

/-- Turning the rows four times leaves them as they were. -/
theorem shiftRows_injective : Injective shiftRows := by
  have undone : LeftInverse (fun block => block.shiftRows.shiftRows.shiftRows) shiftRows :=
    fun _ => rfl
  exact undone.injective

theorem mixColumns_injective : Injective mixColumns :=
  map_injective Column.mix_injective

end Block

/-- A round loses nothing. -/
theorem innerRound_injective (key : Block) : Injective fun block => innerRound block key :=
  (Block.add_injective key).comp (Block.mixColumns_injective.comp
    (Block.shiftRows_injective.comp Block.substitute_injective))

theorem foldl_innerRound_injective (keys : List Block) : Injective (keys.foldl innerRound) := by
  induction keys with
  | nil => exact injective_id
  | cons key rest ih => exact ih.comp (innerRound_injective key)

/-- Under one key no two blocks are encrypted to the same one. -/
theorem encryptBlock_injective (schedule : KeySchedule) : Injective (encryptBlock schedule) := by
  have mixed : Injective fun block : Block =>
      schedule.inner.foldl innerRound (block.add schedule.initial) :=
    (foldl_innerRound_injective schedule.inner).comp (Block.add_injective schedule.initial)
  have last : Injective fun block : Block => block.substitute.shiftRows.add schedule.final :=
    (Block.add_injective schedule.final).comp
      (Block.shiftRows_injective.comp Block.substitute_injective)
  exact last.comp mixed

end Cipher
end AntiForgery
