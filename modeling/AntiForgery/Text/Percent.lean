import AntiForgery.Text.Hex

/-!
# Percent signs

Bytes written as a percent sign and two hexadecimal digits, as in addresses and cookies.
-/

namespace AntiForgery
namespace Text

/-- Bytes with each percent sign and its two digits replaced by what they stand for.  A percent sign
without two digits stands for itself. -/
def percentDecode : List UInt8 → List UInt8
  | byte :: high :: low :: rest =>
      match byte == 0x25, Hex.digitValue? high, Hex.digitValue? low with
      | true, some a, some b => (16 * a + b) :: percentDecode rest
      | _, _, _ => byte :: percentDecode (high :: low :: rest)
  | bytes => bytes

theorem percentDecode_of_not_mem {bytes : List UInt8} (absent : 0x25 ∉ bytes) :
    percentDecode bytes = bytes := by
  fun_induction percentDecode bytes with
  | case1 byte high low rest a b _ _ percent _ =>
      rw [beq_iff_eq] at percent
      exact absurd (percent ▸ List.mem_cons_self) absent
  | case2 byte high low rest _ ih =>
      rw [ih fun member => absent (List.mem_cons_of_mem _ member)]
  | case3 bytes => rfl

end Text
end AntiForgery
