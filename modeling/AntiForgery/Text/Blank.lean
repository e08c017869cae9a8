/-!
# Blank characters

The characters with the Unicode property `White_Space`.  Session ids that hold nothing else count
as empty, and configured values and cookies lose them at both ends.
-/

namespace AntiForgery
namespace Text

/-- The code points with the property `White_Space`, as inclusive ranges. -/
def blankRanges : List (Nat × Nat) :=
  [(0x09, 0x0D), (0x20, 0x20), (0x85, 0x85), (0xA0, 0xA0), (0x1680, 0x1680), (0x2000, 0x200A),
    (0x2028, 0x2029), (0x202F, 0x202F), (0x205F, 0x205F), (0x3000, 0x3000)]

/-- Whether a character is white space. -/
def isBlank (char : Char) : Bool :=
  blankRanges.any fun range => range.1 ≤ char.toNat && char.toNat ≤ range.2

/-- The characters between the first and the last that is not blank. -/
def trimChars (chars : List Char) : List Char :=
  ((chars.dropWhile isBlank).reverse.dropWhile isBlank).reverse

/-- A text without the white space at both of its ends. -/
def trim (text : String) : String :=
  String.ofList (trimChars text.toList)

/-- Whether a text holds white space only. -/
def isBlankText (text : String) : Bool :=
  text.toList.all isBlank

theorem trimChars_of_forall {chars : List Char} (solid : ∀ char ∈ chars, isBlank char = false) :
    trimChars chars = chars := by
  have keep : ∀ letters : List Char, (∀ char ∈ letters, isBlank char = false) →
      letters.dropWhile isBlank = letters := by
    intro letters solid
    cases letters with
    | nil => rfl
    | cons char rest => rw [List.dropWhile_cons, solid char List.mem_cons_self, if_neg (by simp)]
  rw [trimChars, keep chars solid, keep chars.reverse (by simpa using solid), List.reverse_reverse]

end Text
end AntiForgery
