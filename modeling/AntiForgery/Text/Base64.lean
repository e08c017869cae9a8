/-!
# Base64

The standard alphabet with padding, in its one canonical form: a text is read only if it is what
writing its bytes would give.  So padding has to be there, nothing may follow it, and the bits that
padding leaves over have to be zero.  `decode?_encode` and `encode_of_decode?` say so.
-/

namespace AntiForgery
namespace Base64

/-- The symbol of a value below sixty-four. -/
def symbol (value : Nat) : UInt8 :=
  if value < 26 then UInt8.ofNat (0x41 + value)
  else if value < 52 then UInt8.ofNat (0x61 + (value - 26))
  else if value < 62 then UInt8.ofNat (0x30 + (value - 52))
  else if value = 62 then 0x2B
  else 0x2F

/-- The value of a symbol of the alphabet. -/
def symbolValue? (symbol : UInt8) : Option Nat :=
  if 0x41 ≤ symbol ∧ symbol ≤ 0x5A then some (symbol.toNat - 0x41)
  else if 0x61 ≤ symbol ∧ symbol ≤ 0x7A then some (symbol.toNat - 0x61 + 26)
  else if 0x30 ≤ symbol ∧ symbol ≤ 0x39 then some (symbol.toNat - 0x30 + 52)
  else if symbol = 0x2B then some 62
  else if symbol = 0x2F then some 63
  else none

/-- The equals sign, which fills the last group of four. -/
def padding : UInt8 := 0x3D

/-- Four symbols for each three bytes; one or two bytes left over take padding. -/
def encode : List UInt8 → List UInt8
  | [] => []
  | [first] =>
      [symbol (first.toNat / 4), symbol (first.toNat % 4 * 16), padding, padding]
  | [first, second] =>
      [symbol (first.toNat / 4), symbol (first.toNat % 4 * 16 + second.toNat / 16),
        symbol (second.toNat % 16 * 4), padding]
  | first :: second :: third :: rest =>
      symbol (first.toNat / 4) ::
      symbol (first.toNat % 4 * 16 + second.toNat / 16) ::
      symbol (second.toNat % 16 * 4 + third.toNat / 64) ::
      symbol (third.toNat % 64) ::
      encode rest

/-- The byte that two values give: `high` shifted by what `low` adds. -/
def joined (high low : Nat) : UInt8 := UInt8.ofNat (high + low)

/-- The bytes whose written form a text is, if there are any. -/
def decode? : List UInt8 → Option (List UInt8)
  | [] => some []
  | first :: second :: third :: fourth :: rest =>
      match symbolValue? first, symbolValue? second with
      | some a, some b =>
          if third = padding ∧ fourth = padding ∧ rest = [] then
            if b % 16 = 0 then some [joined (a * 4) (b / 16)] else none
          else
            match symbolValue? third with
            | none => none
            | some c =>
                if fourth = padding ∧ rest = [] then
                  if c % 4 = 0 then
                    some [joined (a * 4) (b / 16), joined (b % 16 * 16) (c / 4)]
                  else none
                else
                  match symbolValue? fourth with
                  | none => none
                  | some d =>
                      (decode? rest).map fun bytes =>
                        joined (a * 4) (b / 16) :: joined (b % 16 * 16) (c / 4) ::
                          joined (c % 4 * 64) d :: bytes
      | _, _ => none
  | _ => none

theorem symbolValue?_symbol (value : Nat) (small : value < 64) :
    symbolValue? (symbol value) = some value := by
  have cases : ∀ n : Fin 64, symbolValue? (symbol n.val) = some n.val := by decide
  exact cases ⟨value, small⟩

theorem symbol_ne_padding (value : Nat) (small : value < 64) : symbol value ≠ padding := by
  have cases : ∀ n : Fin 64, symbol n.val ≠ padding := by decide
  exact cases ⟨value, small⟩

/-- Reading gives back what was written. -/
theorem decode?_encode (bytes : List UInt8) : decode? (encode bytes) = some bytes := by
  induction bytes using encode.induct with
  | case1 => rfl
  | case2 first =>
      have bound := first.toNat_lt
      have value : first.toNat / 4 * 4 + first.toNat % 4 * 16 / 16 = first.toNat := by omega
      have clear : first.toNat % 4 * 16 % 16 = 0 := by omega
      simp only [encode, decode?, symbolValue?_symbol _ (show first.toNat / 4 < 64 by omega),
        symbolValue?_symbol _ (show first.toNat % 4 * 16 < 64 by omega), joined, value, clear,
        and_self, if_true, UInt8.ofNat_toNat]
  | case3 first second =>
      have boundFirst := first.toNat_lt
      have boundSecond := second.toNat_lt
      have a : first.toNat / 4 < 64 := by omega
      have b : first.toNat % 4 * 16 + second.toNat / 16 < 64 := by omega
      have c : second.toNat % 16 * 4 < 64 := by omega
      have valueFirst : first.toNat / 4 * 4 +
          (first.toNat % 4 * 16 + second.toNat / 16) / 16 = first.toNat := by omega
      have valueSecond : (first.toNat % 4 * 16 + second.toNat / 16) % 16 * 16 +
          second.toNat % 16 * 4 / 4 = second.toNat := by omega
      have clear : second.toNat % 16 * 4 % 4 = 0 := by omega
      simp only [encode, decode?, symbolValue?_symbol _ a, symbolValue?_symbol _ b,
        symbolValue?_symbol _ c, symbol_ne_padding _ c, joined, valueFirst, valueSecond, clear,
        false_and, and_self, if_true, if_false, UInt8.ofNat_toNat]
  | case4 first second third rest ih =>
      have boundFirst := first.toNat_lt
      have boundSecond := second.toNat_lt
      have boundThird := third.toNat_lt
      have a : first.toNat / 4 < 64 := by omega
      have b : first.toNat % 4 * 16 + second.toNat / 16 < 64 := by omega
      have c : second.toNat % 16 * 4 + third.toNat / 64 < 64 := by omega
      have d : third.toNat % 64 < 64 := by omega
      have valueFirst : first.toNat / 4 * 4 +
          (first.toNat % 4 * 16 + second.toNat / 16) / 16 = first.toNat := by omega
      have valueSecond : (first.toNat % 4 * 16 + second.toNat / 16) % 16 * 16 +
          (second.toNat % 16 * 4 + third.toNat / 64) / 4 = second.toNat := by omega
      have valueThird : (second.toNat % 16 * 4 + third.toNat / 64) % 4 * 64 +
          third.toNat % 64 = third.toNat := by omega
      simp only [encode, decode?, symbolValue?_symbol _ a, symbolValue?_symbol _ b,
        symbolValue?_symbol _ c, symbolValue?_symbol _ d, symbol_ne_padding _ c,
        symbol_ne_padding _ d, joined, valueFirst, valueSecond, valueThird, ih, false_and,
        if_false, Option.map_some, UInt8.ofNat_toNat]

theorem symbol_of_symbolValue? {letter : UInt8} {value : Nat}
    (read : symbolValue? letter = some value) : symbol value = letter ∧ value < 64 := by
  have cases : ∀ n : Fin 256,
      (symbolValue? (UInt8.ofNat n.val)).all
        (fun value => symbol value == UInt8.ofNat n.val && value < 64) = true := by
    decide +kernel
  have known := cases ⟨letter.toNat, letter.toNat_lt⟩
  simpa [read] using known

theorem toNat_joined (high low : Nat) (small : high + low < 256) :
    (joined high low).toNat = high + low := by
  simp [joined, Nat.mod_eq_of_lt small]

/-- A text is read only if it is what writing its bytes gives. -/
theorem encode_of_decode? {text bytes : List UInt8} (read : decode? text = some bytes) :
    encode bytes = text := by
  fun_induction decode? text generalizing bytes with
  | case1 => simp_all [encode]
  | case2 first second third fourth rest a b readSecond readFirst ends clear =>
      obtain ⟨rfl, rfl, rfl⟩ := ends
      obtain ⟨rfl, _⟩ := symbol_of_symbolValue? readFirst
      obtain ⟨rfl, _⟩ := symbol_of_symbolValue? readSecond
      have number := toNat_joined (a * 4) (b / 16) (by omega)
      have upper : (a * 4 + b / 16) / 4 = a := by omega
      have lower : (a * 4 + b / 16) % 4 * 16 = b := by omega
      simp only [Option.some.injEq] at read
      simp only [← read, encode, number, upper, lower]
  | case3 => simp at read
  | case4 => simp at read
  | case5 first second third fourth rest a b readSecond readFirst _ c readThird ends clear =>
      obtain ⟨rfl, rfl⟩ := ends
      obtain ⟨rfl, _⟩ := symbol_of_symbolValue? readFirst
      obtain ⟨rfl, _⟩ := symbol_of_symbolValue? readSecond
      obtain ⟨rfl, _⟩ := symbol_of_symbolValue? readThird
      have byteFirst := toNat_joined (a * 4) (b / 16) (by omega)
      have byteSecond := toNat_joined (b % 16 * 16) (c / 4) (by omega)
      have valueFirst : (a * 4 + b / 16) / 4 = a := by omega
      have valueSecond : (a * 4 + b / 16) % 4 * 16 + (b % 16 * 16 + c / 4) / 16 = b := by omega
      have valueThird : (b % 16 * 16 + c / 4) % 16 * 4 = c := by omega
      simp only [Option.some.injEq] at read
      simp only [← read, encode, byteFirst, byteSecond, valueFirst, valueSecond, valueThird]
  | case6 => simp at read
  | case7 => simp at read
  | case8 first second third fourth rest a b readSecond readFirst _ c readThird _ d readFourth
      ih =>
      obtain ⟨rfl, _⟩ := symbol_of_symbolValue? readFirst
      obtain ⟨rfl, _⟩ := symbol_of_symbolValue? readSecond
      obtain ⟨rfl, _⟩ := symbol_of_symbolValue? readThird
      obtain ⟨rfl, _⟩ := symbol_of_symbolValue? readFourth
      have byteFirst := toNat_joined (a * 4) (b / 16) (by omega)
      have byteSecond := toNat_joined (b % 16 * 16) (c / 4) (by omega)
      have byteThird := toNat_joined (c % 4 * 64) d (by omega)
      have valueFirst : (a * 4 + b / 16) / 4 = a := by omega
      have valueSecond : (a * 4 + b / 16) % 4 * 16 + (b % 16 * 16 + c / 4) / 16 = b := by omega
      have valueThird : (b % 16 * 16 + c / 4) % 16 * 4 + (c % 4 * 64 + d) / 64 = c := by omega
      have valueFourth : (c % 4 * 64 + d) % 64 = d := by omega
      obtain ⟨others, readRest, rfl⟩ := Option.map_eq_some_iff.mp read
      simp only [encode, byteFirst, byteSecond, byteThird, valueFirst, valueSecond, valueThird,
        valueFourth, ih readRest]
  | case9 => simp at read
  | case10 => simp at read

theorem symbol_lt (value : Nat) (small : value < 64) : symbol value < 128 := by
  have cases : ∀ n : Fin 64, symbol n.val < 128 := by decide
  exact cases ⟨value, small⟩

/-- What holds of every symbol and of padding holds of all that is written. -/
theorem forall_mem_encode {Holds : UInt8 → Prop}
    (symbols : ∀ value, value < 64 → Holds (symbol value)) (filler : Holds padding)
    {bytes : List UInt8} : ∀ letter ∈ encode bytes, Holds letter := by
  induction bytes using encode.induct with
  | case1 => simp [encode]
  | case2 first =>
      have bound := first.toNat_lt
      simp only [encode, List.forall_mem_cons, List.not_mem_nil, false_implies, implies_true,
        and_true]
      exact ⟨symbols _ (by omega), symbols _ (by omega), filler, filler⟩
  | case3 first second =>
      have boundFirst := first.toNat_lt
      have boundSecond := second.toNat_lt
      simp only [encode, List.forall_mem_cons, List.not_mem_nil, false_implies, implies_true,
        and_true]
      exact ⟨symbols _ (by omega), symbols _ (by omega), symbols _ (by omega), filler⟩
  | case4 first second third rest ih =>
      have boundFirst := first.toNat_lt
      have boundSecond := second.toNat_lt
      have boundThird := third.toNat_lt
      simp only [encode, List.forall_mem_cons]
      exact ⟨symbols _ (by omega), symbols _ (by omega), symbols _ (by omega),
        symbols _ (by omega), ih⟩

/-- What is written is ASCII. -/
theorem encode_lt {bytes : List UInt8} : ∀ letter ∈ encode bytes, letter < 128 :=
  forall_mem_encode symbol_lt (by decide)

/-- Three bytes begun take four letters. -/
theorem length_encode (bytes : List UInt8) :
    (encode bytes).length = 4 * ((bytes.length + 2) / 3) := by
  induction bytes using encode.induct with
  | case1 => rfl
  | case2 first => simp [encode]
  | case3 first second => simp [encode]
  | case4 first second third rest ih =>
      simp only [encode, List.length_cons, ih]
      omega

/-- A text is read as the bytes of which it is the written form. -/
theorem decode?_eq_some_iff {text bytes : List UInt8} :
    decode? text = some bytes ↔ text = encode bytes := by
  constructor
  · intro read
    exact (encode_of_decode? read).symm
  · rintro rfl
    exact decode?_encode bytes

end Base64
end AntiForgery
