import AntiForgery.Cipher.Ghash
import Mathlib.FieldTheory.Finite.Extension

/-!
# The field under the hash

An element stands for a polynomial over the two-element field, and `mul` multiplies polynomials modulo
one of degree 128.  That modulus is irreducible, by Rabin's criterion: squaring the indeterminate 128
times gives it back, and what squaring it 64 times adds to it has an inverse.  So a product with an
element other than zero can be undone.
-/

namespace AntiForgery
namespace Cipher
namespace FieldElement

open Polynomial

/-- The degree of the modulus.  It is kept folded, for the powers of the indeterminate are never to be
multiplied out. -/
@[irreducible] def dimension : Nat := 128

theorem dimension_eq : dimension = 128 := by
  rw [dimension]

/-- The polynomial that an element stands for. -/
noncomputable def polynomial (element : FieldElement) : (ZMod 2)[X] :=
  ∑ power ∈ Finset.range dimension, if element.getMsbD power then X ^ power else 0

/-- The polynomial that products are reduced by. -/
noncomputable def modulus : (ZMod 2)[X] :=
  X ^ dimension + polynomial reduction

/-- An element has no coefficient beyond its dimension. -/
theorem getMsbD_of_le {element : FieldElement} {power : Nat} (beyond : dimension ≤ power) :
    element.getMsbD power = false :=
  BitVec.getMsbD_of_ge element power (dimension_eq ▸ beyond)

/-- The coefficients of the polynomial are the bits of the element, the most significant one first. -/
theorem coeff_polynomial (element : FieldElement) (power : Nat) :
    (polynomial element).coeff power = if element.getMsbD power then 1 else 0 := by
  have term (other : Nat) :
      (if element.getMsbD other then (X : (ZMod 2)[X]) ^ other else 0).coeff power =
        if power = other then (if element.getMsbD other then 1 else 0) else 0 := by
    split
    · rw [coeff_X_pow]
    · rw [coeff_zero, ite_self]
  simp only [polynomial, finsetSum_coeff, term, Finset.sum_ite_eq, Finset.mem_range]
  split
  · rfl
  · next beyond => simp [getMsbD_of_le (Nat.le_of_not_lt beyond)]

/-- Elements are added as their polynomials are. -/
theorem polynomial_xor (left right : FieldElement) :
    polynomial (left ^^^ right) = polynomial left + polynomial right := by
  have two : (1 : ZMod 2) + 1 = 0 := by decide
  ext power
  simp only [coeff_add, coeff_polynomial, BitVec.getMsbD_xor]
  cases left.getMsbD power <;> cases right.getMsbD power <;> simp [two]

@[simp] theorem polynomial_zero : polynomial 0 = 0 := by
  simp [polynomial]

theorem polynomial_eq_zero_iff {element : FieldElement} :
    polynomial element = 0 ↔ element = 0 := by
  constructor
  · intro vanishes
    apply BitVec.eq_of_getMsbD_eq
    intro power within
    have absent := congrArg (coeff · power) vanishes
    simp only [coeff_polynomial, coeff_zero] at absent
    cases bit : element.getMsbD power with
    | false => simp
    | true => simp [bit] at absent
  · rintro rfl
    exact polynomial_zero

/-- The polynomial of an element is reduced as it stands. -/
theorem degree_polynomial_lt (element : FieldElement) :
    (polynomial element).degree < dimension := by
  rw [degree_lt_iff_coeff_zero]
  intro power beyond
  rw [coeff_polynomial, getMsbD_of_le beyond]
  rfl

theorem monic_modulus : modulus.Monic :=
  monic_X_pow_add (degree_polynomial_lt reduction)

theorem natDegree_modulus : modulus.natDegree = dimension := by
  have below : (polynomial reduction).degree < (X ^ dimension : (ZMod 2)[X]).degree := by
    rw [degree_X_pow]
    exact degree_polynomial_lt reduction
  apply natDegree_eq_of_degree_eq_some
  rw [modulus, degree_add_eq_left_of_degree_lt below, degree_X_pow]

/-- The element with a single coefficient. -/
def monomial (power : Nat) : FieldElement :=
  BitVec.twoPow 128 (127 - power)

/-- An element with a single bit stands for a power of the indeterminate. -/
theorem polynomial_monomial {power : Nat} (within : power < dimension) :
    polynomial (monomial power) = X ^ power := by
  rw [dimension_eq] at within
  ext other
  rw [coeff_polynomial, coeff_X_pow, monomial, BitVec.getMsbD_twoPow]
  have place : 128 - (127 - power) - 1 = power := by
    omega
  have inside : 127 - power < 128 := by
    omega
  simp [place, inside]

/-! ### Multiplying by the indeterminate -/

theorem getMsbD_ushiftRight_one (element : FieldElement) (power : Nat) :
    (element >>> 1).getMsbD (power + 1) =
      (decide (power + 1 < dimension) && element.getMsbD power) := by
  rw [BitVec.getMsbD_ushiftRight]
  simp [dimension_eq]

/-- Multiplying by the indeterminate moves the bits by one place, and the one that falls out stands for
a power of its own. -/
theorem X_mul_polynomial_eq_ushiftRight (element : FieldElement) :
    X * polynomial element =
      polynomial (element >>> 1) + if element.getLsbD 0 then X ^ dimension else 0 := by
  ext power
  cases power with
  | zero => simp [coeff_polynomial, apply_ite (coeff · 0), dimension_eq]
  | succ power =>
      rw [coeff_X_mul]
      simp only [coeff_polynomial, coeff_add, apply_ite (coeff · (power + 1)), coeff_X_pow,
        getMsbD_ushiftRight_one, coeff_zero]
      rcases Nat.lt_trichotomy (power + 1) dimension with below | top | above
      · simp [below, below.ne]
      · have last : element.getMsbD power = element.getLsbD 0 := by
          obtain rfl : power = 127 := by
            rw [dimension_eq] at top
            omega
          simp [BitVec.getMsbD]
        simp [top, last]
      · simp [getMsbD_of_le (Nat.le_of_lt_succ above), above.ne']

/-- Multiplying by the indeterminate is a shift, up to the modulus. -/
theorem X_mul_polynomial (element : FieldElement) :
    X * polynomial element =
      polynomial (shift element) + if element.getLsbD 0 then modulus else 0 := by
  rw [X_mul_polynomial_eq_ushiftRight, shift, polynomial_xor]
  split
  · -- The reduction polynomial is added twice.
    rw [modulus, add_comm (X ^ dimension), add_assoc, ← add_assoc (polynomial reduction),
      CharTwo.add_self_eq_zero, zero_add]
  · rw [polynomial_zero, add_zero, add_zero]

/-! ### Residues modulo the modulus -/

/-- The residue that an element stands for. -/
noncomputable def residue (element : FieldElement) : AdjoinRoot modulus :=
  AdjoinRoot.mk modulus (polynomial element)

theorem residue_xor (left right : FieldElement) :
    residue (left ^^^ right) = residue left + residue right := by
  rw [residue, polynomial_xor, map_add, residue, residue]

theorem residue_eq_zero_iff {element : FieldElement} : residue element = 0 ↔ element = 0 := by
  rw [residue, AdjoinRoot.mk_eq_zero]
  constructor
  · intro divides
    apply polynomial_eq_zero_iff.mp
    apply eq_zero_of_dvd_of_degree_lt divides
    rw [degree_eq_natDegree monic_modulus.ne_zero, natDegree_modulus]
    exact degree_polynomial_lt element
  · rintro rfl
    rw [polynomial_zero]
    exact dvd_zero modulus

theorem residue_injective : Function.Injective residue := by
  intro left right same
  have sum : residue (left ^^^ right) = 0 := by
    rw [residue_xor, same, ← residue_xor, BitVec.xor_self]
    exact residue_eq_zero_iff.mpr rfl
  exact BitVec.xor_eq_zero_iff.mp (residue_eq_zero_iff.mp sum)

theorem residue_monomial {power : Nat} (within : power < dimension) :
    residue (monomial power) = AdjoinRoot.root modulus ^ power := by
  rw [residue, polynomial_monomial within, map_pow, AdjoinRoot.mk_X]

/-- A shift multiplies the residue by the root of the modulus. -/
theorem residue_shift (element : FieldElement) :
    residue (shift element) = AdjoinRoot.root modulus * residue element := by
  have whole := congrArg (AdjoinRoot.mk modulus) (X_mul_polynomial element)
  rw [map_mul, AdjoinRoot.mk_X, map_add, apply_ite (AdjoinRoot.mk modulus), AdjoinRoot.mk_self,
    map_zero, ite_self, add_zero] at whole
  exact whole.symm

theorem residue_ite (bit : Bool) (element : FieldElement) :
    residue (if bit then element else 0) = (if bit then 1 else 0) * residue element := by
  cases bit with
  | false => simp [residue_eq_zero_iff]
  | true => simp

/-- What Horner's rule has summed up after `count` coefficients. -/
theorem residue_foldl (left right : FieldElement) (count : Nat) :
    residue ((List.range count).foldl
        (fun product place => shift product ^^^ (if left.getLsbD place then right else 0)) 0) =
      (∑ place ∈ Finset.range count,
        (if left.getLsbD place then 1 else 0) * AdjoinRoot.root modulus ^ (count - 1 - place)) *
          residue right := by
  induction count with
  | zero => simp [residue_eq_zero_iff]
  | succ count ih =>
      have raised (place : Nat) (inside : place ∈ Finset.range count) :
          AdjoinRoot.root modulus *
              ((if left.getLsbD place then 1 else 0) *
                AdjoinRoot.root modulus ^ (count - 1 - place)) =
            (if left.getLsbD place then 1 else 0) *
              AdjoinRoot.root modulus ^ (count + 1 - 1 - place) := by
        have step : count + 1 - 1 - place = (count - 1 - place) + 1 := by
          have := Finset.mem_range.mp inside
          omega
        rw [step, pow_succ']
        ring
      rw [List.range_succ, List.foldl_append, List.foldl_cons, List.foldl_nil, residue_xor,
        residue_shift, ih, residue_ite, Finset.sum_range_succ, add_mul, ← mul_assoc,
        Finset.mul_sum, Finset.sum_congr rfl raised]
      simp

/-- A residue is the sum of the powers of the root that the bits of the element select. -/
theorem residue_eq_sum (element : FieldElement) :
    residue element = ∑ place ∈ Finset.range 128,
      (if element.getLsbD place then 1 else 0) * AdjoinRoot.root modulus ^ (128 - 1 - place) := by
  rw [residue, polynomial, map_sum, ← Finset.sum_range_reflect, dimension_eq]
  apply Finset.sum_congr rfl
  intro place inside
  have within := Finset.mem_range.mp inside
  have same : element.getMsbD (128 - 1 - place) = element.getLsbD place := by
    rw [BitVec.getMsbD, decide_eq_true (by omega), Bool.true_and]
    congr 1
    omega
  rw [same]
  split <;> simp

/-- `mul` multiplies residues. -/
theorem residue_mul (left right : FieldElement) :
    residue (mul left right) = residue left * residue right := by
  rw [mul, residue_foldl, ← residue_eq_sum]

/-! ### The modulus is irreducible -/

/-- The square of an element. -/
def square (element : FieldElement) : FieldElement :=
  mul element element

theorem residue_iterate_square (element : FieldElement) (count : Nat) :
    residue (square^[count] element) = residue element ^ 2 ^ count := by
  induction count with
  | zero => simp
  | succ count ih =>
      rw [Function.iterate_succ_apply', square, residue_mul, ih, ← pow_two, ← pow_mul, pow_succ]

/-- The indeterminate squared 64 times. -/
def halfway : FieldElement :=
  0x6f9945a9e519a7229d4c1ad657f8a686#128

/-- The inverse of the sum of `halfway` and the indeterminate. -/
def cofactor : FieldElement :=
  0x180da934bf53158251c13dbb149f5279#128

/-- Half of the squarings lead from the indeterminate to `halfway`. -/
theorem iterate_square_monomial_one : square^[dimension / 2] (monomial 1) = halfway := by
  rw [dimension_eq]
  decide +kernel

theorem iterate_square_halfway : square^[dimension / 2] halfway = monomial 1 := by
  rw [dimension_eq]
  decide +kernel

/-- The cofactor inverts the sum of `halfway` and the indeterminate. -/
theorem mul_cofactor : mul cofactor (halfway ^^^ monomial 1) = monomial 0 := by
  decide +kernel

/-- What squaring the indeterminate a number of times adds to it. -/
theorem mk_sub_eq_residue (count : Nat) :
    AdjoinRoot.mk modulus (X ^ 2 ^ count - X) =
      residue (square^[count] (monomial 1) ^^^ monomial 1) := by
  have within : 1 < dimension := by
    rw [dimension_eq]
    decide
  rw [CharTwo.sub_eq_add, map_add, map_pow, AdjoinRoot.mk_X, residue_xor, residue_iterate_square,
    residue_monomial within, pow_one]

/-- The modulus divides what all the squarings add to the indeterminate. -/
theorem modulus_dvd_sub : modulus ∣ X ^ 2 ^ dimension - X := by
  have twice : dimension = dimension / 2 + dimension / 2 := by
    rw [dimension_eq]
  have round : square^[dimension] (monomial 1) = monomial 1 := by
    rw [twice, Function.iterate_add, Function.comp_apply, iterate_square_monomial_one,
      iterate_square_halfway]
  rw [← AdjoinRoot.mk_eq_zero, mk_sub_eq_residue, round, BitVec.xor_self]
  exact residue_eq_zero_iff.mpr rfl

/-- A polynomial whose residue has an inverse has no factor in common with the modulus. -/
theorem isCoprime_modulus
    {difference : (ZMod 2)[X]}
    {element inverse : FieldElement}
    (stands : AdjoinRoot.mk modulus difference = residue element)
    (product : mul inverse element = monomial 0) :
    IsCoprime difference modulus := by
  have within : 0 < dimension := by
    rw [dimension_eq]
    decide
  have residues := congrArg residue product
  rw [residue_mul, ← stands, residue_monomial within, pow_zero, residue, ← map_mul,
    ← map_one (AdjoinRoot.mk modulus), AdjoinRoot.mk_eq_mk] at residues
  obtain ⟨quotient, whole⟩ := residues
  exact ⟨polynomial inverse, -quotient, by linear_combination whole⟩

/-- The modulus has no factor in common with what half of the squarings add. -/
theorem isCoprime_sub_modulus :
    IsCoprime (X ^ 2 ^ (dimension / 2) - X) modulus := by
  apply isCoprime_modulus (mk_sub_eq_residue (dimension / 2))
  rw [iterate_square_monomial_one]
  exact mul_cofactor

/-- The degree of an irreducible factor divides 128 but not 64, so the factor is all of the modulus. -/
theorem irreducible_modulus : Irreducible modulus := by
  have card : Nat.card (ZMod 2) = 2 := Nat.card_zmod 2
  have positive : 0 < modulus.natDegree := by
    rw [natDegree_modulus, dimension_eq]
    decide
  obtain ⟨factor, irreducible, divides⟩ := exists_irreducible_of_natDegree_pos positive
  have whole : factor.natDegree ∣ dimension := by
    apply irreducible.natDegree_dvd_of_dvd_X_pow_card_pow_sub_X
    rw [card]
    exact divides.trans modulus_dvd_sub
  have apart : ¬ factor.natDegree ∣ dimension / 2 := by
    intro half
    have common := irreducible.natDegree_dvd_iff_dvd_X_pow_card_pow_sub_X.mp half
    rw [card] at common
    exact irreducible.not_isUnit (isCoprime_sub_modulus.isUnit_of_dvd' common divides)
  have full : factor.natDegree = dimension := by
    rw [dimension_eq] at whole apart ⊢
    obtain ⟨exponent, small, size⟩ := (Nat.dvd_prime_pow Nat.prime_two (m := 7)).mp whole
    have top : exponent = 7 := by
      by_contra less
      apply apart
      rw [size]
      exact pow_dvd_pow 2 (by omega : exponent ≤ 6)
    rw [size, top]
    rfl
  have same : Associated factor modulus :=
    associated_of_dvd_of_natDegree_le divides monic_modulus.ne_zero
      (by rw [natDegree_modulus, full])
  exact same.irreducible irreducible

/-- A product with an element other than zero can be undone. -/
theorem mul_right_cancel
    {left right factor : FieldElement}
    (nonzero : factor ≠ 0)
    (same : mul left factor = mul right factor) :
    left = right := by
  have : Fact (Irreducible modulus) := ⟨irreducible_modulus⟩
  have residues := congrArg residue same
  rw [residue_mul, residue_mul] at residues
  exact residue_injective (mul_right_cancel₀ (mt residue_eq_zero_iff.mp nonzero) residues)

end FieldElement
end Cipher
end AntiForgery
