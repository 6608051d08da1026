import Mathlib

/-!
The field with 256 elements as the residues of binary polynomials modulo
x^8 + x^4 + x^3 + x^2 + 1. Addition is exclusive or. Multiplication is the
shift-and-reduce product, so every operation runs on concrete bytes. The field
laws come from additivity in each argument and checks on the eight monomials;
inverses from the squaring map, which is additive too.
-/

namespace GaloisField

/-- Multiplication by x: shift, and reduce when the top coefficient falls out. -/
def double (a : BitVec 8) : BitVec 8 :=
  (a <<< 1) ^^^ (if a.msb then 0x1D#8 else 0#8)

/-- Horner evaluation over the `n` highest coefficients of `b`. -/
def accumulate (a b : BitVec 8) : Nat → BitVec 8
  | 0 => 0#8
  | n + 1 => double (accumulate a b n) ^^^ (if b.getMsbD n then a else 0#8)

def product (a b : BitVec 8) : BitVec 8 := accumulate a b 8

def monomial (i : Fin 8) : BitVec 8 := 1#8 <<< i.val

def Additive (f : BitVec 8 → BitVec 8) : Prop :=
  ∀ a b, f (a ^^^ b) = f a ^^^ f b

theorem Additive.zero {f : BitVec 8 → BitVec 8} (additive : Additive f) : f 0#8 = 0#8 := by
  have twice := additive 0#8 0#8
  rw [BitVec.xor_self] at twice
  rw [twice, BitVec.xor_self]

theorem Additive.comp {f g : BitVec 8 → BitVec 8} (outer : Additive f) (inner : Additive g) :
    Additive fun a => f (g a) := by
  intro a b
  simp only
  rw [inner, outer]

theorem Additive.iterate {f : BitVec 8 → BitVec 8} (additive : Additive f) (n : Nat) :
    Additive f^[n] := by
  induction n with
  | zero => exact fun _ _ => rfl
  | succ n ih =>
      rw [Function.iterate_succ']
      exact additive.comp ih

theorem expand (a : BitVec 8) :
    a = ((List.finRange 8).map fun i : Fin 8 => if a.getLsbD i then monomial i else 0#8).foldr
      (· ^^^ ·) 0#8 := by
  revert a
  decide +kernel

theorem additive_foldr {f : BitVec 8 → BitVec 8} (additive : Additive f) (terms : List (BitVec 8)) :
    f (terms.foldr (· ^^^ ·) 0#8) = (terms.map f).foldr (· ^^^ ·) 0#8 := by
  induction terms with
  | nil => exact additive.zero
  | cons term rest ih =>
      rw [List.foldr_cons, List.map_cons, List.foldr_cons, additive, ih]

/-- Two additive maps that agree on the monomials agree everywhere. -/
theorem additive_ext {f g : BitVec 8 → BitVec 8} (left : Additive f) (right : Additive g)
    (agree : ∀ i, f (monomial i) = g (monomial i)) (a : BitVec 8) : f a = g a := by
  rw [expand a, additive_foldr left, additive_foldr right]
  congr 1
  simp only [List.map_map]
  apply List.map_congr_left
  intro i _
  simp only [Function.comp_apply]
  split
  · exact agree i
  · rw [left.zero, right.zero]

theorem double_additive : Additive double := by
  intro a b
  unfold double
  rw [BitVec.shiftLeft_xor_distrib, BitVec.msb_xor]
  have cancel : ∀ u v : BitVec 8, u ^^^ v = u ^^^ 29#8 ^^^ (v ^^^ 29#8) := by
    intro u v
    rw [BitVec.xor_assoc, BitVec.xor_comm v, ← BitVec.xor_assoc 29#8, BitVec.xor_self,
      BitVec.zero_xor]
  cases a.msb <;> cases b.msb <;> simp <;> first | ac_rfl | exact cancel _ _

theorem accumulate_left_additive (b : BitVec 8) (n : Nat) :
    Additive fun a => accumulate a b n := by
  intro a a'
  induction n with
  | zero => exact (BitVec.xor_self).symm
  | succ n ih =>
      simp only [accumulate] at ih ⊢
      rw [ih, double_additive]
      cases b.getMsbD n
      · simp
      · simp only [↓reduceIte]; ac_rfl

theorem accumulate_right_additive (a : BitVec 8) (n : Nat) :
    Additive fun b => accumulate a b n := by
  intro b b'
  induction n with
  | zero => exact (BitVec.xor_self).symm
  | succ n ih =>
      simp only [accumulate] at ih ⊢
      rw [ih, double_additive, BitVec.getMsbD_xor]
      have merge : (if (b.getMsbD n ^^ b'.getMsbD n) = true then a else 0#8) =
          (if b.getMsbD n = true then a else 0#8) ^^^
            (if b'.getMsbD n = true then a else 0#8) := by
        cases b.getMsbD n <;> cases b'.getMsbD n <;> simp
      rw [merge]
      ac_rfl

theorem product_left_additive (b : BitVec 8) : Additive fun a => product a b :=
  accumulate_left_additive b 8

theorem product_right_additive (a : BitVec 8) : Additive fun b => product a b :=
  accumulate_right_additive a 8

theorem product_comm (a b : BitVec 8) : product a b = product b a := by
  have onMonomials : ∀ i j, product (monomial i) (monomial j) =
      product (monomial j) (monomial i) := by decide +kernel
  have leftMonomial : ∀ i b, product (monomial i) b = product b (monomial i) := fun i b =>
    additive_ext (product_right_additive _) (product_left_additive _) (onMonomials i) b
  exact additive_ext (product_left_additive b) (product_right_additive b)
    (fun i => leftMonomial i b) a

theorem product_double (a b : BitVec 8) : product (double a) b = double (product a b) := by
  have onMonomials : ∀ i j, product (double (monomial i)) (monomial j) =
      double (product (monomial i) (monomial j)) := by decide +kernel
  have leftMonomial : ∀ i b, product (double (monomial i)) b = double (product (monomial i) b) :=
    fun i b => additive_ext (product_right_additive _)
      (double_additive.comp (product_right_additive _)) (onMonomials i) b
  exact additive_ext ((product_left_additive b).comp double_additive)
    (double_additive.comp (product_left_additive b)) (fun i => leftMonomial i b) a

theorem product_double_iterate (n : Nat) (a b : BitVec 8) :
    product (double^[n] a) b = double^[n] (product a b) := by
  induction n with
  | zero => rfl
  | succ n ih => rw [Function.iterate_succ_apply', Function.iterate_succ_apply', product_double, ih]

theorem monomial_product (i : Fin 8) (a : BitVec 8) :
    product (monomial i) a = double^[i.val] a := by
  have onMonomials : ∀ i j, product (monomial i) (monomial j) = double^[i.val] (monomial j) := by
    decide +kernel
  exact additive_ext (product_right_additive _) (double_additive.iterate _) (onMonomials i) a

theorem product_assoc (a b c : BitVec 8) :
    product (product a b) c = product a (product b c) := by
  have onMonomials : ∀ i, product (product (monomial i) b) c =
      product (monomial i) (product b c) := by
    intro i
    rw [monomial_product, monomial_product, product_double_iterate]
  exact additive_ext
    ((product_left_additive c).comp (product_left_additive b))
    (product_left_additive (product b c)) onMonomials a

theorem product_one (a : BitVec 8) : product a 1#8 = a := by
  have onMonomials : ∀ i, product (monomial i) 1#8 = monomial i := by decide +kernel
  exact additive_ext (g := id) (product_left_additive 1#8) (fun _ _ => rfl) onMonomials a

/-- The power 254 as the product of the squarings 2, 4, ..., 128. -/
def reciprocal (a : BitVec 8) : BitVec 8 :=
  let a2 := product a a
  let a4 := product a2 a2
  let a8 := product a4 a4
  let a16 := product a8 a8
  let a32 := product a16 a16
  let a64 := product a32 a32
  let a128 := product a64 a64
  product a2 (product a4 (product a8 (product a16 (product a32 (product a64 a128)))))

theorem square_additive : Additive fun a => product a a := by
  intro a b
  have left : product (a ^^^ b) (a ^^^ b) = product a (a ^^^ b) ^^^ product b (a ^^^ b) :=
    product_left_additive (a ^^^ b) a b
  have first : product a (a ^^^ b) = product a a ^^^ product a b := product_right_additive a a b
  have second : product b (a ^^^ b) = product a b ^^^ product b b := by
    rw [product_comm a b]
    exact product_right_additive b a b
  -- The two mixed products cancel.
  simp only
  rw [left, first, second, BitVec.xor_assoc, ← BitVec.xor_assoc (product a b), BitVec.xor_self,
    BitVec.zero_xor]

/-- Eight squarings give the byte back, as they do on the monomials. -/
theorem square_iterate (a : BitVec 8) : (fun a => product a a)^[8] a = a := by
  have onMonomials : ∀ i, (fun a => product a a)^[8] (monomial i) = monomial i := by
    decide +kernel
  exact additive_ext (g := id) (square_additive.iterate 8) (fun _ _ => rfl) onMonomials a

theorem product_product_reciprocal (a : BitVec 8) : product a (product a (reciprocal a)) = a := by
  have closed := square_iterate a
  simp only [Function.iterate_succ, Function.iterate_zero, Function.comp_apply, id_eq] at closed
  simp only [reciprocal]
  -- Each square meets the next factor.
  rw [← product_assoc a a, ← product_assoc, ← product_assoc, ← product_assoc, ← product_assoc,
    ← product_assoc, ← product_assoc]
  exact closed

theorem idempotent_cases (a : BitVec 8) (idempotent : product a a = a) : a = 0#8 ∨ a = 1#8 := by
  revert a
  decide +kernel

theorem product_reciprocal (a : BitVec 8) (nonzero : a ≠ 0#8) :
    product a (reciprocal a) = 1#8 := by
  have again := product_product_reciprocal a
  have idempotent : product (product a (reciprocal a)) (product a (reciprocal a)) =
      product a (reciprocal a) := by
    calc product (product a (reciprocal a)) (product a (reciprocal a))
        = product (reciprocal a) (product a (product a (reciprocal a))) := by
          rw [product_comm a (reciprocal a), product_assoc]
      _ = product a (reciprocal a) := by rw [again, product_comm]
  rcases idempotent_cases _ idempotent with zero | one
  · rw [zero, (product_right_additive a).zero] at again
    exact absurd again.symm nonzero
  · exact one

end GaloisField

/-- A byte read as an element of the field with 256 elements. -/
structure GF256 where
  bits : BitVec 8
deriving DecidableEq

namespace GF256
open GaloisField

instance : Add GF256 := ⟨fun a b => ⟨a.bits ^^^ b.bits⟩⟩
instance : Mul GF256 := ⟨fun a b => ⟨product a.bits b.bits⟩⟩
instance : Zero GF256 := ⟨⟨0#8⟩⟩
instance : One GF256 := ⟨⟨1#8⟩⟩
instance : Neg GF256 := ⟨fun a => a⟩
instance : Inv GF256 := ⟨fun a => ⟨reciprocal a.bits⟩⟩

@[ext] theorem ext {a b : GF256} (same : a.bits = b.bits) : a = b := by
  cases a; cases b; cases same; rfl

@[simp] theorem add_bits (a b : GF256) : (a + b).bits = a.bits ^^^ b.bits := rfl
@[simp] theorem mul_bits (a b : GF256) : (a * b).bits = product a.bits b.bits := rfl
@[simp] theorem zero_bits : (0 : GF256).bits = 0#8 := rfl
@[simp] theorem one_bits : (1 : GF256).bits = 1#8 := rfl
@[simp] theorem neg_bits (a : GF256) : (-a).bits = a.bits := rfl
@[simp] theorem inv_bits (a : GF256) : (a⁻¹).bits = reciprocal a.bits := rfl

instance : Field GF256 where
  add_assoc _ _ _ := by ext1; simp [BitVec.xor_assoc]
  zero_add _ := by ext1; simp
  add_zero _ := by ext1; simp
  add_comm _ _ := by ext1; simp [BitVec.xor_comm]
  neg_add_cancel _ := by ext1; simp
  left_distrib a b c := by ext1; exact product_right_additive a.bits b.bits c.bits
  right_distrib a b c := by ext1; exact product_left_additive c.bits a.bits b.bits
  zero_mul a := by ext1; exact (product_left_additive a.bits).zero
  mul_zero a := by ext1; exact (product_right_additive a.bits).zero
  mul_assoc a b c := by ext1; exact product_assoc a.bits b.bits c.bits
  mul_comm a b := by ext1; exact product_comm a.bits b.bits
  one_mul a := by ext1; exact (product_comm 1#8 a.bits).trans (product_one a.bits)
  mul_one a := by ext1; exact product_one a.bits
  mul_inv_cancel a nonzero := by
    ext1
    exact product_reciprocal a.bits fun zero => nonzero (by ext1; exact zero)
  inv_zero := by decide +kernel
  exists_pair_ne := ⟨0, 1, by decide⟩
  nsmul := nsmulRec
  zsmul := zsmulRec
  nnqsmul := _
  qsmul := _

theorem add_self (a : GF256) : a + a = 0 := by ext1; simp

end GF256
