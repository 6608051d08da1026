import Mathlib

/-!
Erasure coding by polynomial evaluation over an arbitrary field. Position `i`
of a codeword is the value of one polynomial at `point i`; any set of positions
as large as the message determines every other position. The sums and products
run over lists, so a coefficient can be evaluated, and each is identified with
its counterpart in the library's Lagrange interpolation before it is used.
-/

namespace ErasureCode
open Polynomial

variable {K : Type} [Field K] (point : Nat → K)

/-- Weight of the known position `i` in the value at position `m`. -/
def coefficient (known : List Nat) (i m : Nat) : K :=
  ((known.filter (· ≠ i)).map fun j => (point m - point j) * (point i - point j)⁻¹).prod

/-- Value at position `m` of the polynomial through the known positions. -/
def interpolate (known : List Nat) (value : Nat → K) (m : Nat) : K :=
  (known.map fun i => coefficient point known i m * value i).sum

theorem coefficient_eval (known : List Nat) (distinct : known.Nodup) (i m : Nat) :
    coefficient point known i m =
      (Lagrange.basis known.toFinset point i).eval (point m) := by
  have erased : known.toFinset.erase i = (known.filter (· ≠ i)).toFinset := by
    ext j
    simp [and_comm]
  rw [Lagrange.basis, eval_prod, erased, List.prod_toFinset _ (distinct.filter _)]
  unfold coefficient
  congr 1
  apply List.map_congr_left
  intro j _
  rw [Lagrange.basisDivisor, eval_mul, eval_C, eval_sub, eval_X, eval_C, mul_comm]

theorem interpolate_eval (known : List Nat) (distinct : known.Nodup) (value : Nat → K) (m : Nat) :
    interpolate point known value m =
      (Lagrange.interpolate known.toFinset point value).eval (point m) := by
  rw [Lagrange.interpolate_apply, eval_finsetSum, List.sum_toFinset _ distinct]
  unfold interpolate
  congr 1
  apply List.map_congr_left
  intro i _
  rw [eval_mul, eval_C, coefficient_eval point known distinct, mul_comm]

theorem interpolate_congr (known : List Nat) {value value' : Nat → K}
    (agree : ∀ i ∈ known, value i = value' i) (m : Nat) :
    interpolate point known value m = interpolate point known value' m := by
  unfold interpolate
  congr 1
  apply List.map_congr_left
  intro i member
  rw [agree i member]

theorem interpolate_add (known : List Nat) (value value' : Nat → K) (m : Nat) :
    interpolate point known (fun i => value i + value' i) m =
      interpolate point known value m + interpolate point known value' m := by
  simp only [interpolate, mul_add, List.sum_map_add]

theorem interpolate_smul (known : List Nat) (scalar : K) (value : Nat → K) (m : Nat) :
    interpolate point known (fun i => scalar * value i) m =
      scalar * interpolate point known value m := by
  unfold interpolate
  rw [← List.sum_map_mul_left]
  congr 1
  apply List.map_congr_left
  intro i _
  ring

theorem interpolate_known (known : List Nat) (distinct : known.Nodup)
    (separate : Set.InjOn point {i | i ∈ known}) (value : Nat → K) (i : Nat) (member : i ∈ known) :
    interpolate point known value i = value i := by
  rw [interpolate_eval point known distinct]
  apply Lagrange.eval_interpolate_at_node value
  · simpa [Set.InjOn] using separate
  · exact List.mem_toFinset.mpr member

/-- Values sampled from one interpolation at equally many distinct positions
determine it: the code loses nothing while a message's worth survives. -/
theorem interpolate_again (source known : List Nat) (sourceDistinct : source.Nodup)
    (knownDistinct : known.Nodup) (enough : source.length = known.length)
    (separate : Set.InjOn point {i | i ∈ known}) (sourceSeparate : Set.InjOn point {i | i ∈ source})
    (value : Nat → K) (m : Nat) :
    interpolate point known (interpolate point source value) m =
      interpolate point source value m := by
  rw [interpolate_eval point known knownDistinct, interpolate_eval point source sourceDistinct]
  have sampled : Lagrange.interpolate known.toFinset point (interpolate point source value) =
      Lagrange.interpolate source.toFinset point value := by
    symm
    apply Lagrange.eq_interpolate_of_eval_eq
    · simpa [Set.InjOn] using separate
    · have low := Lagrange.degree_interpolate_lt (s := source.toFinset) (v := point) value
        (by simpa [Set.InjOn] using sourceSeparate)
      rw [List.toFinset_card_of_nodup sourceDistinct] at low
      rw [List.toFinset_card_of_nodup knownDistinct, ← enough]
      exact low
    · intro i _
      rw [interpolate_eval point source sourceDistinct]
  rw [sampled]

end ErasureCode
