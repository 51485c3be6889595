import KeccakSimd.Spec.Reference
import Mathlib.Logic.Function.Iterate
import Mathlib.Tactic.FinCases

/-!
# `Spec.Invertible` — Keccak-f[1600] is injective

Each step of a round is injective. ι, ρ and π have evident inverses. χ is inverted row by row by
`a[x] = b[x] ⊕ (¬b[x+1] ∧ (b[x+2] ⊕ (¬b[x+3] ∧ b[x+4])))`, an identity on 5-bit rows checked on all
32 of them (`chiInv_row`).

θ is XOR-linear, so it is injective once its kernel is trivial. Two states with the same image
differ by a lane pattern `δ` that is constant along each column, equal there to the difference `Δ[x]`
of their θ-effects; the XOR `e` of their column parities is then `Δ` itself (five equal lanes), and
`Δ[x] = e[x-1] ⊕ rot(e[x+1], 1)`. So `e` solves `e[x] = e[x-1] ⊕ rot(e[x+1], 1)` (`ThetaKernel`).
With `T(c) = c ⊕ rot(c, 1)` — multiplication by `1 + y` in `GF(2)[y]/(y^64 + 1)` — every solution is
`T` of the solution `kernelMix e` (`ThetaKernel.eq_tee`, `ThetaKernel.mix`), hence `T^n` of something
for every `n`; and `T^64 = 0`, because `T^(2^k)(c) = c ⊕ rot(c, 2^k)`. So `e = 0`, `Δ = 0`, `δ = 0`.
-/

namespace KeccakSimd.Spec

/-! ## Multiplication by `1 + y` -/

/-- `T(c) = c ⊕ rot(c, 1)`, multiplication by `1 + y`. -/
def tee (c : UINT64) : UINT64 := c ^^^ c.rotateLeft 1

theorem iterate_tee_xor (n : Nat) (a b : UINT64) : tee^[n] (a ^^^ b) = tee^[n] a ^^^ tee^[n] b := by
  induction n with
  | zero => rfl
  | succ n ih =>
    simp only [Function.iterate_succ_apply', ih, tee, rotateLeft_xor]
    ac_rfl

theorem iterate_tee_rotateLeft (n : Nat) (a : UINT64) (r : Nat) :
    tee^[n] (a.rotateLeft r) = (tee^[n] a).rotateLeft r := by
  induction n with
  | zero => rfl
  | succ n ih =>
    simp only [Function.iterate_succ_apply', ih, tee, rotateLeft_xor, rotateLeft_rotateLeft,
      Nat.add_comm]

/-- The Frobenius identity `(1 + y)^(2^k) = 1 + y^(2^k)`. -/
theorem iterate_tee_two_pow (k : Nat) (a : UINT64) : tee^[2 ^ k] a = a ^^^ a.rotateLeft (2 ^ k) := by
  induction k with
  | zero => rfl
  | succ k ih =>
    rw [Nat.pow_succ, Nat.mul_two, Function.iterate_add_apply, ih, iterate_tee_xor,
      iterate_tee_rotateLeft, ih, rotateLeft_xor, rotateLeft_rotateLeft, BitVec.xor_assoc,
      xor_cancel_left]

/-- `(1 + y)^64 = 1 + y^64 = 0`. -/
theorem iterate_tee_sixtyFour (a : UINT64) : tee^[64] a = 0 := by
  simpa using iterate_tee_two_pow 6 a

/-! ## θ -/

/-- Column parities in the kernel of θ's action on parities: `e[x] = e[x-1] ⊕ rot(e[x+1], 1)`. -/
def ThetaKernel (e : Fin 5 → UINT64) : Prop := ∀ x, e x = e (x - 1) ^^^ (e (x + 1)).rotateLeft 1

/-- `L(e)[x] = e[x+1] ⊕ e[x+3] ⊕ e[x+4]`; on the kernel, `e = T(L e)`. -/
def kernelMix (e : Fin 5 → UINT64) : Fin 5 → UINT64 := fun x => e (x + 1) ^^^ e (x + 3) ^^^ e (x + 4)

section Kernel

variable {e : Fin 5 → UINT64}

/-! Column indices are read modulo 5; these put every index the kernel lemmas meet in the form
    `x + k` with a numeral `k < 5`. -/

theorem column_sub_one (x : Fin 5) : x - 1 = x + 4 := by revert x; decide

theorem column_add_add (x a b : Fin 5) : x + a + b = x + (a + b) := by revert x a b; decide

theorem column_add_zero (x : Fin 5) : x + 0 = x := by revert x; decide

/-- On the kernel a rotated parity is the XOR of the two parities before it. -/
theorem ThetaKernel.rot (h : ThetaKernel e) (x : Fin 5) :
    (e x).rotateLeft 1 = e (x + 4) ^^^ e (x + 3) := by
  have h1 := h (x + 4)
  simp only [column_sub_one, column_add_add, Fin.reduceAdd, column_add_zero] at h1
  rw [h1, BitVec.xor_comm (e (x + 3)), BitVec.xor_assoc, BitVec.xor_self, BitVec.xor_zero]

/-- Once the rotations are gone, both kernel identities are XOR identities in the five parities,
    checked bit by bit. -/
theorem ThetaKernel.eq_tee (h : ThetaKernel e) (x : Fin 5) : e x = tee (kernelMix e x) := by
  simp only [tee, kernelMix, rotateLeft_xor, h.rot, column_add_add, Fin.reduceAdd, column_add_zero]
  ext i
  simp only [BitVec.getLsbD_xor]
  cases (e x).getLsbD i <;> cases (e (x + 1)).getLsbD i <;> cases (e (x + 2)).getLsbD i <;>
    cases (e (x + 3)).getLsbD i <;> cases (e (x + 4)).getLsbD i <;> rfl

theorem ThetaKernel.mix (h : ThetaKernel e) : ThetaKernel (kernelMix e) := by
  intro x
  simp only [kernelMix, column_sub_one, rotateLeft_xor, h.rot, column_add_add, Fin.reduceAdd,
    column_add_zero]
  ext i
  simp only [BitVec.getLsbD_xor]
  cases (e x).getLsbD i <;> cases (e (x + 1)).getLsbD i <;> cases (e (x + 2)).getLsbD i <;>
    cases (e (x + 3)).getLsbD i <;> cases (e (x + 4)).getLsbD i <;> rfl

theorem ThetaKernel.exists_iterate (h : ThetaKernel e) (n : Nat) :
    ∃ d : Fin 5 → UINT64, ∀ x, e x = tee^[n] (d x) := by
  induction n generalizing e with
  | zero => exact ⟨e, fun _ => rfl⟩
  | succ n ih =>
    obtain ⟨d, hd⟩ := ih h.mix
    exact ⟨d, fun x => by rw [h.eq_tee x, hd x, Function.iterate_succ_apply']⟩

/-- **The kernel is trivial**: `e = T^64(d) = 0`. -/
theorem ThetaKernel.eq_zero (h : ThetaKernel e) (x : Fin 5) : e x = 0 := by
  obtain ⟨d, hd⟩ := h.exists_iterate 64
  rw [hd x, iterate_tee_sixtyFour]

end Kernel

theorem theta_injective : Function.Injective theta := by
  intro s t hst
  -- the lanes of `s` and `t` differ by the difference `Δ` of their θ-effects
  have hlane : ∀ x y, s x y ^^^ t x y = thetaEffect s x ^^^ thetaEffect t x := fun x y =>
    xor_eq_xor_swap (congrFun (congrFun hst x) y)
  -- the parities differ by `Δ` too, and that difference is in the kernel
  let e := fun x => columnParity s x ^^^ columnParity t x
  have he : ∀ x, e x = thetaEffect s x ^^^ thetaEffect t x := fun x => by
    have h5 : e x = (s x 0 ^^^ t x 0) ^^^ (s x 1 ^^^ t x 1) ^^^ (s x 2 ^^^ t x 2) ^^^
        (s x 3 ^^^ t x 3) ^^^ (s x 4 ^^^ t x 4) := by
      simp only [e, columnParity]; ac_rfl
    rw [h5, hlane, hlane, hlane, hlane, hlane]
    simp
  have hk : ThetaKernel e := fun x => by
    rw [he]
    simp only [e, thetaEffect, rotateLeft_xor]
    ac_rfl
  funext x y
  apply eq_of_xor_eq_zero
  rw [hlane, ← he, hk.eq_zero]

/-! ## ρ, π, χ, ι -/

/-- ρ⁻¹: each lane rotated left by `64 - offset`. -/
def rhoInv (s : State) : State := fun x y => (s x y).rotateLeft (64 - rhoOffset x y % 64)

theorem rhoInv_rho (s : State) : rhoInv (rho s) = s := by
  funext x y
  rw [rhoInv, rho, rotateLeft_rotateLeft, ← BitVec.rotateLeft_mod_eq_rotateLeft,
    show (rhoOffset x y + (64 - rhoOffset x y % 64)) % 64 = 0 by omega, rotateLeft_zero]

/-- π⁻¹: the old lane `(x, y)` is the new lane `(y, 2(x - y))`. -/
def piInv (s : State) : State := fun x y => s y (2 * (x - y))

theorem piInv_pi (s : State) : piInv (pi s) = s := by
  funext x y
  have h : y + 3 * (2 * (x - y)) = x := by revert x y; decide
  rw [piInv, pi, h]

/-- χ⁻¹ along each row: `b[x] ⊕ (¬b[x+1] ∧ (b[x+2] ⊕ (¬b[x+3] ∧ b[x+4])))`. -/
def chiInv (s : State) : State := fun x y =>
  s x y ^^^ (~~~s (x + 1) y &&& (s (x + 2) y ^^^ (~~~s (x + 3) y &&& s (x + 4) y)))

/-- The inverse formula on one row `(a, b, c, d, e)`, bit by bit over the 32 rows of bits. -/
theorem chiInv_row (a b c d e : UINT64) :
    (a ^^^ (~~~b &&& c)) ^^^ (~~~(b ^^^ (~~~c &&& d)) &&&
      ((c ^^^ (~~~d &&& e)) ^^^ (~~~(d ^^^ (~~~e &&& a)) &&& (e ^^^ (~~~a &&& b))))) = a := by
  ext i
  simp only [BitVec.getLsbD_xor, BitVec.getLsbD_and, BitVec.getLsbD_not, i.isLt, decide_True,
    Bool.true_and]
  cases a.getLsbD i <;> cases b.getLsbD i <;> cases c.getLsbD i <;> cases d.getLsbD i <;>
    cases e.getLsbD i <;> rfl

theorem chiInv_chi (s : State) : chiInv (chi s) = s := by
  funext x y
  fin_cases x <;> exact chiInv_row _ _ _ _ _

theorem iota_iota (c : UINT64) (s : State) : iota c (iota c s) = s := by
  funext x y
  by_cases h : x = 0 ∧ y = 0 <;> simp [iota, h, BitVec.xor_assoc]

/-! ## Rounds and the permutation -/

theorem rnd_injective (i : Fin 24) : Function.Injective (rnd i) :=
  (Function.LeftInverse.injective (iota_iota _)).comp <|
    (Function.LeftInverse.injective chiInv_chi).comp <|
    (Function.LeftInverse.injective piInv_pi).comp <|
    (Function.LeftInverse.injective rhoInv_rho).comp theta_injective

theorem keccakRounds_injective (n : Nat) (h : n ≤ 24) :
    Function.Injective fun s => keccakRounds s n h := by
  induction n with
  | zero => exact Function.injective_id
  | succ n ih => exact (rnd_injective _).comp (ih _)

theorem keccakF1600_injective : Function.Injective keccakF1600 :=
  (Function.LeftInverse.injective ofWords_toWords).comp <|
    (keccakRounds_injective 24 le_rfl).comp (Function.LeftInverse.injective toWords_ofWords)

end KeccakSimd.Spec
