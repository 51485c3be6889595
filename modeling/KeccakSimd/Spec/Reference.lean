import KeccakSimd.Simd

/-!
# `Spec.Reference` — Keccak-f[1600] as the spec states it

The scalar reference the macros are checked against: 25 lanes addressed by `(x, y)`, and 24 rounds
of θ, ρ, π, χ, ι in that order. Nothing here is read off the macro file. The ρ offsets come from the
Keccak formula (the `t`-th offset is `(t + 1)(t + 2)/2 mod 64`, along the orbit of `(1, 0)` under
`(x, y) ↦ (y, 2x + 3y)`), and the round constants from the Keccak LFSR
`rc(t) = (x^t mod x^8 + x^6 + x^5 + x^4 + 1) mod x`, bit `2^j - 1` of round `i`'s constant being
`rc(j + 7i)`. That these agree with the tables the macros hard-code is proved in
`Correctness.Round`.

The spec flattens lane `(x, y)` to word `x + 5y`; `ofWords`/`toWords` convert, inversely to each
other, and `keccakF1600` is the permutation on the 25-word buffer.

It starts with the algebra of the 64-bit lanes the spec is written in.
-/

namespace KeccakSimd

/-! ## The algebra of 64-bit lanes

XOR on lanes is an abelian group in which every lane is its own inverse; `xor_left_comm64` and
`xor_cancel_left` complete the core library's `xor_assoc`, `xor_comm`, `xor_self` into a rewriting
set that sorts an XOR of lanes and cancels pairs.

`BitVec.rotateLeft` on a lane goes through one bit-level formula: bit `i` of `rotateLeft a r` is bit
`(i - r) mod 64` of `a` (`getLsbD_rotateLeft64`). Every other rotation fact is read off it: rotation
distributes over XOR, rotations compose by adding their amounts, and rotating by `0` or `64` is the
identity. -/

/-! ### XOR -/

theorem xor_left_comm64 (a b c : UINT64) : a ^^^ (b ^^^ c) = b ^^^ (a ^^^ c) := by
  rw [← BitVec.xor_assoc, BitVec.xor_comm a, BitVec.xor_assoc]

theorem xor_cancel_left (a b : UINT64) : a ^^^ (a ^^^ b) = b := by
  rw [← BitVec.xor_assoc, BitVec.xor_self, BitVec.zero_xor]

theorem eq_of_xor_eq_zero {a b : UINT64} (h : a ^^^ b = 0) : a = b := by
  simpa [h] using xor_cancel_left a b

theorem xor_right_inj64 {a b c : UINT64} : a ^^^ b = a ^^^ c ↔ b = c :=
  ⟨fun h => by rw [← xor_cancel_left a b, h, xor_cancel_left], fun h => h ▸ rfl⟩

theorem xor_left_inj64 {a b c : UINT64} : b ^^^ a = c ^^^ a ↔ b = c := by
  rw [BitVec.xor_comm b, BitVec.xor_comm c, xor_right_inj64]

/-- Moving terms across an equation of two XORs. -/
theorem xor_eq_xor_swap {a b c d : UINT64} (h : a ^^^ b = c ^^^ d) : a ^^^ c = b ^^^ d := by
  simpa [BitVec.xor_assoc, BitVec.xor_comm, xor_left_comm64, xor_cancel_left] using
    congrArg (· ^^^ (b ^^^ c)) h

/-! ### Rotation -/

/-- Bit `i` of a rotated lane is bit `(i - r) mod 64` of the lane. -/
theorem getLsbD_rotateLeft64 (a : UINT64) (r : Nat) (i : Fin 64) :
    (a.rotateLeft r).getLsbD i = a.getLsbD ((i.val + 64 - r % 64) % 64) := by
  rw [BitVec.getLsbD_rotateLeft]
  by_cases h : i.val < r % 64
  · have h1 : (i.val + 64 - r % 64) % 64 = 64 - r % 64 + i.val := by omega
    simp [h, h1]
  · have h1 : (i.val + 64 - r % 64) % 64 = i.val - r % 64 := by omega
    simp [h, h1]

theorem rotateLeft_xor (a b : UINT64) (r : Nat) :
    (a ^^^ b).rotateLeft r = a.rotateLeft r ^^^ b.rotateLeft r := by
  ext i
  simp only [getLsbD_rotateLeft64, BitVec.getLsbD_xor]

theorem rotateLeft_rotateLeft (a : UINT64) (r s : Nat) :
    (a.rotateLeft r).rotateLeft s = a.rotateLeft (r + s) := by
  ext i
  have h : ((i.val + 64 - s % 64) % 64 + 64 - r % 64) % 64 = (i.val + 64 - (r + s) % 64) % 64 := by
    omega
  rw [getLsbD_rotateLeft64, getLsbD_rotateLeft64 a _ ⟨_, Nat.mod_lt _ (by decide)⟩,
    getLsbD_rotateLeft64, h]

@[simp] theorem rotateLeft_zero (a : UINT64) : a.rotateLeft 0 = a := by
  ext i
  rw [getLsbD_rotateLeft64]
  congr 1
  omega

@[simp] theorem rotateLeft_sixtyFour (a : UINT64) : a.rotateLeft 64 = a := by
  rw [← BitVec.rotateLeft_mod_eq_rotateLeft]
  exact rotateLeft_zero a

end KeccakSimd

namespace KeccakSimd.Spec

/-- The state as the spec addresses it: `s x y` is lane `(x, y)`. -/
abbrev State := Fin 5 → Fin 5 → UINT64

/-- The state whose lane `(x, y)` is word `x + 5y` of `S`. -/
def ofWords (S : Words) : State := fun x y => S ⟨x.val + 5 * y.val, by omega⟩

/-- The buffer whose word `k` is lane `(k mod 5, k / 5)` of `s`. -/
def toWords (s : State) : Words := fun k => s ⟨k.val % 5, by omega⟩ ⟨k.val / 5, by omega⟩

theorem toWords_ofWords (S : Words) : toWords (ofWords S) = S := by
  funext k
  simp only [toWords, ofWords, Nat.mod_add_div]

theorem ofWords_toWords (s : State) : ofWords (toWords s) = s := by
  funext x y
  have hx : (x.val + 5 * y.val) % 5 = x.val := by omega
  have hy : (x.val + 5 * y.val) / 5 = y.val := by omega
  simp only [ofWords, toWords, hx, hy]

/-! ## The five step mappings -/

/-- `C[x]`, the XOR of column `x`. -/
def columnParity (s : State) (x : Fin 5) : UINT64 :=
  s x 0 ^^^ s x 1 ^^^ s x 2 ^^^ s x 3 ^^^ s x 4

/-- The θ-effect `D[x] = C[x-1] ⊕ rotateLeft(C[x+1], 1)`. -/
def thetaEffect (s : State) (x : Fin 5) : UINT64 :=
  columnParity s (x - 1) ^^^ (columnParity s (x + 1)).rotateLeft 1

/-- θ: the θ-effect of column `x` XORed into every lane of column `x`. -/
def theta (s : State) : State := fun x y => s x y ^^^ thetaEffect s x

/-- The lane ρ visits at step `t`: the orbit of `(1, 0)` under `(x, y) ↦ (y, 2x + 3y)`. -/
def rhoOrbit : Nat → Fin 5 × Fin 5
  | 0 => (1, 0)
  | t + 1 => ((rhoOrbit t).2, 2 * (rhoOrbit t).1 + 3 * (rhoOrbit t).2)

/-- The ρ offset of lane `(x, y)`: `(t + 1)(t + 2)/2 mod 64` for the step `t < 24` that visits it,
    and `0` for lane `(0, 0)`, which the orbit never visits. -/
def rhoOffset (x y : Fin 5) : Nat :=
  match (List.range 24).find? (fun t => rhoOrbit t = (x, y)) with
  | some t => (t + 1) * (t + 2) / 2 % 64
  | none => 0

/-- ρ: each lane rotated left by its offset. -/
def rho (s : State) : State := fun x y => (s x y).rotateLeft (rhoOffset x y)

/-- π: lane `(x, y)` moves to `(y, 2x + 3y)`, i.e. the new lane `(x, y)` is the old `(x + 3y, x)`. -/
def pi (s : State) : State := fun x y => s (x + 3 * y) x

/-- χ: `a[x] ⊕ (¬a[x+1] ∧ a[x+2])` along each row. -/
def chi (s : State) : State := fun x y => s x y ^^^ (~~~s (x + 1) y &&& s (x + 2) y)

/-- `x^t mod (x^8 + x^6 + x^5 + x^4 + 1)` over GF(2), the coefficient of `x^j` at bit `j`. -/
def lfsr : Nat → Nat
  | 0 => 1
  | t + 1 =>
    let r := lfsr t <<< 1
    if r.testBit 8 then r ^^^ 0x171 else r

/-- The LFSR output bit `rc(t)`. -/
def rc (t : Nat) : Bool := (lfsr t).testBit 0

/-- The round constant of round `i`: bit `2^j - 1` is `rc(j + 7i)` for `j = 0..6`. -/
def roundConstant (i : Fin 24) : UINT64 :=
  (List.range 7).foldl (fun c j => if rc (j + 7 * i.val) then c ||| 1#64 <<< (Nat.pow 2 j - 1) else c) 0

/-- ι: the round constant `c` XORed into lane `(0, 0)`. -/
def iota (c : UINT64) (s : State) : State := fun x y =>
  if x = 0 ∧ y = 0 then s x y ^^^ c else s x y

/-- Round `i`: θ, ρ, π, χ, then ι with round `i`'s constant. -/
def rnd (i : Fin 24) (s : State) : State := iota (roundConstant i) (chi (pi (rho (theta s))))

/-! ## The permutation -/

/-- The first `n` rounds, `0 .. n - 1`. -/
def keccakRounds (s : State) : (n : Nat) → n ≤ 24 → State
  | 0, _ => s
  | n + 1, h => rnd ⟨n, h⟩ (keccakRounds s n (Nat.le_of_succ_le h))

/-- Keccak-f[1600]: the 24 rounds. -/
def keccakF (s : State) : State := keccakRounds s 24 le_rfl

/-- Keccak-f[1600] on the 25-word buffer, lane `(x, y)` at word `x + 5y`. -/
def keccakF1600 (S : Words) : Words := toWords (keccakF (ofWords S))

end KeccakSimd.Spec
