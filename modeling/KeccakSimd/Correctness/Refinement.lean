import KeccakSimd.Copy
import KeccakSimd.Correctness.Round
import KeccakSimd.Spec.Invertible
import Mathlib.Data.Finite.Prod
import Mathlib.Data.Fintype.Card

/-!
# `Correctness.Refinement` — the macros compute Keccak-f[1600]

The whole-run result, assembled from the step lemmas of `Correctness.Round` and the load and store
lemmas of `Correctness.Layout`:

* `Sim R n s` — after `n` rounds the state `s` sits in `A` (even `n`) or `E` (odd `n`), and the
  parity registers hold its column parities;
* `Sim.load` — the load establishes it; `Sim.roundStep` — one round of the driver keeps it, one spec
  round further; `Sim.rounds` — by induction, it holds after every prefix of the 24 rounds;
* `rounds_loadState_decode` — so after every prefix of the rounds the current set holds the spec's
  state after that many rounds;
* `permute_eq_keccakF1600` — storing from `A` after round 23 writes Keccak-f[1600] of the input;
* `permute_bijective` — so the macros permute the 2^1600 states (`Spec.Invertible`);
* `absorbsPrefix_copyFromStateAndXor` — each rate's fused load-and-XOR reads exactly its block and
  absorbing then permuting is Keccak-f[1600] of the state with the block XORed in;
* `columnParity_invariant` — the parity registers are right after every load and every round;
* `copyToState_E_after_first_round` — `copyToState(state, E)` does not store what `E` holds: four
  of its words are read from `A`.
* `absorbSeparates_copyFromStateAndXor` — an absorb step tells apart exactly the blocks that differ
  in the first `r/64` words, and permutes the states for a fixed block.
-/

namespace KeccakSimd

open Spec

/-- The register set the state is in after `n` rounds. -/
def current (R : RegisterFile) (n : Nat) : LaneRegs := if n % 2 = 0 then R.A else R.E

/-- **The simulation relation** after `n` rounds: the current set holds `s`, and the parity
    registers hold the column parities of `s`. -/
structure Sim (R : RegisterFile) (n : Nat) (s : State) : Prop where
  decode_eq : decode (current R n) = s
  parity : ParityInv R.C s

theorem roundStep_of_even {R : RegisterFile} {i : Fin 24} (h : i.val % 2 = 0) :
    roundStep R i = ⟨(thetaRhoPiChiIota i R.A R.E R.C).1, (thetaRhoPiChiIota i R.A R.E R.C).2.1,
      (thetaRhoPiChiIota i R.A R.E R.C).2.2⟩ :=
  if_pos h

theorem roundStep_of_odd {R : RegisterFile} {i : Fin 24} (h : i.val % 2 = 1) :
    roundStep R i = ⟨(thetaRhoPiChiIota i R.E R.A R.C).2.1, (thetaRhoPiChiIota i R.E R.A R.C).1,
      (thetaRhoPiChiIota i R.E R.A R.C).2.2⟩ :=
  if_neg (by omega)

/-- `copyFromState(A, state)` starts the simulation at round 0. -/
theorem Sim.load (R : RegisterFile) (S : Words) : Sim (loadState R S) 0 (ofWords S) :=
  ⟨copyFromState_decode R.A S, copyFromState_parity R.A S⟩

/-- **Step lemma.** Round `n` of the driver is round `n` of the spec on the simulated state. -/
theorem Sim.roundStep {R : RegisterFile} {n : Nat} {s : State} (h : n < 24) (hs : Sim R n s) :
    Sim (roundStep R ⟨n, h⟩) (n + 1) (rnd ⟨n, h⟩ s) := by
  obtain ⟨hd, hp⟩ := hs
  rcases Nat.mod_two_eq_zero_or_one n with he | ho
  · rw [current, if_pos he] at hd
    subst hd
    have hr := thetaRhoPiChiIotaPrepareTheta_decode ⟨n, h⟩ R.A R.E R.C hp
    rw [roundStep_of_even he]
    exact ⟨by rw [current, if_neg (by omega)]; exact hr,
      hr ▸ thetaRhoPiChiIotaPrepareTheta_parity _ _ _ _⟩
  · rw [current, if_neg (by omega)] at hd
    subst hd
    have hr := thetaRhoPiChiIotaPrepareTheta_decode ⟨n, h⟩ R.E R.A R.C hp
    rw [roundStep_of_odd ho]
    exact ⟨by rw [current, if_pos (by omega)]; exact hr,
      hr ▸ thetaRhoPiChiIotaPrepareTheta_parity _ _ _ _⟩

/-- **Run lemma.** After the first `n` rounds the driver simulates the first `n` spec rounds. -/
theorem Sim.rounds {R : RegisterFile} {s : State} (h0 : Sim R 0 s) :
    ∀ (n : Nat) (h : n ≤ 24), Sim (KeccakSimd.rounds R n h) n (keccakRounds s n h)
  | 0, _ => h0
  | n + 1, h => (Sim.rounds h0 n (Nat.le_of_succ_le h)).roundStep h

/-- After the 24 rounds, storing from `A` writes Keccak-f[1600] of the simulated state. -/
theorem permuteLoaded_eq {R : RegisterFile} {s : State} (h : Sim R 0 s) :
    permuteLoaded R = toWords (keccakF s) := by
  rw [permuteLoaded, copyToState_self]
  exact congrArg toWords (h.rounds 24 le_rfl).decode_eq

/-- **The driver holds the spec's state at every round boundary**: after loading `state` and running
    the first `n` rounds, the current register set (`A` after an even number of rounds, `E` after an
    odd number) holds the first `n` rounds of Keccak-f[1600] applied to `state`. -/
theorem rounds_loadState_decode (R : RegisterFile) (S : Words) (n : Nat) (h : n ≤ 24) :
    decode (current (KeccakSimd.rounds (loadState R S) n h) n) = keccakRounds (ofWords S) n h :=
  ((Sim.load R S).rounds n h).decode_eq

/-- Three rounds from a state whose 25 words are all different and non-zero. -/
theorem rounds_loadState_decode_three :
    3 ≤ 24 ∧
      decode (current (KeccakSimd.rounds
        (loadState default fun k => BitVec.ofNat 64 (k.val + 1)) 3 (by decide)) 3) =
      keccakRounds (ofWords fun k => BitVec.ofNat 64 (k.val + 1)) 3 (by decide) :=
  ⟨by decide, rounds_loadState_decode default _ 3 (by decide)⟩

/-- **The macros compute Keccak-f[1600].** Loading with `copyFromState(A, state)`, running the 24
    fused rounds alternately from `A` and `E`, and storing with `copyToState(state, A)` writes the
    spec's permutation of `state`, whatever the registers held before. -/
theorem permute_eq_keccakF1600 (R : RegisterFile) (S : Words) : permute R S = keccakF1600 S :=
  permuteLoaded_eq (Sim.load R S)

/-- **The macros permute the states.** Injective because Keccak-f[1600] is, hence bijective on the
    finite set of 25-word buffers. -/
theorem permute_bijective (R : RegisterFile) : Function.Bijective (permute R) := by
  haveI : Finite UINT64 := Finite.of_injective BitVec.toFin fun _ _ => BitVec.eq_of_toFin_eq
  refine Finite.injective_iff_bijective.mp fun S S' h => keccakF1600_injective ?_
  exact (permuteLoaded_eq (Sim.load R S)).symm.trans
    (h.trans (permuteLoaded_eq (Sim.load R S')))

/-! ## Absorbing -/

/-- An absorbing load that takes an `n`-word input block: it reads no input word at or past `n`, it
    leaves in the registers what `copyFromState` leaves for the state with the block XORed in, and
    absorbing then permuting is Keccak-f[1600] of that state. -/
def AbsorbsPrefix (load : LaneRegs → Words → Words → LaneRegs × ColumnRegs) (n : Nat) : Prop :=
  ∀ (R : RegisterFile) (S I : Words),
    (∀ I' : Words, (∀ k : Fin 25, k.val < n → I' k = I k) → load R.A S I' = load R.A S I) ∧
    load R.A S I = copyFromState R.A (xorPrefix S I n) ∧
    absorbAndPermute load R S I = keccakF1600 (xorPrefix S I n)

theorem absorbsPrefix_of_eq {load : LaneRegs → Words → Words → LaneRegs × ColumnRegs} {n : Nat}
    (hload : ∀ X S I, load X S I = copyFromStateAndXor (XorLoads.ofPrefix n) X S I) :
    AbsorbsPrefix load n := by
  intro R S I
  have heq : ∀ I', load R.A S I' = copyFromState R.A (xorPrefix S I' n) := fun I' => by
    rw [hload, copyFromStateAndXor_ofPrefix]
  refine ⟨fun I' hI => by rw [heq, heq, xorPrefix_congr hI], heq I, ?_⟩
  rw [absorbAndPermute, heq]
  exact permuteLoaded_eq (Sim.load R _)

/-- **Each rate's fused load-and-XOR absorbs exactly its block**: `r/64` words for
    `r ∈ {576, 832, 1024, 1088, 1152, 1344}`. -/
theorem absorbsPrefix_copyFromStateAndXor :
    AbsorbsPrefix copyFromStateAndXor576bits 9 ∧ AbsorbsPrefix copyFromStateAndXor832bits 13 ∧
    AbsorbsPrefix copyFromStateAndXor1024bits 16 ∧ AbsorbsPrefix copyFromStateAndXor1088bits 17 ∧
    AbsorbsPrefix copyFromStateAndXor1152bits 18 ∧ AbsorbsPrefix copyFromStateAndXor1344bits 21 :=
  ⟨absorbsPrefix_of_eq fun _ _ _ => rfl, absorbsPrefix_of_eq fun _ _ _ => rfl,
    absorbsPrefix_of_eq fun _ _ _ => rfl, absorbsPrefix_of_eq fun _ _ _ => rfl,
    absorbsPrefix_of_eq fun _ _ _ => rfl, absorbsPrefix_of_eq fun _ _ _ => rfl⟩

/-! ## The parity registers -/

/-- **The parity registers are right throughout a run**: after `copyFromState(A, S)` the registers
    hold `S` and the parity registers its column parities, and after each rate's load-and-XOR the same
    holds of `S` with the block XORed into its first `r/64` words; each round leaves in them
    the column parities of the lanes it wrote, whatever they held before; so after every prefix of
    the rounds they hold the parities of the current state. -/
theorem columnParity_invariant :
    (∀ X S, LoadsState (copyFromState X S) S) ∧
    (∀ X S I, LoadsState (copyFromStateAndXor576bits X S I) (xorPrefix S I 9) ∧
      LoadsState (copyFromStateAndXor832bits X S I) (xorPrefix S I 13) ∧
      LoadsState (copyFromStateAndXor1024bits X S I) (xorPrefix S I 16) ∧
      LoadsState (copyFromStateAndXor1088bits X S I) (xorPrefix S I 17) ∧
      LoadsState (copyFromStateAndXor1152bits X S I) (xorPrefix S I 18) ∧
      LoadsState (copyFromStateAndXor1344bits X S I) (xorPrefix S I 21)) ∧
    (∀ i A E C, ParityInv (thetaRhoPiChiIotaPrepareTheta i A E C).2.2
      (decode (thetaRhoPiChiIotaPrepareTheta i A E C).2.1)) ∧
    (∀ (R : RegisterFile) (S : Words) (n : Nat) (h : n ≤ 24),
      ParityInv (KeccakSimd.rounds (loadState R S) n h).C
        (decode (current (KeccakSimd.rounds (loadState R S) n h) n))) := by
  refine ⟨copyFromState_loadsState, fun X S I => ?_, thetaRhoPiChiIotaPrepareTheta_parity,
    fun R S n h => ?_⟩
  · exact ⟨copyFromStateAndXor_ofPrefix_loadsState 9 X S I,
      copyFromStateAndXor_ofPrefix_loadsState 13 X S I,
      copyFromStateAndXor_ofPrefix_loadsState 16 X S I,
      copyFromStateAndXor_ofPrefix_loadsState 17 X S I,
      copyFromStateAndXor_ofPrefix_loadsState 18 X S I,
      copyFromStateAndXor_ofPrefix_loadsState 21 X S I⟩
  · have hs := (Sim.load R S).rounds n h
    exact hs.decode_eq ▸ hs.parity

/-! ## Storing from `E` -/

/-- **`copyToState(state, E)` misses round 0's output.** From the all-zero state, round 0 leaves
    its output in `E`, whose lane `(0, 0)` is the round constant `1`; `copyToState(state, E)` stores
    `state[0]` from `A##bage`, which still holds the loaded `0`. -/
theorem copyToState_E_after_first_round :
    decode (KeccakSimd.rounds (loadState default fun _ => 0) 1 (by decide)).E =
        keccakRounds (ofWords fun _ => 0) 1 (by decide) ∧
      toWords (keccakRounds (ofWords fun _ => 0) 1 (by decide)) 0 = 1 ∧
      copyToState (KeccakSimd.rounds (loadState default fun _ => 0) 1 (by decide)).A
        (KeccakSimd.rounds (loadState default fun _ => 0) 1 (by decide)).E 0 = 0 :=
  ⟨((Sim.load default _).rounds 1 (by decide)).decode_eq, by decide, rfl⟩

/-! ## What an absorb step can tell apart

`absorbAndPermute` through a rate's load-and-XOR macro is Keccak-f[1600] of the state with the block
XORed into its first `r/64` words (`absorbAndPermute_eq_keccakF1600`). Both halves of that are
injective where they can be: XORing a block is undone by XORing it again, so the state and the block
words inside the rate are recovered from the XORed state (`xorPrefix_eq_iff`,
`xorPrefix_left_injective`), and Keccak-f[1600] is injective (`Spec.Invertible`). So one absorb
step
* gives two blocks the same output from the same state exactly when they agree on the first `r/64`
  words, and
* is, for a fixed block, a bijection on the 2^1600 states. -/

/-! ### XORing a block -/

/-- Two blocks XORed into the same state give the same words exactly when they agree inside the
    block. -/
theorem xorPrefix_eq_iff {S I I' : Words} {n : Nat} :
    xorPrefix S I n = xorPrefix S I' n ↔ ∀ k : Fin 25, k.val < n → I k = I' k := by
  refine ⟨fun h k hk => ?_, xorPrefix_congr⟩
  have hk' := congrFun h k
  rw [xorPrefix, xorPrefix, if_pos hk, if_pos hk] at hk'
  exact xor_right_inj64.mp hk'

/-- XORing a fixed block is injective in the state. -/
theorem xorPrefix_left_injective (I : Words) (n : Nat) : Function.Injective fun S => xorPrefix S I n :=
  fun S S' h => funext fun k => by
    have hk := congrFun h k
    simp only [xorPrefix] at hk
    split_ifs at hk
    · exact xor_left_inj64.mp hk
    · exact hk

/-! ### The absorb step -/

section Absorb

variable {load : LaneRegs → Words → Words → LaneRegs × ColumnRegs} {n : Nat}

/-- A load that is the load-and-XOR family at the uniform site choice for `n` words absorbs into
    Keccak-f[1600] of the XORed state. -/
theorem absorbAndPermute_eq_keccakF1600
    (hload : ∀ X S I, load X S I = copyFromStateAndXor (XorLoads.ofPrefix n) X S I)
    (R : RegisterFile) (S I : Words) :
    absorbAndPermute load R S I = keccakF1600 (xorPrefix S I n) := by
  rw [absorbAndPermute, hload, copyFromStateAndXor_ofPrefix]
  exact permuteLoaded_eq (Sim.load R _)

/-- An absorb step through `load` for an `n`-word block: from one state, two blocks collide exactly
    when they agree on the first `n` words; and for one block, the step permutes the states. -/
def AbsorbSeparates (load : LaneRegs → Words → Words → LaneRegs × ColumnRegs) (n : Nat) : Prop :=
  (∀ (R : RegisterFile) (S I I' : Words),
    absorbAndPermute load R S I = absorbAndPermute load R S I' ↔
      ∀ k : Fin 25, k.val < n → I k = I' k) ∧
  ∀ (R : RegisterFile) (I : Words), Function.Bijective fun S => absorbAndPermute load R S I

theorem absorbSeparates_of_eq
    (hload : ∀ X S I, load X S I = copyFromStateAndXor (XorLoads.ofPrefix n) X S I) :
    AbsorbSeparates load n := by
  haveI : Finite UINT64 := Finite.of_injective BitVec.toFin fun _ _ => BitVec.eq_of_toFin_eq
  refine ⟨fun R S I I' => ?_, fun R I => Finite.injective_iff_bijective.mp fun S S' h => ?_⟩
  · rw [absorbAndPermute_eq_keccakF1600 hload, absorbAndPermute_eq_keccakF1600 hload,
      keccakF1600_injective.eq_iff, xorPrefix_eq_iff]
  · simp only [absorbAndPermute_eq_keccakF1600 hload] at h
    exact xorPrefix_left_injective I n (keccakF1600_injective h)

end Absorb

/-- **Each rate's absorb step separates blocks and permutes states**: for
    `r ∈ {576, 832, 1024, 1088, 1152, 1344}`, absorbing two blocks into the same state gives the
    same output exactly when they agree on the first `r/64` words, and absorbing a fixed block is a
    bijection on states. -/
theorem absorbSeparates_copyFromStateAndXor :
    AbsorbSeparates copyFromStateAndXor576bits 9 ∧ AbsorbSeparates copyFromStateAndXor832bits 13 ∧
    AbsorbSeparates copyFromStateAndXor1024bits 16 ∧ AbsorbSeparates copyFromStateAndXor1088bits 17 ∧
    AbsorbSeparates copyFromStateAndXor1152bits 18 ∧ AbsorbSeparates copyFromStateAndXor1344bits 21 :=
  ⟨absorbSeparates_of_eq fun _ _ _ => rfl, absorbSeparates_of_eq fun _ _ _ => rfl,
    absorbSeparates_of_eq fun _ _ _ => rfl, absorbSeparates_of_eq fun _ _ _ => rfl,
    absorbSeparates_of_eq fun _ _ _ => rfl, absorbSeparates_of_eq fun _ _ _ => rfl⟩

end KeccakSimd
