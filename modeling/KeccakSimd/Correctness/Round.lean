import KeccakSimd.Round
import KeccakSimd.Correctness.Layout

/-!
# `Correctness.Round` — one fused round is one round of the spec

The step lemma of the refinement. From a register set `A` whose parity registers hold its column
parities, `thetaRhoPiChiIotaPrepareTheta(i, A, E)` leaves in `E` the spec's round `i` of the state
`A` holds (`thetaRhoPiChiIotaPrepareTheta_decode`), and leaves in the parity registers the column
parities of that new state (`thetaRhoPiChiIotaPrepareTheta_parity`), so the next round may run. On
the way it leaves θ of the source state in the scalar registers of `A`
(`thetaRhoPiChiIotaPrepareTheta_theta`). Without `ParityInv` the round is still the spec's round,
with θ's column parities read from the parity registers
(`thetaRhoPiChiIotaPrepareTheta_decode_parities`).

The first is a lane-by-lane identity. Once the tables are replaced by the spec's constants
(`roundConstant_eq_table`, `rhoOffset_eq`) and ρ is written with lane `(0, 0)` unrotated (the round does not rotate
`Bba`), every output lane of the round is, definitionally, the spec's χ of the π-placed, ρ-rotated,
θ-corrected lanes, with one exception: lane `(1, 1)` sits in the upper half of `bage`, which also
receives the zero upper half of `CONST64`.

The second is the parity fold at the end of the round ("prepare theta"), which accumulates the lanes
it writes in an order of its own; `foldParity` names that fold, and `foldParity_spec` reorders it.
-/

namespace KeccakSimd

open Spec

/-! ## The tables

The macros carry the round constants as the literal table `KeccakF1600RoundConstants` and the ρ
offsets as literal rotation amounts inside the round. Both are the spec's: the table is the LFSR's
output, and the ρ offsets of the formula are the 25 amounts the round rotates by (lane `(0, 0)`,
offset 0, is not rotated at all). -/

/-- **The round-constant table is the LFSR's.** -/
theorem roundConstant_eq_table : roundConstant = keccakF1600RoundConstants := by
  funext i; revert i; decide

/-- The ρ offsets of the formula, as a table indexed by `x` then `y`. -/
theorem rhoOffset_eq (x y : Fin 5) : rhoOffset x y = ![![0, 36, 3, 41, 18], ![1, 44, 10, 45, 2],
    ![62, 6, 43, 15, 61], ![28, 55, 25, 21, 56], ![27, 20, 39, 8, 14]] x y := by
  revert x y; decide

/-- ρ with its offsets tabulated: the rotation amounts the round applies (`ROL64(A##gu, 20)`, ...),
    and no rotation for lane `(0, 0)`. -/
theorem rho_eq_table (s : State) : rho s = fun x y => if x = 0 ∧ y = 0 then s x y else
    (s x y).rotateLeft (![![0, 36, 3, 41, 18], ![1, 44, 10, 45, 2], ![62, 6, 43, 15, 61],
      ![28, 55, 25, 21, 56], ![27, 20, 39, 8, 14]] x y) := by
  funext x y
  rw [rho, rhoOffset_eq]
  split_ifs with h
  · obtain ⟨rfl, rfl⟩ := h
    exact rotateLeft_zero _
  · rfl

/-- **One fused round is the spec's round** on the state the source set holds, whatever the upper
    halves and scratch copies of its scalar registers hold. -/
theorem thetaRhoPiChiIotaPrepareTheta_decode (i : Fin 24) (A E : LaneRegs) (C : ColumnRegs)
    (h : ParityInv C (decode A)) :
    decode (thetaRhoPiChiIotaPrepareTheta i A E C).2.1 = rnd i (decode A) := by
  rw [h.eq, rnd, rho_eq_table, roundConstant_eq_table]
  funext x y
  fin_cases x <;> fin_cases y
  -- lane `(1, 1)` is the upper half of `bage`, XORed with the zero upper half of `CONST64`
  all_goals first | rfl | exact BitVec.xor_zero.trans rfl

/-- **Either register set may be the source**: the round from `A` into `E` and the round from `E`
    into `A` each compute the spec's round of the state their source holds. -/
theorem thetaRhoPiChiIotaPrepareTheta_refines (i : Fin 24) (A E : LaneRegs) (C : ColumnRegs) :
    (ParityInv C (decode A) →
      decode (thetaRhoPiChiIotaPrepareTheta i A E C).2.1 = rnd i (decode A)) ∧
    (ParityInv C (decode E) →
      decode (thetaRhoPiChiIotaPrepareTheta i E A C).2.1 = rnd i (decode E)) :=
  ⟨thetaRhoPiChiIotaPrepareTheta_decode i A E C, thetaRhoPiChiIotaPrepareTheta_decode i E A C⟩

/-- Round 7 in both directions between two loaded sets whose 25 words are all different and non-zero,
    so that the upper halves of their scalar registers hold neighbouring lanes. -/
theorem thetaRhoPiChiIotaPrepareTheta_refines_loaded :
    let l := copyFromState default fun k => BitVec.ofNat 64 (k.val + 1)
    let m := copyFromState default fun k => BitVec.ofNat 64 (2 * k.val + 101)
    (ParityInv l.2 (decode l.1) ∧
      decode (thetaRhoPiChiIotaPrepareTheta 7 l.1 m.1 l.2).2.1 = rnd 7 (decode l.1)) ∧
    (ParityInv m.2 (decode m.1) ∧
      decode (thetaRhoPiChiIotaPrepareTheta 7 m.1 l.1 m.2).2.1 = rnd 7 (decode m.1)) :=
  have hl := (copyFromState_loadsState default fun k => BitVec.ofNat 64 (k.val + 1)).parityInv
  have hm := (copyFromState_loadsState default fun k => BitVec.ofNat 64 (2 * k.val + 101)).parityInv
  ⟨⟨hl, (thetaRhoPiChiIotaPrepareTheta_refines 7 _ _ _).1 hl⟩,
    ⟨hm, (thetaRhoPiChiIotaPrepareTheta_refines 7 _ _ _).2 hm⟩⟩

/-! ## Any parity registers

The round never recomputes the column parities of its source: it takes them from `Cae`, `Cio` and
`Cu`. For every content of the registers, the round is the spec's round with θ's parities read from
the parity registers; `ParityInv` is exactly what makes that θ the spec's θ, since
`theta s = thetaOfParities (columnParity s) s`. -/

/-- θ with the column parities `c` supplied, not computed from `s`. -/
def thetaOfParities (c : Fin 5 → UINT64) (s : State) : State := fun x y =>
  s x y ^^^ (c (x - 1) ^^^ (c (x + 1)).rotateLeft 1)

/-- **The round trusts its parity registers.** Whatever the registers hold, the set the round writes
    decodes to the spec's round of the source state, with θ computed from the parities the parity
    registers hold; nothing else of the source set, and nothing of the destination set, is read. -/
theorem thetaRhoPiChiIotaPrepareTheta_decode_parities (i : Fin 24) (A E : LaneRegs)
    (C : ColumnRegs) :
    decode (thetaRhoPiChiIotaPrepareTheta i A E C).2.1 =
      iota (roundConstant i) (chi (pi (rho (thetaOfParities (parities C) (decode A))))) := by
  rw [rho_eq_table, roundConstant_eq_table]
  funext x y
  fin_cases x <;> fin_cases y
  all_goals first | rfl | exact BitVec.xor_zero.trans rfl

/-! ## θ in place

The round reads its source set through θ: it XORs the θ-effect `D[x]` into each of the 25 scalar
registers of `A` (loading the eight lanes of the pairs into their scratch copies first), and rotates
what it wrote. `scalarLanes X` reads those registers. -/

/-- The lanes held in the low halves of the 25 scalar registers `ba .. su`. -/
def scalarLanes (X : LaneRegs) : State := ![
  ![X.ba.lo, X.ga.lo, X.ka.lo, X.ma.lo, X.sa.lo],
  ![X.be.lo, X.ge.lo, X.ke.lo, X.me.lo, X.se.lo],
  ![X.bi.lo, X.gi.lo, X.ki.lo, X.mi.lo, X.si.lo],
  ![X.bo.lo, X.go.lo, X.ko.lo, X.mo.lo, X.so.lo],
  ![X.bu.lo, X.gu.lo, X.ku.lo, X.mu.lo, X.su.lo]]

/-- **The round applies θ in place to its source set**: afterwards the scalar registers of `A` hold
    θ of the state `A` held. -/
theorem thetaRhoPiChiIotaPrepareTheta_theta (i : Fin 24) (A E : LaneRegs) (C : ColumnRegs)
    (h : ParityInv C (decode A)) :
    scalarLanes (thetaRhoPiChiIotaPrepareTheta i A E C).1 = theta (decode A) := by
  rw [h.eq]
  funext x y
  fin_cases x <;> fin_cases y <;> rfl

/-- Round 7 from a loaded set whose 25 words are all different and non-zero, into another. -/
theorem thetaRhoPiChiIotaPrepareTheta_theta_loaded :
    let l := copyFromState default fun k => BitVec.ofNat 64 (k.val + 1)
    let m := copyFromState default fun k => BitVec.ofNat 64 (2 * k.val + 101)
    ParityInv l.2 (decode l.1) ∧
      scalarLanes (thetaRhoPiChiIotaPrepareTheta 7 l.1 m.1 l.2).1 = theta (decode l.1) :=
  have hl := (copyFromState_loadsState default fun k => BitVec.ofNat 64 (k.val + 1)).parityInv
  ⟨hl, thetaRhoPiChiIotaPrepareTheta_theta 7 _ _ _ hl⟩

/-! ## The parity fold -/

/-- The parity fold of `thetaRhoPiChiIotaPrepareTheta`, as a function of the registers it has just
    written: the pairs and rows accumulated into `Cae`, `Cei`, `Cio`, `Cou`, `Cua`, then the halves
    exchanged through `Zero`, and `Cu = Esu ⊕ Cua`. -/
def foldParity (X : LaneRegs) : ColumnRegs :=
  let Cae := xor128 (xor128 X.bage X.kame) (get64lo X.sa X.se)
  let Cei := xor128 X.begi X.kemi
  let Cio := xor128 (xor128 X.bigo X.kimo) (get64lo X.si X.so)
  let Cou := xor128 X.bogu X.komu
  let Cua := xor128 X.buga X.kuma
  let Cae := xor128 (xor128 Cae (get64hi Cua zero128)) (get64lo zero128 Cei)
  let Cio := xor128 (xor128 Cio (get64hi Cei zero128)) (get64lo zero128 Cou)
  let Cua := xor128 Cua (get64hi Cou zero128)
  ⟨Cae, Cio, xor64 X.su Cua⟩

/-- The scalar registers the round writes as copies of the pairs it computes: `E##bi = E##bigo`,
    `E##go = GET64HI(E##bigo, E##bigo)`, and so on for the six scratch pairs. -/
structure RoundLayout (X : LaneRegs) : Prop where
  bi : X.bi.lo = X.bigo.lo
  go : X.go.lo = X.bigo.hi
  bo : X.bo.lo = X.bogu.lo
  gu : X.gu.lo = X.bogu.hi
  bu : X.bu.lo = X.buga.lo
  ga : X.ga.lo = X.buga.hi
  ki : X.ki.lo = X.kimo.lo
  mo : X.mo.lo = X.kimo.hi
  ko : X.ko.lo = X.komu.lo
  mu : X.mu.lo = X.komu.hi
  ku : X.ku.lo = X.kuma.lo
  ma : X.ma.lo = X.kuma.hi

/-- The round's parity registers are `foldParity` of the set it writes. -/
theorem thetaRhoPiChiIotaPrepareTheta_columns (i : Fin 24) (A E : LaneRegs) (C : ColumnRegs) :
    (thetaRhoPiChiIotaPrepareTheta i A E C).2.2 =
      foldParity (thetaRhoPiChiIotaPrepareTheta i A E C).2.1 :=
  rfl

/-- The round writes its scalar copies in `RoundLayout`. -/
theorem thetaRhoPiChiIotaPrepareTheta_layout (i : Fin 24) (A E : LaneRegs) (C : ColumnRegs) :
    RoundLayout (thetaRhoPiChiIotaPrepareTheta i A E C).2.1 :=
  ⟨rfl, rfl, rfl, rfl, rfl, rfl, rfl, rfl, rfl, rfl, rfl, rfl⟩

/-- **The fold computes the column parities** of any register set in the round's layout. -/
theorem foldParity_spec (X : LaneRegs) (hX : RoundLayout X) : ParityInv (foldParity X) (decode X) := by
  obtain ⟨h1, h2, h3, h4, h5, h6, h7, h8, h9, h10, h11, h12⟩ := hX
  refine ⟨V128.ext ?_ ?_, V128.ext ?_ ?_, ?_⟩ <;>
    simp [foldParity, decode, columnParity, h1, h2, h3, h4, h5, h6, h7, h8, h9, h10, h11, h12] <;>
    ac_rfl

/-- **The round leaves the column parities of what it wrote** in the parity registers, whatever
    they held before. -/
theorem thetaRhoPiChiIotaPrepareTheta_parity (i : Fin 24) (A E : LaneRegs) (C : ColumnRegs) :
    ParityInv (thetaRhoPiChiIotaPrepareTheta i A E C).2.2
      (decode (thetaRhoPiChiIotaPrepareTheta i A E C).2.1) := by
  rw [thetaRhoPiChiIotaPrepareTheta_columns]
  exact foldParity_spec _ (thetaRhoPiChiIotaPrepareTheta_layout i A E C)

end KeccakSimd
