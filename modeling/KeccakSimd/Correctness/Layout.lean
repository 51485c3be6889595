import KeccakSimd.Copy
import KeccakSimd.Spec.Reference
import Mathlib.Tactic.FinCases

/-!
# `Correctness.Layout` — what a register set means, and the load and store macros

The abstraction from registers to the spec's state:

* `decode X` reads the 25 lanes a register set holds in the layout the rounds read and write: the
  pairs `bage = (ba, ge)`, `begi = (be, gi)`, `kame = (ka, me)`, `kemi = (ke, mi)` and the other
  seventeen lanes in the low half of their scalar registers. The upper halves of the scalar
  registers and the scratch copies `ba be ge gi ka ke me mi` are not read.
* `ParityInv C s`: the parity registers hold the column parities of `s`.

Over it, the load macros establish both (`copyFromState_decode`, `copyFromState_parity`, together
`LoadsState`), each rate's load-and-XOR macro is `copyFromState` of the state with the block XORed in
(`copyFromStateAndXor_ofPrefix`), and `copyToState(state, X)` stores what `X` holds when `X` is the
register set `A` it reads four words from (`copyToState_self`). For another `X`, the four words it
reads from `A` are the only ones `A` decides, so the store is right exactly when `A` holds `X`'s pairs,
as it does after `copyStateVariables(A, X)`. Through `A`, storing and loading are inverse to each
other.
-/

namespace KeccakSimd

open Spec

/-- The state register set `X` holds. -/
def decode (X : LaneRegs) : State := ![
  ![X.bage.lo, X.ga.lo, X.kame.lo, X.ma.lo, X.sa.lo],
  ![X.begi.lo, X.bage.hi, X.kemi.lo, X.kame.hi, X.se.lo],
  ![X.bi.lo, X.begi.hi, X.ki.lo, X.kemi.hi, X.si.lo],
  ![X.bo.lo, X.go.lo, X.ko.lo, X.mo.lo, X.so.lo],
  ![X.bu.lo, X.gu.lo, X.ku.lo, X.mu.lo, X.su.lo]]

/-- The parity registers hold the column parities of `s`: `Cae = (C[0], C[1])`,
    `Cio = (C[2], C[3])`, and `C[4]` in the low half of `Cu`. -/
structure ParityInv (C : ColumnRegs) (s : State) : Prop where
  ae : C.ae = ⟨columnParity s 0, columnParity s 1⟩
  io : C.io = ⟨columnParity s 2, columnParity s 3⟩
  u : C.u.lo = columnParity s 4

/-- The five column parities the parity registers stand for: the halves of `Cae` and `Cio`, and the
    low half of `Cu`. `ParityInv C s` says they are the column parities of `s`. -/
def parities (C : ColumnRegs) : Fin 5 → UINT64 := ![C.ae.lo, C.ae.hi, C.io.lo, C.io.hi, C.u.lo]

/-- Under `ParityInv` the parity registers are the parities of `s`, up to the upper half of `Cu`. -/
theorem ParityInv.eq {C : ColumnRegs} {s : State} (h : ParityInv C s) :
    C = ⟨⟨columnParity s 0, columnParity s 1⟩, ⟨columnParity s 2, columnParity s 3⟩,
      ⟨columnParity s 4, C.u.hi⟩⟩ := by
  obtain ⟨ae, io, ⟨u, uhi⟩⟩ := C
  obtain ⟨rfl, rfl, hu⟩ := h
  cases hu
  rfl

/-! ## Loading -/

/-- **`copyFromState` loads the state.** Whatever `X` held, it then holds `state`. -/
theorem copyFromState_decode (X : LaneRegs) (S : Words) :
    decode (copyFromState X S).1 = ofWords S := by
  funext x y
  fin_cases x <;> fin_cases y <;> rfl

/-- **`copyFromState` computes the column parities** of the state it loads. -/
theorem copyFromState_parity (X : LaneRegs) (S : Words) :
    ParityInv (copyFromState X S).2 (ofWords S) :=
  ⟨rfl, rfl, rfl⟩

/-- **What a load leaves**: the registers it returns hold the state `S`, and the parity registers
    hold the column parities of `S`. -/
structure LoadsState (l : LaneRegs × ColumnRegs) (S : Words) : Prop where
  decode_eq : decode l.1 = ofWords S
  parity : ParityInv l.2 (ofWords S)

/-- After a load, the parity registers hold the column parities of the lanes the registers hold. -/
theorem LoadsState.parityInv {l : LaneRegs × ColumnRegs} {S : Words} (h : LoadsState l S) :
    ParityInv l.2 (decode l.1) :=
  h.decode_eq ▸ h.parity

theorem copyFromState_loadsState (X : LaneRegs) (S : Words) : LoadsState (copyFromState X S) S :=
  ⟨copyFromState_decode X S, copyFromState_parity X S⟩

/-! ## Loading with an input block

A block of `n` input words XORed into the first `n` words of the state is `xorPrefix S I n`. A load
site that covers words `k` and `k + 1` must XOR both input words when the block covers both
(`LOAD128u`), only word `k` when the block ends between them (`LOAD64`), and nothing past the block;
a one-word site XORs its word when the block covers it. `XorLoads.ofPrefix n` is that choice at every
site, and with it the load-and-XOR macro is `copyFromState` of `xorPrefix S I n`. -/

/-- The state words with an `n`-word input block XORed into the first `n`. -/
def xorPrefix (S I : Words) (n : Nat) : Words := fun k => if k.val < n then S k ^^^ I k else S k

/-- The input load a two-word site at word `k` needs for an `n`-word block. -/
def pairLoad (k : Fin 25) (n : Nat) : InputLoad :=
  if k.val + 2 ≤ n then .load128u else if k.val + 1 ≤ n then .load64 else .none

/-- The input load a one-word site at word `k` needs for an `n`-word block. -/
def wordLoad (k : Fin 25) (n : Nat) : InputLoad := if k.val + 1 ≤ n then .load64 else .none

/-- The loads that XOR exactly an `n`-word block. -/
def XorLoads.ofPrefix (n : Nat) : XorLoads where
  bae := pairLoad 0 n
  bio := pairLoad 2 n
  bu := wordLoad 4 n
  gae := pairLoad 5 n
  gio := pairLoad 7 n
  gu := wordLoad 9 n
  kae := pairLoad 10 n
  kio := pairLoad 12 n
  ku := wordLoad 14 n
  mae := pairLoad 15 n
  mio := pairLoad 17 n
  mu := wordLoad 19 n
  sae := pairLoad 20 n
  sio := pairLoad 22 n
  su := wordLoad 24 n

theorem xorInput_pairLoad (S I : Words) (n : Nat) {k : Fin 25} (hk : k.val + 1 < 25) :
    xorInput (load128 S k) I k (pairLoad k n) = load128 (xorPrefix S I n) k := by
  have hv : (k + 1).val = k.val + 1 := Fin.val_add_one_of_lt (Fin.lt_def.mpr (by simp; omega))
  unfold pairLoad
  split_ifs <;> refine V128.ext ?_ ?_ <;>
    simp (disch := omega) only [xorInput, xorPrefix, hv, if_pos, if_neg, load128_lo, load128_hi,
      load128u_eq, xor128_lo, xor128_hi, load64_lo, load64_hi, xor_zero64]

theorem xorInput_wordLoad (S I : Words) (n : Nat) (k : Fin 25) :
    xorInput (load64 (S k)) I k (wordLoad k n) = load64 (xorPrefix S I n k) := by
  unfold wordLoad
  split_ifs <;> refine V128.ext ?_ ?_ <;>
    simp (disch := omega) only [xorInput, xorPrefix, if_pos, if_neg, xor128_lo, xor128_hi,
      load64_lo, load64_hi, xor_zero64]

/-- **The load-and-XOR family at `XorLoads.ofPrefix n` is `copyFromState` after XORing the block.** -/
theorem copyFromStateAndXor_ofPrefix (n : Nat) (X : LaneRegs) (S I : Words) :
    copyFromStateAndXor (XorLoads.ofPrefix n) X S I = copyFromState X (xorPrefix S I n) := by
  simp (disch := decide) only [copyFromStateAndXor, copyFromState, XorLoads.ofPrefix,
    xorInput_pairLoad, xorInput_wordLoad, load128u_eq]
  rfl

theorem copyFromStateAndXor_ofPrefix_loadsState (n : Nat) (X : LaneRegs) (S I : Words) :
    LoadsState (copyFromStateAndXor (XorLoads.ofPrefix n) X S I) (xorPrefix S I n) := by
  rw [copyFromStateAndXor_ofPrefix]
  exact copyFromState_loadsState X _

/-- `xorPrefix` reads no input word at or past `n`. -/
theorem xorPrefix_congr {S I I' : Words} {n : Nat} (h : ∀ k : Fin 25, k.val < n → I' k = I k) :
    xorPrefix S I' n = xorPrefix S I n := by
  funext k
  unfold xorPrefix
  split_ifs with hk
  · rw [h k hk]
  · rfl

/-! ## Storing -/

/-- **`copyToState(state, A)` stores what `A` holds.** -/
theorem copyToState_self (A : LaneRegs) : copyToState A A = toWords (decode A) := by
  funext k
  fin_cases k <;> rfl

/-- **`copyToState(state, X)` reads `A` for four words only**: it stores `state[0]`, `state[1]`,
    `state[6]`, `state[7]` from the state `A` holds and the other 21 words from the state `X` holds;
    so when `A` holds `X`'s pairs `bage` and `begi`, the whole buffer is the state `X` holds. -/
theorem copyToState_eq_of_pairs (A X : LaneRegs) :
    copyToState A X = (fun k => if k = 0 ∨ k = 1 ∨ k = 6 ∨ k = 7 then toWords (decode A) k
      else toWords (decode X) k) ∧
    (A.bage = X.bage → A.begi = X.begi → copyToState A X = toWords (decode X)) := by
  refine ⟨?_, fun hb hg => ?_⟩
  · rw [← copyToState_self A, ← copyToState_self X]
    funext k
    fin_cases k <;> rfl
  · rw [← copyToState_self, copyToState, copyToState, hb, hg]

/-- Two loaded sets with 25 different words each: `A` is `Y` with `X`'s pairs put in, so it
    disagrees with `X` on every other lane, and `Y` shares nothing with `X`. -/
theorem copyToState_eq_of_pairs_loaded :
    let X := (copyFromState default fun k => BitVec.ofNat 64 (k.val + 1)).1
    let Y := (copyFromState default fun k => BitVec.ofNat 64 (2 * k.val + 101)).1
    let A := { Y with bage := X.bage, begi := X.begi }
    A.bage = X.bage ∧ A.begi = X.begi ∧ copyToState A X = toWords (decode X) ∧
      copyToState Y X 2 = toWords (decode X) 2 :=
  ⟨rfl, rfl, (copyToState_eq_of_pairs _ _).2 rfl rfl, congrFun (copyToState_eq_of_pairs _ _).1 2⟩

/-- **Loading then storing writes the state back**: `copyFromState(A, state)` followed by
    `copyToState(state, A)` leaves `state` as it was. -/
theorem copyToState_copyFromState (X : LaneRegs) (S : Words) :
    copyToState (copyFromState X S).1 (copyFromState X S).1 = S := by
  rw [copyToState_self, copyFromState_decode, toWords_ofWords]

/-- **Storing then loading gives the same state back**: after `copyToState(state, A)`,
    `copyFromState(X, state)` makes `X` hold the state `A` held. -/
theorem copyFromState_copyToState (X A : LaneRegs) :
    decode (copyFromState X (copyToState A A)).1 = decode A := by
  rw [copyFromState_decode, copyToState_self, ofWords_toWords]

/-- **`copyStateVariables(A, E)` then `copyToState(state, A)` stores what `E` holds**, whatever `A`
    held: the way to store a state that sits in `E`. -/
theorem copyToState_copyStateVariables (A E : LaneRegs) :
    copyToState (copyStateVariables A E) (copyStateVariables A E) = toWords (decode E) := by
  rw [copyToState_self]
  rfl

end KeccakSimd
