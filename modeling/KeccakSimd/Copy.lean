import KeccakSimd.Round

/-!
# `Copy` — loading the state into register set `A`, storing it back, and the driver around them

`copyFromState(X, state)` loads the 25 words of `state` into the packed layout of a register set and
computes the column parities into `Cae`, `Cio`, `Cu` on the way. The six
`copyFromStateAndXor<r>bits(X, state, input)` macros are the same fifteen load sites with the input
block XORed in at the sites that lie in the first `r/64` words; a site whose pair of words straddles
the end of the block XORs `LOAD64(input[k])` (one input word) instead of `LOAD128u(input[k])`.

The family is one definition, `copyFromStateAndXor`, parameterised by what each load site XORs in
(`XorLoads`); `copyFromState` and each rate's macro are that definition at the macro's own loads, read
off the source line by line. `copyToState(state, X)` stores a register set back; lines 0, 1, 6 and 7
of the macro paste the token `A##`, not `X##`, and the model keeps that.

The last section is the driver that calls these macros around the rounds; it is not in the source.
-/

namespace KeccakSimd

/-- What one load site of the fused load-and-XOR macros XORs into the state words it loads. -/
inductive InputLoad where
  | none
  | load64
  | load128u
deriving DecidableEq, Repr

/-- The input load of each of the fifteen load sites, named by the register the site fills
    (`bae` loads words 0 and 1, `bu` word 4, ..., `su` word 24). -/
structure XorLoads where
  bae : InputLoad := .none
  bio : InputLoad := .none
  bu : InputLoad := .none
  gae : InputLoad := .none
  gio : InputLoad := .none
  gu : InputLoad := .none
  kae : InputLoad := .none
  kio : InputLoad := .none
  ku : InputLoad := .none
  mae : InputLoad := .none
  mio : InputLoad := .none
  mu : InputLoad := .none
  sae : InputLoad := .none
  sio : InputLoad := .none
  su : InputLoad := .none
deriving DecidableEq, Repr

/-- A load site's register with the input merged as the site says: the state load alone,
    `XOR128(v, LOAD64(input[k]))` (`XOR64` at a one-word site) or `XOR128(v, LOAD128u(input[k]))`. -/
def xorInput (v : V128) (input : Words) (k : Fin 25) : InputLoad → V128
  | .none => v
  | .load64 => xor128 v (load64 (input k))
  | .load128u => xor128 v (load128u input k)

/-- The load-and-XOR macro family at the loads `loads`: register set `X` with its packed lanes and
    scalar copies loaded (the six scratch pairs `bigo`..`kuma` untouched), and the parity registers. -/
def copyFromStateAndXor (loads : XorLoads) (X : LaneRegs) (state input : Words) :
    LaneRegs × ColumnRegs :=
  let Xbae := xorInput (load128 state 0) input 0 loads.bae
  let Xba := Xbae
  let Xbe := get64hi Xbae Xbae
  let Cae := Xbae
  let Xbio := xorInput (load128 state 2) input 2 loads.bio
  let Xbi := Xbio
  let Xbo := get64hi Xbio Xbio
  let Cio := Xbio
  let Xbu := xorInput (load64 (state 4)) input 4 loads.bu
  let Cu := Xbu
  let Xgae := xorInput (load128u state 5) input 5 loads.gae
  let Xga := Xgae
  let Xge := get64hi Xgae Xgae
  let Xbage := get64lo Xba Xge
  let Cae := xor128 Cae Xgae
  let Xgio := xorInput (load128u state 7) input 7 loads.gio
  let Xgi := Xgio
  let Xbegi := get64lo Xbe Xgi
  let Xgo := get64hi Xgio Xgio
  let Cio := xor128 Cio Xgio
  let Xgu := xorInput (load64 (state 9)) input 9 loads.gu
  let Cu := xor64 Cu Xgu
  let Xkae := xorInput (load128 state 10) input 10 loads.kae
  let Xka := Xkae
  let Xke := get64hi Xkae Xkae
  let Cae := xor128 Cae Xkae
  let Xkio := xorInput (load128 state 12) input 12 loads.kio
  let Xki := Xkio
  let Xko := get64hi Xkio Xkio
  let Cio := xor128 Cio Xkio
  let Xku := xorInput (load64 (state 14)) input 14 loads.ku
  let Cu := xor64 Cu Xku
  let Xmae := xorInput (load128u state 15) input 15 loads.mae
  let Xma := Xmae
  let Xme := get64hi Xmae Xmae
  let Xkame := get64lo Xka Xme
  let Cae := xor128 Cae Xmae
  let Xmio := xorInput (load128u state 17) input 17 loads.mio
  let Xmi := Xmio
  let Xkemi := get64lo Xke Xmi
  let Xmo := get64hi Xmio Xmio
  let Cio := xor128 Cio Xmio
  let Xmu := xorInput (load64 (state 19)) input 19 loads.mu
  let Cu := xor64 Cu Xmu
  let Xsae := xorInput (load128 state 20) input 20 loads.sae
  let Xsa := Xsae
  let Xse := get64hi Xsae Xsae
  let Cae := xor128 Cae Xsae
  let Xsio := xorInput (load128 state 22) input 22 loads.sio
  let Xsi := Xsio
  let Xso := get64hi Xsio Xsio
  let Cio := xor128 Cio Xsio
  let Xsu := xorInput (load64 (state 24)) input 24 loads.su
  let Cu := xor64 Cu Xsu
  ({ X with
      ba := Xba, be := Xbe, bi := Xbi, bo := Xbo, bu := Xbu, ga := Xga, ge := Xge, bage := Xbage,
      gi := Xgi, begi := Xbegi, go := Xgo, gu := Xgu, ka := Xka, ke := Xke, ki := Xki, ko := Xko,
      ku := Xku, ma := Xma, me := Xme, kame := Xkame, mi := Xmi, kemi := Xkemi, mo := Xmo,
      mu := Xmu, sa := Xsa, se := Xse, si := Xsi, so := Xso, su := Xsu },
   ⟨Cae, Cio, Cu⟩)

/-- `copyFromState(X, state)`: no load site reads the input. -/
def copyFromState (X : LaneRegs) (state : Words) : LaneRegs × ColumnRegs :=
  copyFromStateAndXor {} X state fun _ => 0

/-- `copyFromStateAndXor576bits(X, state, input)`. -/
def copyFromStateAndXor576bits (X : LaneRegs) (state input : Words) : LaneRegs × ColumnRegs :=
  copyFromStateAndXor
    { bae := .load128u, bio := .load128u, bu := .load64, gae := .load128u, gio := .load128u }
    X state input

/-- `copyFromStateAndXor832bits(X, state, input)`. -/
def copyFromStateAndXor832bits (X : LaneRegs) (state input : Words) : LaneRegs × ColumnRegs :=
  copyFromStateAndXor
    { bae := .load128u, bio := .load128u, bu := .load64, gae := .load128u, gio := .load128u,
      gu := .load64, kae := .load128u, kio := .load64 }
    X state input

/-- `copyFromStateAndXor1024bits(X, state, input)`. -/
def copyFromStateAndXor1024bits (X : LaneRegs) (state input : Words) : LaneRegs × ColumnRegs :=
  copyFromStateAndXor
    { bae := .load128u, bio := .load128u, bu := .load64, gae := .load128u, gio := .load128u,
      gu := .load64, kae := .load128u, kio := .load128u, ku := .load64, mae := .load64 }
    X state input

/-- `copyFromStateAndXor1088bits(X, state, input)`. -/
def copyFromStateAndXor1088bits (X : LaneRegs) (state input : Words) : LaneRegs × ColumnRegs :=
  copyFromStateAndXor
    { bae := .load128u, bio := .load128u, bu := .load64, gae := .load128u, gio := .load128u,
      gu := .load64, kae := .load128u, kio := .load128u, ku := .load64, mae := .load128u }
    X state input

/-- `copyFromStateAndXor1152bits(X, state, input)`. -/
def copyFromStateAndXor1152bits (X : LaneRegs) (state input : Words) : LaneRegs × ColumnRegs :=
  copyFromStateAndXor
    { bae := .load128u, bio := .load128u, bu := .load64, gae := .load128u, gio := .load128u,
      gu := .load64, kae := .load128u, kio := .load128u, ku := .load64, mae := .load128u,
      mio := .load64 }
    X state input

/-- `copyFromStateAndXor1344bits(X, state, input)`. -/
def copyFromStateAndXor1344bits (X : LaneRegs) (state input : Words) : LaneRegs × ColumnRegs :=
  copyFromStateAndXor
    { bae := .load128u, bio := .load128u, bu := .load64, gae := .load128u, gio := .load128u,
      gu := .load64, kae := .load128u, kio := .load128u, ku := .load64, mae := .load128u,
      mio := .load128u, mu := .load64, sae := .load64 }
    X state input

/-- `copyToState(state, X)`: the 25 words it stores. Words 0, 1, 6, 7 are read from `A##bage` and
    `A##begi`, the other 21 from `X`. -/
def copyToState (A X : LaneRegs) : Words := ![
  A.bage.lo, A.begi.lo, store64 X.bi, store64 X.bo, store64 X.bu,
  store64 X.ga, A.bage.hi, A.begi.hi, store64 X.go, store64 X.gu,
  X.kame.lo, X.kemi.lo, store64 X.ki, store64 X.ko, store64 X.ku,
  store64 X.ma, X.kame.hi, X.kemi.hi, store64 X.mo, store64 X.mu,
  store64 X.sa, store64 X.se, store64 X.si, store64 X.so, store64 X.su]

/-- `copyStateVariables(X, Y)`: `X` takes `Y`'s four pairs and seventeen scalar lanes. -/
def copyStateVariables (X Y : LaneRegs) : LaneRegs :=
  { X with
      bage := Y.bage, begi := Y.begi, bi := Y.bi, bo := Y.bo, bu := Y.bu, ga := Y.ga, go := Y.go,
      gu := Y.gu, kame := Y.kame, kemi := Y.kemi, ki := Y.ki, ko := Y.ko, ku := Y.ku, ma := Y.ma,
      mo := Y.mo, mu := Y.mu, sa := Y.sa, se := Y.se, si := Y.si, so := Y.so, su := Y.su }

/-! ## The permutation and its absorbing variant

The macro file is included by a driver that is not in the source: it declares the registers, loads
the state, runs the rounds and stores the state back. It is modelled from the spec (a `permute`
entry point and an `absorbAndPermute` entry point that XORs an input block into the state first) and
from the round order the macros are built for: round `i` reads register set `A` and writes `E` when
`i` is even, and the other way round when `i` is odd, so after the 24 rounds the state is back in
`A`, from where `copyToState(state, A)` stores it.

The registers start with whatever they held (`R`); the load macros overwrite what the rounds read. -/

/-- Modelled from the spec: round `i` of the driver, `thetaRhoPiChiIota(i, A, E)` for even `i` and
    `thetaRhoPiChiIota(i, E, A)` for odd `i`. -/
def roundStep (R : RegisterFile) (i : Fin 24) : RegisterFile :=
  if i.val % 2 = 0 then
    let r := thetaRhoPiChiIota i R.A R.E R.C
    ⟨r.1, r.2.1, r.2.2⟩
  else
    let r := thetaRhoPiChiIota i R.E R.A R.C
    ⟨r.2.1, r.1, r.2.2⟩

/-- Modelled from the spec: the first `n` rounds of the driver, `0 .. n - 1`. -/
def rounds (R : RegisterFile) : (n : Nat) → n ≤ 24 → RegisterFile
  | 0, _ => R
  | n + 1, h => roundStep (rounds R n (Nat.le_of_succ_le h)) ⟨n, h⟩

/-- Modelled from the spec: the 24 rounds from the loaded registers, then `copyToState(state, A)`. -/
def permuteLoaded (R : RegisterFile) : Words :=
  let R := rounds R 24 le_rfl
  copyToState R.A R.A

/-- Modelled from the spec: `copyFromState(A, state)`, which fills `A` and the parity registers. -/
def loadState (R : RegisterFile) (state : Words) : RegisterFile :=
  let l := copyFromState R.A state
  ⟨l.1, R.E, l.2⟩

/-- Modelled from the spec: `permute(state)`, `copyFromState(A, state)` then the rounds. -/
def permute (R : RegisterFile) (state : Words) : Words := permuteLoaded (loadState R state)

/-- Modelled from the spec: `absorbAndPermute(state, input)` through one of the fused load-and-XOR
    macros (`load` is `copyFromStateAndXor<r>bits` for the rate `r`), then the rounds. -/
def absorbAndPermute (load : LaneRegs → Words → Words → LaneRegs × ColumnRegs)
    (R : RegisterFile) (state input : Words) : Words :=
  let l := load R.A state input
  permuteLoaded ⟨l.1, R.E, l.2⟩

end KeccakSimd
