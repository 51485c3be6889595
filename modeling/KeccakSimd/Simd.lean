import Mathlib.Data.Fin.VecNotation

/-!
# `Simd` — the register helpers the macros are written in

`KeccakF-1600-simd128.macros.h` never names a vector instruction: every operation goes through a
helper macro (`XOR128`, `ANDnu128`, `ROL64in128`, `GET64LO`, `COPY64HI2LO`, `LOAD128u`, ...) and
through the register types `V64`, `V128`, `V6464`, all of which the including `.c` file defines per
instruction set. None of them is in the macro file, so they are modelled here at their SSE2 meaning:

* a register is a pair of 64-bit halves (`V128`); under SSE2 `V64` is the same `__m128i`, so a "64-bit"
  register still carries an upper half, which the macros treat as garbage;
* the arithmetic helpers act on the two halves independently;
* `GET64LO`/`GET64HI` are `unpacklo`/`unpackhi` of the 64-bit halves, `COPY64HI2LO` is
  `_mm_shuffle_epi32(a, 0xEE)`, `LOAD64`/`CONST64` fill the low half and zero the high one.

Each helper has its `lo`/`hi` lemmas at once, so that later proofs never unfold a helper.

The second half of the module is the register file `declareABCDE` declares.
-/

namespace KeccakSimd

/-- A 64-bit lane, `UINT64`. -/
abbrev UINT64 := BitVec 64

/-- A buffer of 25 lanes, `UINT64 state[25]`: lane `(x, y)` of the state is word `x + 5y`. -/
abbrev Words := Fin 25 → UINT64

/-- Modelled from the spec: the register types `V64`, `V128` and the union `V6464` are declared by
    the including `.c` file. Under SSE2 all three are one `__m128i`; `lo` is `v64[0]` and `hi` is
    `v64[1]`. -/
@[ext]
structure V128 where
  lo : UINT64
  hi : UINT64
deriving DecidableEq, Repr, Inhabited

/-- A lane rotated left by `o` bits, as `ROL64` writes it: `(a << o) | (a >> (64 - o))`. -/
def rol (a : UINT64) (o : Nat) : UINT64 := a <<< o ||| a >>> (64 - o)

/-- Modelled from the spec: `XOR128` is `_mm_xor_si128`. -/
def xor128 (a b : V128) : V128 := ⟨a.lo ^^^ b.lo, a.hi ^^^ b.hi⟩

/-- Modelled from the spec: `XOR64` is `_mm_xor_si128` on a `V64`, the same instruction. -/
def xor64 (a b : V128) : V128 := xor128 a b

/-- Modelled from the spec: `ANDnu128(a, b)` is `_mm_andnot_si128`, that is `~a & b`. -/
def andnu128 (a b : V128) : V128 := ⟨~~~a.lo &&& b.lo, ~~~a.hi &&& b.hi⟩

/-- Modelled from the spec: `ANDnu64` is `_mm_andnot_si128` on a `V64`. -/
def andnu64 (a b : V128) : V128 := andnu128 a b

/-- Modelled from the spec: `ROL64in128(a, o)` shifts each 64-bit half left by `o` and right by
    `64 - o` and ORs the two (`_mm_slli_epi64`, `_mm_srli_epi64`, `_mm_or_si128`). -/
def rol64in128 (a : V128) (o : Nat) : V128 := ⟨rol a.lo o, rol a.hi o⟩

/-- Modelled from the spec: `ROL64` is `ROL64in128` on a `V64`. -/
def rol64 (a : V128) (o : Nat) : V128 := rol64in128 a o

/-- Modelled from the spec: `GET64LO(a, b)` is `_mm_unpacklo_epi64`, the low halves of `a` and `b`. -/
def get64lo (a b : V128) : V128 := ⟨a.lo, b.lo⟩

/-- Modelled from the spec: `GET64HI(a, b)` is `_mm_unpackhi_epi64`, the high halves of `a` and `b`. -/
def get64hi (a b : V128) : V128 := ⟨a.hi, b.hi⟩

/-- Modelled from the spec: `COPY64HI2LO(a)` is `_mm_shuffle_epi32(a, 0xEE)`, the high half twice. -/
def copy64hi2lo (a : V128) : V128 := ⟨a.hi, a.hi⟩

/-- Modelled from the spec: `LOAD64(a)` is `_mm_loadl_epi64`, the lane in the low half. -/
def load64 (a : UINT64) : V128 := ⟨a, 0⟩

/-- Modelled from the spec: `CONST64(a)` is `_mm_loadl_epi64` of a constant. -/
def const64 (a : UINT64) : V128 := ⟨a, 0⟩

/-- Modelled from the spec: `LOAD128(p[k])` is `_mm_load_si128`, the lanes `p[k]` and `p[k+1]`. -/
def load128 (p : Words) (k : Fin 25) : V128 := ⟨p k, p (k + 1)⟩

/-- Modelled from the spec: `LOAD128u` is the unaligned `_mm_loadu_si128`, the same two lanes. -/
def load128u (p : Words) (k : Fin 25) : V128 := load128 p k

/-- Modelled from the spec: `STORE64(a, b)` is `_mm_storel_epi64`; this is the word it writes. -/
def store64 (b : V128) : UINT64 := b.lo

/-- Modelled from the spec: `ZERO128()` is `_mm_setzero_si128`. -/
def zero128 : V128 := ⟨0, 0⟩

/-- For the rotation amounts the macros use, `ROL64`'s shift pair is a rotation. -/
theorem rol_eq_rotateLeft (a : UINT64) {o : Nat} (h : o < 64) : rol a o = a.rotateLeft o := by
  rw [BitVec.rotateLeft_eq_rotateLeftAux_of_lt h]; rfl

/-! ## Halves of each helper -/

section Halves

variable (a b : V128) (o : Nat) (x : UINT64) (p : Words) (k : Fin 25)

@[simp] theorem xor128_lo : (xor128 a b).lo = a.lo ^^^ b.lo := rfl
@[simp] theorem xor128_hi : (xor128 a b).hi = a.hi ^^^ b.hi := rfl
@[simp] theorem xor64_eq : xor64 a b = xor128 a b := rfl
@[simp] theorem andnu128_lo : (andnu128 a b).lo = ~~~a.lo &&& b.lo := rfl
@[simp] theorem andnu128_hi : (andnu128 a b).hi = ~~~a.hi &&& b.hi := rfl
@[simp] theorem andnu64_eq : andnu64 a b = andnu128 a b := rfl
@[simp] theorem rol64in128_lo : (rol64in128 a o).lo = rol a.lo o := rfl
@[simp] theorem rol64in128_hi : (rol64in128 a o).hi = rol a.hi o := rfl
@[simp] theorem rol64_eq : rol64 a o = rol64in128 a o := rfl
@[simp] theorem get64lo_lo : (get64lo a b).lo = a.lo := rfl
@[simp] theorem get64lo_hi : (get64lo a b).hi = b.lo := rfl
@[simp] theorem get64hi_lo : (get64hi a b).lo = a.hi := rfl
@[simp] theorem get64hi_hi : (get64hi a b).hi = b.hi := rfl
@[simp] theorem copy64hi2lo_lo : (copy64hi2lo a).lo = a.hi := rfl
@[simp] theorem copy64hi2lo_hi : (copy64hi2lo a).hi = a.hi := rfl
@[simp] theorem load64_lo : (load64 x).lo = x := rfl
@[simp] theorem load64_hi : (load64 x).hi = 0 := rfl
@[simp] theorem const64_lo : (const64 x).lo = x := rfl
@[simp] theorem const64_hi : (const64 x).hi = 0 := rfl
@[simp] theorem load128_lo : (load128 p k).lo = p k := rfl
@[simp] theorem load128_hi : (load128 p k).hi = p (k + 1) := rfl
@[simp] theorem load128u_eq : load128u p k = load128 p k := rfl
@[simp] theorem store64_eq : store64 a = a.lo := rfl
@[simp] theorem zero128_lo : zero128.lo = 0 := rfl
@[simp] theorem zero128_hi : zero128.hi = 0 := rfl

/-- The zero upper half that `LOAD64` and `CONST64` leave is neutral for XOR (the library's
    `BitVec.xor_zero` is stated for `0#w`, not for the literal `0`). -/
@[simp] theorem xor_zero64 : x ^^^ 0 = x := BitVec.xor_zero

end Halves

/-! ## The register file `declareABCDE` declares

The macros keep the state in two register sets, `A` and `E`, and alternate between them: a round
reads one set and writes the other. Each set holds

* ten `V6464` pairs, of which `bage`, `begi`, `kame`, `kemi` carry two lanes of the state (lane
  `(x, y)` is named by its row `b g k m s` for `y = 0..4` and its column `a e i o u` for `x = 0..4`,
  so `bage` is the pair `(ba, ge)`); the other six are scratch the round writes and reads back;
* twenty-five `V64` registers, one per lane, of which seventeen carry their lane in the low half and
  eight (`ba be ge gi ka ke me mi`) are scratch copies of the pair lanes.

Besides the two sets there are the column-parity registers `Cae = (C[0], C[1])`, `Cio = (C[2], C[3])`
and `Cu` (low half `C[4]`), which survive from one round to the next. The other registers of
`declareABCDE` (`B..`, `D..`, `Cei`, `Cou`, `Cua`, `Ca`..`Co`, `Zero`, and `A`'s load registers
`Abae`..`Asio`) are written before they are read inside every macro, so the macros' models keep them
as local bindings. -/

/-- One register set of `declareABCDE` (`A##…` or `E##…`). -/
structure LaneRegs where
  bage : V128
  begi : V128
  bigo : V128
  bogu : V128
  buga : V128
  kame : V128
  kemi : V128
  kimo : V128
  komu : V128
  kuma : V128
  ba : V128
  be : V128
  bi : V128
  bo : V128
  bu : V128
  ga : V128
  ge : V128
  gi : V128
  go : V128
  gu : V128
  ka : V128
  ke : V128
  ki : V128
  ko : V128
  ku : V128
  ma : V128
  me : V128
  mi : V128
  mo : V128
  mu : V128
  sa : V128
  se : V128
  si : V128
  so : V128
  su : V128
deriving DecidableEq, Repr, Inhabited

/-- The column-parity registers that live across rounds: `Cae`, `Cio`, `Cu`. -/
structure ColumnRegs where
  ae : V128
  io : V128
  u : V128
deriving DecidableEq, Repr, Inhabited

/-- The registers that carry the state between macros: both lane sets and the parity registers. -/
structure RegisterFile where
  A : LaneRegs
  E : LaneRegs
  C : ColumnRegs
deriving DecidableEq, Repr, Inhabited

end KeccakSimd
