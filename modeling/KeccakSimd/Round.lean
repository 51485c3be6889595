import KeccakSimd.Simd

/-!
# `Round` — `computeD` and the fused round `thetaRhoPiChiIotaPrepareTheta`

One round of Keccak-f[1600], as the macro file fuses it. `computeD` turns the column parities held in
`Cae`, `Cio`, `Cu` into the five θ-effects `Da`..`Du`; the round then, row pair by row pair, XORs the
θ-effect into each lane of the source set, rotates it by its ρ offset into its π position (`B..`),
applies χ two rows at a time on the packed pairs (one row for the last row `s`), XORs the round
constant into lane `(0, 0)`, and accumulates the column parities of what it writes, so that the next
round finds them in `Cae`, `Cio`, `Cu` ("prepare theta").

The models below are line-by-line translations: a register assignment is a `let` under the
register's name, `XOReq64(X, Y)` is `let X := xor64 X Y`. The round returns the source set (whose
scalar registers it overwrites), the destination set and the parity registers.
-/

namespace KeccakSimd

/-- `KeccakF1600RoundConstants`, the 24 round constants of ι. -/
def keccakF1600RoundConstants : Fin 24 → UINT64 := ![
  0x0000000000000001#64, 0x0000000000008082#64, 0x800000000000808a#64, 0x8000000080008000#64,
  0x000000000000808b#64, 0x0000000080000001#64, 0x8000000080008081#64, 0x8000000000008009#64,
  0x000000000000008a#64, 0x0000000000000088#64, 0x0000000080008009#64, 0x000000008000000a#64,
  0x000000008000808b#64, 0x800000000000008b#64, 0x8000000000008089#64, 0x8000000000008003#64,
  0x8000000000008002#64, 0x8000000000000080#64, 0x000000000000800a#64, 0x800000008000000a#64,
  0x8000000080008081#64, 0x8000000000008080#64, 0x0000000080000001#64, 0x8000000080008008#64]

/-- The θ-effect registers `Da`, `De`, `Di`, `Do`, `Du` that `computeD` writes. -/
structure DRegs where
  a : V128
  e : V128
  i : V128
  o : V128
  u : V128
deriving DecidableEq, Repr, Inhabited

/-- `computeD`: the θ-effects from the column parities (`Cua` is scratch). -/
def computeD (C : ColumnRegs) : DRegs :=
  let Cua := get64lo C.u C.ae
  let Dei := xor128 C.ae (rol64in128 C.io 1)
  let Dou := xor128 C.io (rol64in128 Cua 1)
  let Da := xor64 C.u (rol64in128 (copy64hi2lo C.ae) 1)
  let De := Dei
  let Di := copy64hi2lo Dei
  let Do := Dou
  let Du := copy64hi2lo Dou
  ⟨Da, De, Di, Do, Du⟩

/-- `thetaRhoPiChiIotaPrepareTheta(i, A, E)`: round `i` from register set `A` into register set `E`.
    Returns `A` (its scalar registers overwritten), `E` and the parity registers. -/
def thetaRhoPiChiIotaPrepareTheta (i : Fin 24) (A E : LaneRegs) (C : ColumnRegs) :
    LaneRegs × LaneRegs × ColumnRegs :=
  let D := computeD C
  -- rows b and g: the pairs bage begi bigo bogu buga
  let Aba := load64 A.bage.lo
  let Aba := xor64 Aba D.a
  let Bba := Aba
  let Agu := xor64 A.gu D.u
  let Bge := rol64 Agu 20
  let Bbage := get64lo Bba Bge
  let Age := load64 A.bage.hi
  let Age := xor64 Age D.e
  let Bbe := rol64 Age 44
  let Aka := load64 A.kame.lo
  let Aka := xor64 Aka D.a
  let Bgi := rol64 Aka 3
  let Bbegi := get64lo Bbe Bgi
  let Aki := xor64 A.ki D.i
  let Bbi := rol64 Aki 43
  let Ame := load64 A.kame.hi
  let Ame := xor64 Ame D.e
  let Bgo := rol64 Ame 45
  let Bbigo := get64lo Bbi Bgo
  let Ebage := xor128 Bbage (andnu128 Bbegi Bbigo)
  let Ebage := xor128 Ebage (const64 (keccakF1600RoundConstants i))
  let Cae := Ebage
  let Amo := xor64 A.mo D.o
  let Bbo := rol64 Amo 21
  let Asi := xor64 A.si D.i
  let Bgu := rol64 Asi 61
  let Bbogu := get64lo Bbo Bgu
  let Ebegi := xor128 Bbegi (andnu128 Bbigo Bbogu)
  let Cei := Ebegi
  let Asu := xor64 A.su D.u
  let Bbu := rol64 Asu 14
  let Abo := xor64 A.bo D.o
  let Bga := rol64 Abo 28
  let Bbuga := get64lo Bbu Bga
  let Ebigo := xor128 Bbigo (andnu128 Bbogu Bbuga)
  let Ebi := Ebigo
  let Ego := get64hi Ebigo Ebigo
  let Cio := Ebigo
  let Ebogu := xor128 Bbogu (andnu128 Bbuga Bbage)
  let Ebo := Ebogu
  let Egu := get64hi Ebogu Ebogu
  let Cou := Ebogu
  let Ebuga := xor128 Bbuga (andnu128 Bbage Bbegi)
  let Ebu := Ebuga
  let Ega := get64hi Ebuga Ebuga
  let Cua := Ebuga
  -- rows k and m: the pairs kame kemi kimo komu kuma
  let Abe := load64 A.begi.lo
  let Abe := xor64 Abe D.e
  let Bka := rol64 Abe 1
  let Aga := xor64 A.ga D.a
  let Bme := rol64 Aga 36
  let Bkame := get64lo Bka Bme
  let Agi := load64 A.begi.hi
  let Agi := xor64 Agi D.i
  let Bke := rol64 Agi 6
  let Ake := load64 A.kemi.lo
  let Ake := xor64 Ake D.e
  let Bmi := rol64 Ake 10
  let Bkemi := get64lo Bke Bmi
  let Ako := xor64 A.ko D.o
  let Bki := rol64 Ako 25
  let Ami := load64 A.kemi.hi
  let Ami := xor64 Ami D.i
  let Bmo := rol64 Ami 15
  let Bkimo := get64lo Bki Bmo
  let Ekame := xor128 Bkame (andnu128 Bkemi Bkimo)
  let Cae := xor128 Cae Ekame
  let Amu := xor64 A.mu D.u
  let Bko := rol64 Amu 8
  let Aso := xor64 A.so D.o
  let Bmu := rol64 Aso 56
  let Bkomu := get64lo Bko Bmu
  let Ekemi := xor128 Bkemi (andnu128 Bkimo Bkomu)
  let Cei := xor128 Cei Ekemi
  let Asa := xor64 A.sa D.a
  let Bku := rol64 Asa 18
  let Abu := xor64 A.bu D.u
  let Bma := rol64 Abu 27
  let Bkuma := get64lo Bku Bma
  let Ekimo := xor128 Bkimo (andnu128 Bkomu Bkuma)
  let Eki := Ekimo
  let Emo := get64hi Ekimo Ekimo
  let Cio := xor128 Cio Ekimo
  let Ekomu := xor128 Bkomu (andnu128 Bkuma Bkame)
  let Eko := Ekomu
  let Emu := get64hi Ekomu Ekomu
  let Cou := xor128 Cou Ekomu
  let Ekuma := xor128 Bkuma (andnu128 Bkame Bkemi)
  let Eku := Ekuma
  let Ema := get64hi Ekuma Ekuma
  let Cua := xor128 Cua Ekuma
  -- row s: five scalar lanes
  let Abi := xor64 A.bi D.i
  let Bsa := rol64 Abi 62
  let Ago := xor64 A.go D.o
  let Bse := rol64 Ago 55
  let Aku := xor64 A.ku D.u
  let Bsi := rol64 Aku 39
  let Esa := xor64 Bsa (andnu64 Bse Bsi)
  let Ca := Esa
  let Ama := xor64 A.ma D.a
  let Bso := rol64 Ama 41
  let Ese := xor64 Bse (andnu64 Bsi Bso)
  let Ce := Ese
  let Cae := xor128 Cae (get64lo Ca Ce)
  let Ase := xor64 A.se D.e
  let Bsu := rol64 Ase 2
  let Esi := xor64 Bsi (andnu64 Bso Bsu)
  let Ci := Esi
  let Eso := xor64 Bso (andnu64 Bsu Bsa)
  let Co := Eso
  let Cio := xor128 Cio (get64lo Ci Co)
  let Esu := xor64 Bsu (andnu64 Bsa Bse)
  let Cu := Esu
  -- prepare theta: fold the partial parities into Cae, Cio, Cu
  let Zero := zero128
  let Cae := xor128 Cae (get64hi Cua Zero)
  let Cae := xor128 Cae (get64lo Zero Cei)
  let Cio := xor128 Cio (get64hi Cei Zero)
  let Cio := xor128 Cio (get64lo Zero Cou)
  let Cua := xor128 Cua (get64hi Cou Zero)
  let Cu := xor64 Cu Cua
  ({ A with
      ba := Aba, gu := Agu, ge := Age, ka := Aka, ki := Aki, me := Ame, mo := Amo, si := Asi,
      su := Asu, bo := Abo, be := Abe, ga := Aga, gi := Agi, ke := Ake, ko := Ako, mi := Ami,
      mu := Amu, so := Aso, sa := Asa, bu := Abu, bi := Abi, go := Ago, ku := Aku, ma := Ama,
      se := Ase },
   { E with
      bage := Ebage, begi := Ebegi, bigo := Ebigo, bi := Ebi, go := Ego, bogu := Ebogu,
      bo := Ebo, gu := Egu, buga := Ebuga, bu := Ebu, ga := Ega, kame := Ekame, kemi := Ekemi,
      kimo := Ekimo, ki := Eki, mo := Emo, komu := Ekomu, ko := Eko, mu := Emu, kuma := Ekuma,
      ku := Eku, ma := Ema, sa := Esa, se := Ese, si := Esi, so := Eso, su := Esu },
   ⟨Cae, Cio, Cu⟩)

/-- `thetaRhoPiChiIota(i, A, E)`, defined by the source as `thetaRhoPiChiIotaPrepareTheta(i, A, E)`. -/
def thetaRhoPiChiIota (i : Fin 24) (A E : LaneRegs) (C : ColumnRegs) :
    LaneRegs × LaneRegs × ColumnRegs :=
  thetaRhoPiChiIotaPrepareTheta i A E C

end KeccakSimd
