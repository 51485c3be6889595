import KeccakSimd.Simd
import KeccakSimd.Round
import KeccakSimd.Copy
import KeccakSimd.Spec.Reference
import KeccakSimd.Spec.Invertible
import KeccakSimd.Correctness.Layout
import KeccakSimd.Correctness.Round
import KeccakSimd.Correctness.Refinement
