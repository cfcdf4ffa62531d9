/-
Module: LanAuth.Proofs.Des.Repacking
Layer: Proofs
Purpose: Seven bytes and the key that they make hold the same 56 bits. Gathering the upper seven bits of the
  key bytes gives the seven bytes back, so no two chunks make the same key; and a key whose parity bits are
  zero is made by what is gathered from it, so every such key is made. Of any other key, gathering keeps all
  but the parity bits.
Imports: LanAuth.Proofs.Des.KeyBits, Mathlib.Data.Set.Function
Trusted boundary: none
Main exports: Des.ParityClear, Des.getElem_ofBytes_gather, Des.gather_spread, Des.spread_injective,
  Des.sameUpToParity_spread_gather, Des.spread_gather, Des.invOn_gather_spread, Des.bijOn_spread
Open obligations: none
-/
import LanAuth.Proofs.Des.KeyBits
import Mathlib.Data.Set.Function

namespace LanAuth

/-- Bytes are told by their bits. -/
theorem Bits.ofBytes_injective {n : Nat} {bytes bytes' : Vector UInt8 n}
    (same : ofBytes bytes = ofBytes bytes') : bytes = bytes' := by
  rw [← toBytes_ofBytes bytes, same, toBytes_ofBytes]

namespace Des

/-- The lowest bit of every byte of the key is zero. -/
def ParityClear (key : Vector UInt8 8) : Prop :=
  ∀ i (_ : i < 8), key[i].toBitVec.getMsbD 7 = false

theorem parityClear_spread (chunk : Vector UInt8 7) : ParityClear (spread chunk) :=
  fun _ hi => getMsbD_spread_parity chunk hi

/-!
### The bits of a key, counted through

With the parity bits left out, bit `n` of a key is bit `n % 7` of its byte `n / 7`. Spreading and gathering
both keep the bit at its number.
-/

theorem getMsbD_spread_of_lt (chunk : Vector UInt8 7) {n : Nat} (hn : n < 8 * 7) :
    (spread chunk)[n / 7].toBitVec.getMsbD (n % 7) = (Bits.ofBytes chunk)[n] := by
  have byte : n / 7 < 8 := by omega
  have upper : n % 7 < 7 := Nat.mod_lt _ (by decide)
  have number : 7 * (n / 7) + n % 7 = n := Nat.div_add_mod n 7
  have spreads := getMsbD_spread chunk byte upper (by omega)
  simpa only [number] using spreads

theorem toBitVec_gather (key : Vector UInt8 8) {i : Nat} (hi : i < 7) :
    (gather key)[i].toBitVec =
      (key[i].toBitVec &&& 0xfe#8) <<< i ||| key[i + 1].toBitVec >>> (7 - i) := by
  match i, hi with
  | 0, _ | 1, _ | 2, _ | 3, _ | 4, _ | 5, _ | 6, _ => simp [gather]

/-- A gathered byte starts with what is left of one key byte and ends with the start of the next. Between
    the two, the parity bit falls out. -/
theorem getMsbD_gather (key : Vector UInt8 8) {i j : Nat} (hi : i < 7) (hj : j < 8) :
    (gather key)[i].toBitVec.getMsbD j =
      if i + j < 7 then key[i].toBitVec.getMsbD (i + j)
      else key[i + 1].toBitVec.getMsbD (i + j - 7) := by
  rw [toBitVec_gather key hi]
  simp only [BitVec.getMsbD_and, BitVec.getMsbD_or, BitVec.getMsbD_shiftLeft,
    BitVec.getMsbD_ushiftRight, getMsbD_mask, Nat.add_comm j i]
  split
  · next before =>
      have left : j < 7 - i := by omega
      simp [before, left]
  · next after =>
      have right : ¬ j < 7 - i := by omega
      have place : j - (7 - i) = i + j - 7 := by omega
      simp [after, right, place, hj]

theorem getElem_ofBytes_gather (key : Vector UInt8 8) {n : Nat} (hn : n < 8 * 7) :
    (Bits.ofBytes (gather key))[n] = key[n / 7].toBitVec.getMsbD (n % 7) := by
  rw [Bits.getElem_ofBytes, getMsbD_gather key (by omega) (Nat.mod_lt _ (by decide))]
  split
  · next before =>
      have byte : n / 7 = n / 8 := by omega
      have place : n % 7 = n / 8 + n % 8 := by omega
      simp only [byte, place]
  · next after =>
      have byte : n / 7 = n / 8 + 1 := by omega
      have place : n % 7 = n / 8 + n % 8 - 7 := by omega
      simp only [byte, place]

/-!
### There and back
-/

@[simp] theorem gather_spread (chunk : Vector UInt8 7) : gather (spread chunk) = chunk := by
  apply Bits.ofBytes_injective
  refine Vector.ext fun n hn => ?_
  rw [getElem_ofBytes_gather _ hn, getMsbD_spread_of_lt chunk hn]

theorem spread_injective : Function.Injective spread :=
  Function.LeftInverse.injective gather_spread

/-- Gathering keeps every bit of a key but the parity bits. -/
theorem sameUpToParity_spread_gather (key : Vector UInt8 8) :
    SameUpToParity (spread (gather key)) key := by
  intro i hi j hj
  have within : 7 * i + j < 8 * 7 := by omega
  have byte : (7 * i + j) / 7 = i := by omega
  have place : (7 * i + j) % 7 = j := by omega
  rw [getMsbD_spread _ hi hj within, getElem_ofBytes_gather key within]
  simp only [byte, place]

theorem SameUpToParity.eq {key key' : Vector UInt8 8} (same : SameUpToParity key key')
    (clear : ParityClear key) (clear' : ParityClear key') : key = key' := by
  refine Vector.ext fun i hi => Bits.byte_ext fun j hj => ?_
  by_cases upper : j < 7
  · exact same i hi j upper
  · obtain rfl : j = 7 := by omega
    rw [clear i hi, clear' i hi]

theorem spread_gather {key : Vector UInt8 8} (clear : ParityClear key) :
    spread (gather key) = key :=
  (sameUpToParity_spread_gather key).eq (parityClear_spread _) clear

theorem invOn_gather_spread : Set.InvOn gather spread Set.univ {key | ParityClear key} :=
  ⟨fun chunk _ => gather_spread chunk, fun _ clear => spread_gather clear⟩

/-- The keys that seven bytes make are those without parity bits, each made by exactly one chunk. -/
theorem bijOn_spread : Set.BijOn spread Set.univ {key | ParityClear key} :=
  invOn_gather_spread.bijOn (fun chunk _ => parityClear_spread chunk) (Set.mapsTo_univ _ _)

end Des

end LanAuth
