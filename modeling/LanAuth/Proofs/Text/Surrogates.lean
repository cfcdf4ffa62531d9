/-
Module: LanAuth.Proofs.Text.Surrogates
Layer: Proofs
Purpose: Which bytes are text in units of 16 bits. They are those that make whole units in which every
  surrogate has its other half beside it, the high one first. Reading accepts exactly these, and writing
  what was read gives them back, so each of them is the form of one text and of no other.
Imports: LanAuth.Proofs.Text.CodePoint, LanAuth.Proofs.Text.Utf16
Trusted boundary: none
Main exports: Utf16.High, Utf16.Low, Utf16.Paired, Utf16.unitAt, Utf16.WellFormed,
  Utf16.isSome_charsOfUnits?_iff, Utf16.decode?_eq_some_iff, Utf16.isSome_decode?_iff,
  Utf16.length_encode, Utf16.take_two_encode_eq_mark_iff
Open obligations: none
-/
import LanAuth.Proofs.Text.CodePoint
import LanAuth.Proofs.Text.Utf16

namespace LanAuth.Text.Utf16

/-- The numbers of the units that begin a pair. -/
def High (unit : Nat) : Prop :=
  0xd800 ≤ unit ∧ unit < 0xdc00

/-- The numbers of the units that end a pair. -/
def Low (unit : Nat) : Prop :=
  0xdc00 ≤ unit ∧ unit < 0xe000

instance (unit : Nat) : Decidable (High unit) :=
  inferInstanceAs (Decidable (_ ∧ _))

instance (unit : Nat) : Decidable (Low unit) :=
  inferInstanceAs (Decidable (_ ∧ _))

/-- No surrogate stands alone: directly behind each high one is a low one, and directly in front of each
    low one is a high one. -/
structure Paired (unit : Nat → Nat) : Prop where
  low_behind : ∀ i, High (unit i) → Low (unit (i + 1))
  high_before : ∀ i, Low (unit i) → ∃ j, i = j + 1 ∧ High (unit j)

/-- The number that the bytes make as the unit at a place, the lower byte first. Behind the end is zero. -/
def unitAt (bytes : List UInt8) (i : Nat) : Nat :=
  (bytes.getD (2 * i) 0).toNat + 256 * (bytes.getD (2 * i + 1) 0).toNat

/-- The bytes make whole units, and no surrogate among these stands alone. -/
structure WellFormed (bytes : List UInt8) : Prop where
  even : bytes.length % 2 = 0
  paired : Paired (unitAt bytes)

theorem isHigh_iff {unit : UInt16} : isHigh unit = true ↔ High unit.toNat := by
  simp only [isHigh, High, Bool.and_eq_true, decide_eq_true_eq]

theorem isLow_iff {unit : UInt16} : isLow unit = true ↔ Low unit.toNat := by
  simp only [isLow, Low, Bool.and_eq_true, decide_eq_true_eq]

theorem not_low_of_high {unit : Nat} (high : High unit) : ¬ Low unit := by
  unfold High at high
  unfold Low
  omega

/-!
### Pairs

Whether a sequence of units is paired is told from its front: a unit that is no surrogate does not matter,
nor does a pair, and nothing else may stand first.
-/

namespace Paired

variable {unit : Nat → Nat}

theorem not_low_first (paired : Paired unit) : ¬ Low (unit 0) := by
  intro low
  obtain ⟨j, first, -⟩ := paired.high_before 0 low
  cases first

theorem iff_behind_single (notHigh : ¬ High (unit 0)) (notLow : ¬ Low (unit 0)) :
    Paired unit ↔ Paired fun i => unit (i + 1) := by
  constructor
  · intro paired
    refine ⟨fun i high => paired.low_behind (i + 1) high, ?_⟩
    intro i low
    obtain ⟨j, next, high⟩ := paired.high_before (i + 1) low
    cases j with
    | zero => exact absurd high notHigh
    | succ k => exact ⟨k, by omega, high⟩
  · intro paired
    constructor
    · intro i high
      cases i with
      | zero => exact absurd high notHigh
      | succ k => exact paired.low_behind k high
    · intro i low
      cases i with
      | zero => exact absurd low notLow
      | succ k =>
          obtain ⟨j, next, high⟩ := paired.high_before k low
          exact ⟨j + 1, by omega, high⟩

theorem iff_behind_pair (high : High (unit 0)) (low : Low (unit 1)) :
    Paired unit ↔ Paired fun i => unit (i + 2) := by
  constructor
  · intro paired
    refine ⟨fun i high' => paired.low_behind (i + 2) high', ?_⟩
    intro i low'
    obtain ⟨j, next, high'⟩ := paired.high_before (i + 2) low'
    match j with
    | 0 => omega
    | 1 => exact absurd low (not_low_of_high high')
    | k + 2 => exact ⟨k, by omega, high'⟩
  · intro paired
    constructor
    · intro i high'
      match i with
      | 0 => exact low
      | 1 => exact absurd low (not_low_of_high high')
      | k + 2 => exact paired.low_behind k high'
    · intro i low'
      match i with
      | 0 => exact absurd low' (not_low_of_high high)
      | 1 => exact ⟨0, rfl, high⟩
      | k + 2 =>
          obtain ⟨j, next, high'⟩ := paired.high_before k low'
          exact ⟨j + 2, by omega, high'⟩

end Paired

/-- The numbers of the units, one after another, and zeros behind them. -/
def numbers (units : List UInt16) (i : Nat) : Nat :=
  (units.getD i 0).toNat

theorem not_high_zero : ¬ High 0 := by
  decide

theorem not_low_zero : ¬ Low 0 := by
  decide

theorem paired_nil : Paired (numbers []) :=
  ⟨fun _ high => absurd high not_high_zero, fun _ low => absurd low not_low_zero⟩

/-- Units are read exactly if they are paired. -/
theorem isSome_charsOfUnits?_iff (units : List UInt16) :
    (charsOfUnits? units).isSome = true ↔ Paired (numbers units) := by
  fun_induction charsOfUnits? units with
  | case1 => exact ⟨fun _ => paired_nil, fun _ => rfl⟩
  | case2 unit surrogate =>
      constructor
      · intro read
        cases read
      · intro paired
        rcases Bool.or_eq_true_iff.mp surrogate with high | low
        · exact absurd (paired.low_behind 0 (isHigh_iff.mp high)) not_low_zero
        · exact absurd (isLow_iff.mp low) paired.not_low_first
  | case3 unit plain =>
      rw [Bool.or_eq_true_iff, isHigh_iff, isLow_iff, not_or] at plain
      have behind : Paired (numbers [unit]) ↔ Paired (numbers []) :=
        Paired.iff_behind_single plain.1 plain.2
      exact ⟨fun _ => behind.mpr paired_nil, fun _ => rfl⟩
  | case4 unit next rest high low ih =>
      have behind : Paired (numbers (unit :: next :: rest)) ↔ Paired (numbers rest) :=
        Paired.iff_behind_pair (isHigh_iff.mp high) (isLow_iff.mp low)
      rw [Option.isSome_map, ih, behind]
  | case5 unit next rest high notLow =>
      constructor
      · intro read
        cases read
      · intro paired
        exact absurd (isLow_iff.mpr (paired.low_behind 0 (isHigh_iff.mp high))) notLow
  | case6 unit next rest notHigh low =>
      constructor
      · intro read
        cases read
      · intro paired
        exact absurd (isLow_iff.mp low) paired.not_low_first
  | case7 unit next rest notHigh notLow ih =>
      rw [isHigh_iff] at notHigh
      rw [isLow_iff] at notLow
      have behind : Paired (numbers (unit :: next :: rest)) ↔ Paired (numbers (next :: rest)) :=
        Paired.iff_behind_single notHigh notLow
      rw [Option.isSome_map, ih, behind]

/-!
### Writing what was read

The steps of the encoding undo those of the decoding that answer them, so reading loses nothing.
-/

/-- The unit that two bytes spell, as a number. -/
theorem toNat_unitOfBytes (low high : UInt8) :
    (unitOfBytes low high).toNat = low.toNat + 256 * high.toNat := by
  have bound := low.toNat_lt
  have bound' := high.toNat_lt
  have upper : (high.toUInt16 <<< 8).toNat = high.toNat <<< 8 := by
    simp [Nat.shiftLeft_eq]
    omega
  rw [unitOfBytes, UInt16.toNat_or, upper, UInt8.toNat_toUInt16, Nat.or_comm,
    ← Nat.shiftLeft_add_eq_or_of_lt bound, Nat.shiftLeft_eq]
  omega

theorem unitBytes_unitOfBytes (low high : UInt8) : unitBytes (unitOfBytes low high) = [low, high] := by
  have bound := low.toNat_lt
  have spelled := toNat_unitOfBytes low high
  have lower : (unitOfBytes low high).toUInt8 = low := by
    apply UInt8.toNat_inj.mp
    rw [UInt16.toNat_toUInt8, spelled]
    omega
  have upper : (unitOfBytes low high >>> 8).toUInt8 = high := by
    have bound' := high.toNat_lt
    apply UInt8.toNat_inj.mp
    have eight : (8 : UInt16).toNat % 16 = 8 := rfl
    rw [UInt16.toNat_toUInt8, UInt16.toNat_shiftRight, spelled, eight, Nat.shiftRight_eq_div_pow]
    omega
  rw [unitBytes, lower, upper]

theorem flatMap_unitBytes_of_unitsOfBytes? {bytes : List UInt8} {units : List UInt16}
    (read : unitsOfBytes? bytes = some units) : units.flatMap unitBytes = bytes := by
  fun_induction unitsOfBytes? bytes generalizing units with
  | case1 =>
      cases read
      rfl
  | case2 => cases read
  | case3 low high rest ih =>
      obtain ⟨later, read', rfl⟩ := Option.map_eq_some_iff.mp read
      rw [List.flatMap_cons, unitBytes_unitOfBytes, ih read']
      rfl

theorem isSome_unitsOfBytes?_iff (bytes : List UInt8) :
    (unitsOfBytes? bytes).isSome = true ↔ bytes.length % 2 = 0 := by
  fun_induction unitsOfBytes? bytes with
  | case1 => exact ⟨fun _ => rfl, fun _ => rfl⟩
  | case2 =>
      constructor
      · intro read
        cases read
      · intro even
        cases even
  | case3 low high rest ih =>
      rw [Option.isSome_map, ih, List.length_cons, List.length_cons]
      omega

/-- A unit that is no surrogate is the only unit of its character. -/
theorem units_ofNat {unit : UInt16} (notHigh : ¬ High unit.toNat) (notLow : ¬ Low unit.toNat) :
    units (Char.ofNat unit.toNat) = [unit] := by
  have bound := unit.toNat_lt
  have valid : unit.toNat.isValidChar := by
    unfold High at notHigh
    unfold Low at notLow
    unfold Nat.isValidChar
    omega
  unfold units
  rw [toNat_ofNat_of_valid valid, if_pos (by omega), UInt16.ofNat_toNat]

/-- A pair is the pair of the character that it stands for. -/
theorem units_pairChar {high low : UInt16} (first : High high.toNat) (second : Low low.toNat) :
    units (pairChar high low) = [high, low] := by
  unfold High at first
  unfold Low at second
  have valid : (0x10000 + (high.toNat - 0xd800) * 0x400 + (low.toNat - 0xdc00)).isValidChar := by
    unfold Nat.isValidChar
    omega
  have upper : 0xd800 + (0x10000 + (high.toNat - 0xd800) * 0x400 + (low.toNat - 0xdc00) - 0x10000) /
      0x400 = high.toNat := by omega
  have lower : 0xdc00 + (0x10000 + (high.toNat - 0xd800) * 0x400 + (low.toNat - 0xdc00) - 0x10000) %
      0x400 = low.toNat := by omega
  unfold units pairChar
  rw [toNat_ofNat_of_valid valid, if_neg (by omega), upper, lower, UInt16.ofNat_toNat, UInt16.ofNat_toNat]

theorem flatMap_units_of_charsOfUnits? {listed : List UInt16} {chars : List Char}
    (read : charsOfUnits? listed = some chars) : chars.flatMap units = listed := by
  fun_induction charsOfUnits? listed generalizing chars with
  | case1 =>
      cases read
      rfl
  | case2 => cases read
  | case3 unit plain =>
      rw [Bool.or_eq_true_iff, isHigh_iff, isLow_iff, not_or] at plain
      cases read
      rw [List.flatMap_cons, units_ofNat plain.1 plain.2]
      rfl
  | case4 unit next rest high low ih =>
      obtain ⟨later, read', rfl⟩ := Option.map_eq_some_iff.mp read
      rw [List.flatMap_cons, units_pairChar (isHigh_iff.mp high) (isLow_iff.mp low), ih read']
      rfl
  | case5 => cases read
  | case6 => cases read
  | case7 unit next rest notHigh notLow ih =>
      obtain ⟨later, read', rfl⟩ := Option.map_eq_some_iff.mp read
      rw [isHigh_iff] at notHigh
      rw [isLow_iff] at notLow
      rw [List.flatMap_cons, units_ofNat notHigh notLow, ih read']
      rfl

/-!
### Bytes and text
-/

/-- The units of the bytes that units are written as are these units. -/
theorem unitAt_flatMap_unitBytes (units : List UInt16) : unitAt (units.flatMap unitBytes) = numbers units := by
  funext i
  induction units generalizing i with
  | nil => rfl
  | cons unit later ih =>
      cases i with
      | zero =>
          calc unitAt ((unit :: later).flatMap unitBytes) 0
              = unit.toUInt8.toNat + 256 * (unit >>> 8).toUInt8.toNat := rfl
            _ = unit.toNat := by rw [← toNat_unitOfBytes, unitOfBytes_unitBytes]
      | succ k => exact ih k

theorem decode?_eq_some_iff {bytes : List UInt8} {text : String} :
    decode? bytes = some text ↔ encode text = bytes := by
  constructor
  · intro read
    obtain ⟨units, read', rest⟩ := Option.bind_eq_some_iff.mp read
    obtain ⟨chars, read'', made⟩ := Option.bind_eq_some_iff.mp rest
    cases made
    rw [encode, String.toList_ofList, encodeChars, flatMap_units_of_charsOfUnits? read'',
      flatMap_unitBytes_of_unitsOfBytes? read']
  · rintro rfl
    exact decode?_encode text

/-- Bytes are read exactly if they are well formed. -/
theorem isSome_decode?_iff (bytes : List UInt8) : (decode? bytes).isSome = true ↔ WellFormed bytes := by
  have evenly := isSome_unitsOfBytes?_iff bytes
  cases read : unitsOfBytes? bytes with
  | none =>
      rw [read] at evenly
      have refused : decode? bytes = none := by
        unfold decode?
        rw [read]
        rfl
      rw [refused]
      constructor
      · intro read'
        cases read'
      · intro formed
        cases evenly.mpr formed.even
  | some units =>
      rw [read] at evenly
      have passed : (decode? bytes).isSome = (charsOfUnits? units).isSome := by
        unfold decode?
        rw [read, Option.bind_eq_bind, Option.bind_some]
        cases charsOfUnits? units with
        | none => rfl
        | some chars => rfl
      have same : unitAt bytes = numbers units := by
        rw [← unitAt_flatMap_unitBytes, flatMap_unitBytes_of_unitsOfBytes? read]
      rw [passed, isSome_charsOfUnits?_iff, ← same]
      constructor
      · intro paired
        exact ⟨evenly.mp rfl, paired⟩
      · intro formed
        exact formed.paired

/-- Well-formed bytes are those of exactly one text. -/
theorem wellFormed_iff {bytes : List UInt8} :
    WellFormed bytes ↔ ∃ text, encode text = bytes ∧ ∀ text', encode text' = bytes → text' = text := by
  rw [← isSome_decode?_iff]
  constructor
  · intro formed
    obtain ⟨text, read⟩ := Option.isSome_iff_exists.mp formed
    have written := decode?_eq_some_iff.mp read
    exact ⟨text, written, fun text' written' => encode_inj.mp (written'.trans written.symm)⟩
  · rintro ⟨text, written, -⟩
    rw [decode?_eq_some_iff.mpr written]
    rfl

/-!
### Length, and the front
-/

theorem length_encodeChars_singleton (c : Char) :
    (encodeChars [c]).length = if c.toNat < 0x10000 then 2 else 4 := by
  unfold encodeChars
  rw [List.flatMap_singleton]
  unfold units
  split
  · rfl
  · rfl

theorem length_encode (text : String) :
    (encode text).length =
      2 * text.toList.countP (fun c => c.toNat < 0x10000) +
        4 * text.toList.countP (fun c => 0x10000 ≤ c.toNat) := by
  unfold encode
  induction text.toList with
  | nil => rfl
  | cons c later ih =>
      have front : encodeChars (c :: later) = encodeChars [c] ++ encodeChars later :=
        encodeChars_append [c] later
      rw [front, List.length_append, ih, length_encodeChars_singleton, List.countP_cons,
        List.countP_cons]
      by_cases small : c.toNat < 0x10000
      · have notLarge : ¬ 0x10000 ≤ c.toNat := Nat.not_le_of_lt small
        rw [if_pos small, if_pos (decide_eq_true small), if_neg (by simpa using notLarge)]
        omega
      · have large := Nat.le_of_not_lt small
        rw [if_neg small, if_neg (by simpa using small), if_pos (decide_eq_true large)]
        omega

/-- Two bytes are the mark exactly if the unit that they spell is U+FEFF. -/
theorem unitBytes_eq_mark_iff (unit : UInt16) : unitBytes unit = [0xff, 0xfe] ↔ unit.toNat = 0xfeff := by
  constructor
  · intro mark
    have marked : unitBytes unit = unitBytes 0xfeff := mark
    obtain ⟨low, high⟩ : unit.toUInt8 = (0xfeff : UInt16).toUInt8 ∧
        (unit >>> 8).toUInt8 = ((0xfeff : UInt16) >>> 8).toUInt8 := by
      simpa only [unitBytes, List.cons.injEq, and_true] using marked
    rw [← unitOfBytes_unitBytes unit, low, high]
    rfl
  · intro number
    have same : unit = 0xfeff := UInt16.toNat_inj.mp number
    rw [same]
    rfl

/-- Nothing is put in front of a text: a byte order mark stands there exactly if it is the text's own first
    character. -/
theorem take_two_encode_eq_mark_iff (text : String) :
    (encode text).take 2 = [0xff, 0xfe] ↔ text.toList.head? = some (Char.ofNat 0xfeff) := by
  unfold encode encodeChars
  cases text.toList with
  | nil =>
      constructor
      · intro mark
        cases mark
      · intro first
        cases first
  | cons c later =>
      have valid : c.toNat < 0xd800 ∨ 0xdfff < c.toNat ∧ c.toNat < 0x110000 := c.valid
      have first : (c :: later).head? = some (Char.ofNat 0xfeff) ↔ c.toNat = 0xfeff := by
        rw [List.head?_cons, Option.some_inj, ← Char.toNat_inj]
        rfl
      rw [first, List.flatMap_cons]
      -- Only the first unit of the first character counts, whatever the later ones are.
      generalize later.flatMap units = behind
      unfold units
      split
      · next small =>
          have own : (UInt16.ofNat c.toNat).toNat = c.toNat := UInt16.toNat_ofNat_of_lt' small
          have front : (([UInt16.ofNat c.toNat] ++ behind).flatMap unitBytes).take 2 =
              unitBytes (UInt16.ofNat c.toNat) := rfl
          rw [front, unitBytes_eq_mark_iff, own]
      · next large =>
          have front : (([UInt16.ofNat (0xd800 + (c.toNat - 0x10000) / 0x400),
              UInt16.ofNat (0xdc00 + (c.toNat - 0x10000) % 0x400)] ++ behind).flatMap unitBytes).take 2 =
              unitBytes (UInt16.ofNat (0xd800 + (c.toNat - 0x10000) / 0x400)) := rfl
          -- The first unit of a pair lies below U+DC00, and what it belongs to beyond U+FFFF.
          rw [front, unitBytes_eq_mark_iff, toNat_highUnit]
          omega

end LanAuth.Text.Utf16
