import HomeEnergy.Proofs.Battery.Digits
import HomeEnergy.Proofs.Decimal.Nearest
import HomeEnergy.Proofs.Decimal.Single

/-!
# Typed values

A number is written as a mark that tells its type and the hexadecimal digits of its bits. Reading
gives back the number, as the nearest double where it is no double itself. What is read beyond that
are texts with a plus in front of the digits.

## Main results

* `Battery.signed_eq` — the shifts that extend the sign give the number in two's complement.
* `Battery.decode_written` — every number of every type is read back from its digits.
* `Battery.decode_isSome_iff` — the texts behind a mark that are read as numbers.
-/

namespace HomeEnergy.Battery

/-- The marks of unsigned numbers. -/
def unsignedMarks : List String := ["u1_", "u3_", "u6_", "u8_"]

/-- The marks of numbers in two's complement. -/
def signedMarks : List String := ["i1_", "i3_", "i8_"]

/-- The mark of single-precision numbers. -/
def singleMark : String := "fl_"

/-! ## What is read behind each mark -/

theorem decode_single (rest : String) : decode (.text (singleMark ++ rest)) =
    (hex? 32 rest.toList).map fun n => Single.toFloat (Float32.ofBits (UInt32.ofNat n)) := by
  unfold decode
  dsimp only
  rw [String.toList_append]
  rfl

theorem decode_unsigned {mark : String} (hmark : mark ∈ unsignedMarks) (rest : String) :
    decode (.text (mark ++ rest)) = (hex? 64 rest.toList).map ofNat := by
  unfold decode
  dsimp only
  rw [String.toList_append]
  simp only [unsignedMarks, List.mem_cons, List.not_mem_nil, or_false] at hmark
  rcases hmark with rfl | rfl | rfl | rfl <;> rfl

theorem decode_signed {mark : String} (hmark : mark ∈ signedMarks) (rest : String) :
    decode (.text (mark ++ rest)) =
      if 4 * rest.utf8ByteSize = 0 ∨ 64 < 4 * rest.utf8ByteSize then none
      else (hex? 64 rest.toList).map fun n => ofInt (signed (4 * rest.utf8ByteSize) n) := by
  obtain ⟨digits, rfl⟩ : ∃ digits, rest = String.ofList digits :=
    ⟨rest.toList, String.ofList_toList.symm⟩
  unfold decode
  dsimp only
  rw [String.toList_append, String.toList_ofList]
  simp only [signedMarks, List.mem_cons, List.not_mem_nil, or_false] at hmark
  rcases hmark with rfl | rfl | rfl <;> rfl

/-! ## The width of a signed number -/

/-- Digits and a plus take one byte each. -/
theorem utf8ByteSize_eq {rest : String} (h : (afterPlus rest.toList).all Char.isHexDigit = true) :
    rest.utf8ByteSize = rest.toList.length := by
  have hascii : ∀ c ∈ rest.toList, c.utf8Size = 1 := by
    intro c hc
    refine Char.utf8Size_eq_one_iff.2 ?_
    show c.toNat ≤ 127
    rcases mem_afterPlus hc with rfl | hmem
    · decide
    · have hdigit := toNat_le_of_isHexDigit (List.all_eq_true.1 h c hmem)
      omega
  rw [← @String.ofList_toList rest, String.utf8ByteSize_ofList, String.toList_ofList]
  generalize rest.toList = text at hascii
  induction text with
  | nil => rfl
  | cons c text ih =>
      rw [String.utf8Len_cons, hascii c List.mem_cons_self,
        ih fun d hd => hascii d (List.mem_cons_of_mem c hd), List.length_cons]

theorem bmod_shifted (v : Int) (h s : Nat) :
    (v * 2 ^ s).bmod (2 * h * 2 ^ s) = v.bmod (2 * h) * 2 ^ s := by
  have hpow : (0 : Int) < 2 ^ s := by positivity
  have hmod : v * 2 ^ s % ((2 * h * 2 ^ s : Nat) : Int) = v % ((2 * h : Nat) : Int) * 2 ^ s := by
    push_cast
    rw [mul_comm v, mul_comm (2 * (h : Int)), Int.mul_emod_mul_of_pos _ _ hpow, mul_comm]
  have hhalf : (((2 * h * 2 ^ s : Nat) : Int) + 1) / 2 = h * 2 ^ s := by
    push_cast
    rw [mul_assoc]
    omega
  have hhalf' : (((2 * h : Nat) : Int) + 1) / 2 = h := by omega
  rw [Int.bmod_def, Int.bmod_def, hmod, hhalf, hhalf']
  simp only [mul_lt_mul_iff_left₀ hpow]
  split_ifs
  · rfl
  · push_cast
    ring

/-- Moving the lowest bits of a word to its top and down again with the sign gives the number that
they are in two's complement. -/
theorem signed_eq {bits n : Nat} (hbits : 0 < bits) (hbits' : bits ≤ 64) (hn : n < 2 ^ 64) :
    signed bits n = Int.bmod n (2 ^ bits) := by
  obtain ⟨s, hs⟩ : ∃ s, s = 64 - bits := ⟨_, rfl⟩
  have hword : 2 ^ 64 = 2 * 2 ^ (bits - 1) * 2 ^ s := by
    rw [← Nat.pow_succ', ← Nat.pow_add]
    congr 1
    omega
  have hhalves : 2 * 2 ^ (bits - 1) = 2 ^ bits := by
    rw [← Nat.pow_succ']
    congr 1
    omega
  unfold signed
  rw [← hs, BitVec.toInt_sshiftRight, BitVec.toInt_shiftLeft, BitVec.toNat_ofNat,
    Nat.mod_eq_of_lt hn, Nat.shiftLeft_eq, hword, Nat.cast_mul, Nat.cast_pow, Nat.cast_ofNat,
    bmod_shifted, hhalves, Int.shiftRight_eq_div_pow, Nat.cast_pow, Nat.cast_ofNat,
    Int.mul_ediv_cancel _ (by positivity)]

/-! ## Numbers are read back -/

/-- A whole number becomes the nearest double. -/
theorem nearest_ofInt {v : Int} (hv : v.natAbs ≤ 2 ^ 64) : Float.Nearest v (ofInt v) := by
  have habs := Float.nearest_ofScientific hv
  unfold ofInt
  split_ifs with hneg
  · have hcast : (v : ℚ) = -(v.natAbs : ℚ) := by
      rw [← Int.cast_natCast, Int.ofNat_natAbs_of_nonpos hneg.le, Int.cast_neg, neg_neg]
    rw [hcast]
    refine habs.neg ?_
    exact_mod_cast Int.natAbs_ne_zero.2 hneg.ne
  · have hcast : (v : ℚ) = (v.natAbs : ℚ) := by
      rw [← Int.cast_natCast, Int.natAbs_of_nonneg (not_lt.1 hneg)]
    rw [hcast]
    exact habs

section

variable {mark rest : String} {zeros : Nat}

/-- A number in two's complement is read back from as many digits as it has been written with. -/
theorem decode_signed_written (hmark : mark ∈ signedMarks) {n : Nat} (hn : 1 ≤ n) (hn' : n ≤ 16)
    {v : Int} (hlow : -2 ^ (4 * n - 1) ≤ v) (hhigh : v < 2 ^ (4 * n - 1))
    (hlength : rest.toList.length = n) (hrest : Writes rest.toList zeros (v % 16 ^ n).toNat) :
    decode (.text (mark ++ rest)) = some (ofInt v) := by
  have hbytes : rest.utf8ByteSize = n := by
    rw [utf8ByteSize_eq (by rw [afterPlus_of_all hrest.all]; exact hrest.all), hlength]
  have hhalves : (2 : Int) ^ (4 * n) = 2 * 2 ^ (4 * n - 1) := by
    rw [← pow_succ']
    congr 1
    omega
  have hsixteen : (16 : Int) ^ n = ((2 ^ (4 * n) : Nat) : Int) := by
    rw [show (16 : Int) = 2 ^ 4 by decide, ← pow_mul]
    push_cast
    rfl
  have hresidue : ((v % 16 ^ n).toNat : Int) = v % ((2 ^ (4 * n) : Nat) : Int) := by
    rw [hsixteen, Int.toNat_of_nonneg (Int.emod_nonneg _ (by positivity))]
  have hword : (v % 16 ^ n).toNat < 2 ^ 64 := by
    calc (v % 16 ^ n).toNat < 2 ^ (4 * n) := by
          have hlt := Int.emod_lt_of_pos v
            (show (0 : Int) < ((2 ^ (4 * n) : Nat) : Int) by positivity)
          omega
      _ ≤ 2 ^ 64 := Nat.pow_le_pow_right (by decide) (by omega)
  have hvalue : signed (4 * n) (v % 16 ^ n).toNat = v := by
    rw [signed_eq (by omega) (by omega) hword, hresidue, Int.emod_bmod]
    refine Int.bmod_eq_of_le_mul_two ?_ ?_ <;> push_cast <;> omega
  rw [decode_signed hmark, hbytes, if_neg (by omega), hrest.hex?_eq hword, Option.map_some, hvalue]

theorem decode_unsigned_written (hmark : mark ∈ unsignedMarks) {v : Nat} (hv : v < 2 ^ 64)
    (hrest : Writes rest.toList zeros v) : decode (.text (mark ++ rest)) = some (ofNat v) := by
  rw [decode_unsigned hmark, hrest.hex?_eq hv, Option.map_some]

theorem decode_single_written {b : UInt32} (hrest : Writes rest.toList zeros b.toNat) :
    decode (.text (singleMark ++ rest)) = some (Single.toFloat (Float32.ofBits b)) := by
  rw [decode_single, hrest.hex?_eq b.toNat_lt, Option.map_some, UInt32.ofNat_toNat]

end

/-- Every number of every type is read back from its digits, in letters of either case. Unsigned and
single-precision numbers may have any number of zeros in front, while a number in two's complement
is as wide as it is long. -/
theorem decode_written :
    (∀ mark ∈ signedMarks, ∀ n : Nat, 1 ≤ n → n ≤ 16 →
      ∀ v : Int, -2 ^ (4 * n - 1) ≤ v → v < 2 ^ (4 * n - 1) →
      ∀ (rest : String) (zeros : Nat), rest.toList.length = n →
        Writes rest.toList zeros (v % 16 ^ n).toNat →
        decode (.text (mark ++ rest)) = some (ofInt v) ∧ Float.Nearest v (ofInt v)) ∧
    (∀ mark ∈ unsignedMarks, ∀ v < 2 ^ 64, ∀ (rest : String) (zeros : Nat),
      Writes rest.toList zeros v →
        decode (.text (mark ++ rest)) = some (ofNat v) ∧ Float.Nearest v (ofNat v)) ∧
    (∀ (b : UInt32) (rest : String) (zeros : Nat), Writes rest.toList zeros b.toNat →
      decode (.text (singleMark ++ rest)) = some (Single.toFloat (Float32.ofBits b)) ∧
        Single.Same (Float32.ofBits b).toModel.unpack
          (Single.toFloat (Float32.ofBits b)).toModel.unpack) := by
  refine ⟨?_, ?_, ?_⟩
  · intro mark hmark n hn hn' v hlow hhigh rest zeros hlength hrest
    refine ⟨decode_signed_written hmark hn hn' hlow hhigh hlength hrest, nearest_ofInt ?_⟩
    have hwide : (2 : Int) ^ (4 * n - 1) ≤ 2 ^ 63 := by
      gcongr
      · decide
      · omega
    omega
  · intro mark hmark v hv rest zeros hrest
    exact ⟨decode_unsigned_written hmark hv hrest, Float.nearest_ofScientific hv.le⟩
  · intro b rest zeros hrest
    exact ⟨decode_single_written hrest, Single.same_toFloat _⟩

theorem decode_written_mixed :
    (decode (.text ("i8_" ++ "8")) = some (ofInt (-8)) ∧ Float.Nearest (-8 : Int) (ofInt (-8))) ∧
    (decode (.text ("u3_" ++ "00bE")) = some (ofNat 190) ∧ Float.Nearest (190 : Nat) (ofNat 190)) ∧
    (decode (.text (singleMark ++ "43c80000"))
        = some (Single.toFloat (Float32.ofBits 0x43C80000)) ∧
      Single.Same (Float32.ofBits 0x43C80000).toModel.unpack
        (Single.toFloat (Float32.ofBits 0x43C80000)).toModel.unpack) := by
  obtain ⟨hsigned, hunsigned, hsingle⟩ := decode_written
  exact ⟨hsigned "i8_" (by decide) 1 (by decide) (by decide) (-8) (by decide) (by decide) "8" 0
      (by decide) (by unfold Writes; decide),
    hunsigned "u3_" (by decide) 190 (by decide) "00bE" 2 (by unfold Writes; decide),
    hsingle 0x43C80000 "43c80000" 0 (by unfold Writes; decide)⟩

/-! ## What is read at all -/

/-- The marks of numbers. -/
def numberMarks : List String := singleMark :: unsignedMarks ++ signedMarks

/-- What is read behind a mark: digits, with an optional plus in front of them. Only for numbers in
two's complement do zeros in front and the plus count for the length. -/
structure Readable (mark : String) (text : List Char) : Prop where
  nonempty : afterPlus text ≠ []
  digits : ∀ c ∈ afterPlus text, c.isHexDigit = true
  single : mark = singleMark → (significant (afterPlus text)).length ≤ 8
  unsigned : mark ∈ unsignedMarks → (significant (afterPlus text)).length ≤ 16
  signed : mark ∈ signedMarks → text.length ≤ 16

theorem hex?_isSome_iff (k : Nat) (text : List Char) : (hex? (4 * k) text).isSome = true ↔
    afterPlus text ≠ [] ∧ (∀ c ∈ afterPlus text, c.isHexDigit = true) ∧
      (significant (afterPlus text)).length ≤ k := by
  have hpow : 2 ^ (4 * k) = 16 ^ k := by rw [pow_mul]; rfl
  rw [hex?_eq, hpow, ← List.all_eq_true]
  split_ifs with h
  · exact iff_of_true rfl ⟨h.1, h.2.1, (number_lt_iff h.2.1 k).1 h.2.2⟩
  · exact iff_of_false Bool.false_ne_true fun h' =>
      h ⟨h'.1, h'.2.1, (number_lt_iff h'.2.1 k).2 h'.2.2⟩

/-- In two's complement every character behind the mark counts for the width. -/
theorem decode_signed_isSome_iff {mark : String} (hmark : mark ∈ signedMarks) (rest : String) :
    (decode (.text (mark ++ rest))).isSome = true ↔
      (hex? (4 * 16) rest.toList).isSome = true ∧ rest.toList.length ≤ 16 := by
  rw [decode_signed hmark]
  by_cases hhex : (hex? (4 * 16) rest.toList).isSome = true
  · obtain ⟨hnonempty, hdigits, -⟩ := (hex?_isSome_iff 16 _).1 hhex
    have hpos : 0 < rest.toList.length :=
      (List.length_pos_iff.2 hnonempty).trans_le (length_afterPlus_le _)
    rw [utf8ByteSize_eq (List.all_eq_true.2 hdigits)]
    split_ifs with hwidth
    · exact iff_of_false Bool.false_ne_true fun h => by omega
    · exact iff_of_true ((Option.isSome_map ..).trans hhex) ⟨hhex, by omega⟩
  · have hnone := Option.not_isSome_iff_eq_none.1 hhex
    rw [hnone]
    exact iff_of_false (by split_ifs <;> exact Bool.false_ne_true) fun h =>
      Bool.false_ne_true h.1

/-- The texts behind a mark that are read as numbers. -/
theorem decode_isSome_iff {mark : String} (hmark : mark ∈ numberMarks) (rest : String) :
    (decode (.text (mark ++ rest))).isSome = true ↔ Readable mark rest.toList := by
  have hmarks : (∀ mark ∈ unsignedMarks, mark ≠ singleMark ∧ mark ∉ signedMarks) ∧
      ∀ mark ∈ signedMarks, mark ≠ singleMark ∧ mark ∉ unsignedMarks := by decide
  rcases List.mem_cons.1 hmark with rfl | hmark
  · rw [decode_single, Option.isSome_map, hex?_isSome_iff 8]
    constructor
    · rintro ⟨hnonempty, hdigits, hroom⟩
      exact ⟨hnonempty, hdigits, fun _ => hroom, fun h => absurd rfl (hmarks.1 _ h).1,
        fun h => absurd rfl (hmarks.2 _ h).1⟩
    · exact fun h => ⟨h.nonempty, h.digits, h.single rfl⟩
  rcases List.mem_append.1 hmark with hmark | hmark
  · rw [decode_unsigned hmark, Option.isSome_map, hex?_isSome_iff 16]
    constructor
    · rintro ⟨hnonempty, hdigits, hroom⟩
      exact ⟨hnonempty, hdigits, fun h => absurd h (hmarks.1 _ hmark).1, fun _ => hroom,
        fun h => absurd h (hmarks.1 _ hmark).2⟩
    · exact fun h => ⟨h.nonempty, h.digits, h.unsigned hmark⟩
  · rw [decode_signed_isSome_iff hmark, hex?_isSome_iff 16]
    constructor
    · rintro ⟨⟨hnonempty, hdigits, -⟩, hroom⟩
      exact ⟨hnonempty, hdigits, fun h => absurd h (hmarks.2 _ hmark).1,
        fun h => absurd h (hmarks.2 _ hmark).2, fun _ => hroom⟩
    · intro h
      have hroom := h.signed hmark
      exact ⟨⟨h.nonempty, h.digits, (length_significant_le _).trans
        ((length_afterPlus_le _).trans hroom)⟩, hroom⟩

theorem decode_isSome_plus : (decode (.text ("u1_" ++ "+0A"))).isSome = true :=
  (decode_isSome_iff (by decide) _).2
    ⟨by decide, List.all_eq_true.1 (by decide), by decide, by decide, by decide⟩

/-- A plus in front is read, though it is no digit. -/
theorem plus_is_read : ¬ ∀ mark ∈ numberMarks, ∀ rest : String,
    (decode (.text (mark ++ rest))).isSome = true →
      rest.toList ≠ [] ∧ ∀ c ∈ rest.toList, c.isHexDigit = true := by
  intro h
  have hplus := (h "i1_" (by decide) "+FF" (by decide)).2 '+' (by decide)
  exact absurd hplus (by decide)

end HomeEnergy.Battery
