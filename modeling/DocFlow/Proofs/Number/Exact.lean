import DocFlow.Proofs.Number.Key

/-!
# Integers as doubles

The conversion of an integer to a double rounds the integer, packs it into bits and multiplies by one.  An integer of a
magnitude below `safeBound` needs no rounding, as a power of two fills its mantissa (`exists_full`), so that all three
steps keep it (`view_ofInt`) and it can be read off the double again (`toSafeInt?_ofInt`).  Doubles that are the same
integer are equal (`beq_of_toInt?`).
-/

namespace DocFlow.Number

open Float.Model (Format UnpackedFloat)
open Float.Model.UnpackedFloat

variable {m n k : Nat} {q : Int} {s : Sign}

/-! ## Full mantissas -/

/-- All 53 bits of the mantissa are used. -/
structure Full (m : Nat) : Prop where
  le : 2 ^ 52 ≤ m
  lt : m < 2 ^ 53

theorem Full.pos (h : Full m) : 0 < m := Nat.lt_of_lt_of_le (Nat.two_pow_pos 52) h.le

theorem Full.log2_mul_pow (h : Full m) (k : Nat) : (m * 2 ^ k).log2 = 52 + k := by
  have hne : m * 2 ^ k ≠ 0 := (Nat.mul_pos h.pos (Nat.two_pow_pos k)).ne'
  have hle : 2 ^ 52 * 2 ^ k ≤ m * 2 ^ k := Nat.mul_le_mul_right _ h.le
  have hlt : m * 2 ^ k < 2 ^ 53 * 2 ^ k := Nat.mul_lt_mul_of_pos_right h.lt (Nat.two_pow_pos k)
  rw [← Nat.pow_add] at hle hlt
  exact (Nat.log2_eq_iff hne).2 ⟨hle, by rwa [Nat.add_right_comm]⟩

/-- A number of at most 53 bits fills the mantissa after some shift. -/
theorem exists_full (hpos : 0 < n) (hn : n < 2 ^ 53) : ∃ k, k ≤ 52 ∧ Full (n * 2 ^ k) := by
  obtain ⟨hle, hlt⟩ := (Nat.log2_eq_iff hpos.ne').1 rfl
  have hlog : n.log2 < 53 := (Nat.log2_lt hpos.ne').2 hn
  have hbits : n.log2 + (52 - n.log2) = 52 := by omega
  have hbits' : n.log2 + 1 + (52 - n.log2) = 53 := by omega
  refine ⟨52 - n.log2, Nat.sub_le _ _, ?_, ?_⟩
  · rw [← hbits, Nat.pow_add, hbits]
    exact Nat.mul_le_mul_right _ hle
  · rw [← hbits', Nat.pow_add]
    exact Nat.mul_lt_mul_of_pos_right hlt (Nat.two_pow_pos _)

/-! ## Rounding -/

/-- Shifting out zeros loses nothing. -/
theorem shiftRight_exact (m k : Nat) : (⟨m * 2 ^ k, false, false⟩ : ExtendedMantissa) >>> k = ⟨m, false, false⟩ := by
  induction k generalizing m with
  | zero => exact congrArg (ExtendedMantissa.mk · false false) (Nat.mul_one m)
  | succ k ih =>
    have hstep : (⟨m * 2 ^ (k + 1), false, false⟩ : ExtendedMantissa) >>> (k + 1) =
        ((⟨m * 2 * 2 ^ k, false, false⟩ : ExtendedMantissa) >>> k).shiftRightOne := by
      rw [Nat.pow_succ', ← Nat.mul_assoc]
      rfl
    rw [hstep, ih, ExtendedMantissa.shiftRightOne]
    simp

theorem shiftToTargetExponent_full (h : Full m) (hq : -1074 ≤ q) (k : Nat) :
    shiftToTargetExponent .binary64 (m * 2 ^ k) (q - k) .exact = (⟨m, false, false⟩, q) := by
  have htarget : Format.binary64.targetExponent (Float.Model.totalExponent (m * 2 ^ k) (q - k)) = q := by
    simp only [Format.targetExponent, Float.Model.totalExponent, h.log2_mul_pow, Format.mantissaBits,
      Format.minExponent]
    omega
  have hamount : (q - (q - k)).toNat = k := by omega
  have hexponent : q - k + (k : Int) = q := by omega
  rw [shiftToTargetExponent, htarget, shiftToExponent, hamount, hexponent, ExtendedMantissa.ofMantissaAndAccuracy,
    shiftRight_exact]

/-- A full mantissa with zeros behind it is not rounded. -/
theorem roundWithAccuracy_full (h : Full m) (hq : -1074 ≤ q) (k : Nat) :
    roundWithAccuracy .binary64 s (m * 2 ^ k) (q - k) .exact = .finite s m q h.pos := by
  have hagain : shiftToTargetExponent .binary64 m q .exact = (⟨m, false, false⟩, q) := by
    simpa using shiftToTargetExponent_full h hq 0
  simp only [roundWithAccuracy, shiftToTargetExponent_full h hq k, ExtendedMantissa.roundedMantissa,
    ExtendedMantissa.accuracy, Accuracy.roundToNearestEven, hagain, dif_neg h.pos.ne']

/-- A natural number that a shift makes full is not rounded. -/
theorem round_natural (h : Full (n * 2 ^ k)) (hk : k ≤ 52) :
    UnpackedFloat.round .binary64 s n 0 = .finite s (n * 2 ^ k) (-k) h.pos := by
  have hpos : 0 < n := Nat.pos_of_mul_pos_right h.pos
  have hbits : 52 - k + k = 52 := by omega
  have hbits' : 52 - k + 1 + k = 53 := by omega
  have hlog : n.log2 = 52 - k := by
    refine (Nat.log2_eq_iff hpos.ne').2 ⟨?_, ?_⟩
    · refine Nat.le_of_mul_le_mul_right ?_ (Nat.two_pow_pos k)
      rw [← Nat.pow_add, hbits]
      exact h.le
    · refine Nat.lt_of_mul_lt_mul_right (a := 2 ^ k) ?_
      rw [← Nat.pow_add, hbits']
      exact h.lt
  have htarget : Format.binary64.targetExponent (Float.Model.totalExponent n 0) = -k := by
    simp only [Format.targetExponent, Float.Model.totalExponent, hlog, Format.mantissaBits, Format.minExponent]
    omega
  have hamount : (0 - -(k : Int)).toNat = k := by omega
  have hexact : roundWithAccuracy .binary64 s (n * 2 ^ k) (-k) .exact = .finite s (n * 2 ^ k) (-k) h.pos := by
    simpa using roundWithAccuracy_full (s := s) h (show -1074 ≤ -(k : Int) by omega) 0
  have hexponent : 0 - (k : Int) = -k := Int.zero_sub _
  simp only [UnpackedFloat.round, htarget, decreaseExponent, hamount, hexponent, Nat.shiftLeft_eq, hexact]

/-! ## Bits -/

/-- Full mantissas come out of the bits as they have been put in. -/
theorem unpack_pack_full (h : Full m) (hq : -1074 ≤ q) (hq' : q ≤ 971) :
    (Float.Model.pack (.finite s m q h.pos)).unpack = .finite s m q h.pos := by
  have hlog : m.log2 + 1 = Format.binary64.mantissaBits := by
    simpa [Format.mantissaBits] using h.log2_mul_pow 0
  have hbiased : (q + Format.binary64.exponentBias + Format.binary64.mantissaBitsWithoutImplicit).toNat =
      (q + 1075).toNat := by
    simp only [Format.exponentBias]
    omega
  have hfits : ¬ 2 ^ Format.binary64.exponentBits ≤ (q + 1075).toNat + 1 := by
    show ¬ 2048 ≤ _
    omega
  have hexponent : (BitVec.ofNat 11 (q + 1075).toNat).toNat = (q + 1075).toNat := by
    rw [BitVec.toNat_ofNat]
    omega
  have hmantissa : (1#1 ++ BitVec.ofNat 52 m).toNat = m := by
    have hle := h.le
    have hlt := h.lt
    rw [toNat_one_append, BitVec.toNat_ofNat]
    omega
  have hpack : UnpackedFloat.pack .binary64 (.finite s m q h.pos) =
      packComponents .binary64 s (BitVec.ofNat 11 (q + 1075).toNat) (BitVec.ofNat 52 m) := by
    simp only [UnpackedFloat.pack, hbiased, if_neg hfits, if_pos hlog]
  have hne {b : BitVec 11} (hb : b.toNat ≠ (q + 1075).toNat) : BitVec.ofNat 11 (q + 1075).toNat ≠ b := by
    rintro rfl
    exact hb hexponent
  -- the exponent is neither that of NaN and infinities nor that of zeros and subnormal doubles
  have hlast : BitVec.ofNat 11 (q + 1075).toNat ≠ -1#11 := hne (show 2047 ≠ _ by omega)
  have hfirst : BitVec.ofNat 11 (q + 1075).toNat ≠ 0#11 := hne (show 0 ≠ _ by omega)
  show UnpackedFloat.unpack .binary64 (UnpackedFloat.pack .binary64 (.finite s m q h.pos)) = _
  rw [hpack, UnpackedFloat.unpack]
  simp only [unpackMantissa_packComponents, unpackExponent_packComponents, unpackSign_packComponents,
    Sign.ofBitVec_toBitVec, if_neg hlast, if_neg hfirst, hmantissa, hexponent, Format.exponentBias]
  congr 1
  omega

/-! ## Integers -/

/-- A natural number that a shift makes full is a double. -/
theorem unpack_ofNat (h : Full (n * 2 ^ k)) (hk : k ≤ 52) :
    (Float.ofNat n).toModel.unpack = .finite .positive (n * 2 ^ k) (-k) h.pos := by
  have hpos : 0 < n := Nat.pos_of_mul_pos_right h.pos
  have hn : n < 2 ^ 53 := Nat.lt_of_le_of_lt (Nat.le_mul_of_pos_right n (Nat.two_pow_pos k)) h.lt
  have hword : n.toUInt64.toNat = n := Nat.mod_eq_of_lt (by omega)
  have hcompare : Ord.compare (n : Int) 0 = .gt := Int.compare_eq_gt.2 (by omega)
  have hconvert : UnpackedFloat.ofUInt64 .binary64 n.toUInt64 = .finite .positive (n * 2 ^ k) (-k) h.pos := by
    simp only [UnpackedFloat.ofUInt64, UnpackedFloat.ofNat, UnpackedFloat.ofInt, UnpackedFloat.normalize, hword,
      hcompare, Int.toNat_natCast, round_natural h hk]
  have hone : (Float.Model.ofBits 0x3FF0000000000000).unpack = .finite .positive (2 ^ 52) (-52) (by decide) := rfl
  have hproduct : (Float.ofNat n).toModel = .mul (.ofUInt64 n.toUInt64) (.ofBits 0x3FF0000000000000) := by
    show (Float.ofScientific n false 0).toModel = _
    rw [Float.ofScientific, dif_pos ⟨hn, by decide⟩]
    rfl
  have hmul : UnpackedFloat.mul .binary64 (.finite .positive (n * 2 ^ k) (-k) h.pos)
      (.finite .positive (2 ^ 52) (-52) (by decide)) = .finite .positive (n * 2 ^ k) (-k) h.pos :=
    roundWithAccuracy_full h (show -1074 ≤ -(k : Int) by omega) 52
  have hle : -1074 ≤ -(k : Int) := by omega
  rw [hproduct, Float.Model.mul, Float.Model.ofUInt64, hconvert, unpack_pack_full h hle (by omega), hone, hmul,
    unpack_pack_full h hle (by omega)]

/-- An integer of a small magnitude is the double with its sign and magnitude. -/
theorem view_ofInt {n : Int} (h : n.natAbs < 2 ^ 53) :
    ∃ k : Nat, view (Float.ofInt n) = .finite (decide (n < 0)) (n.natAbs * 2 ^ k) (-k) := by
  cases n with
  | ofNat n =>
    rcases Nat.eq_zero_or_pos n with rfl | hpos
    · exact ⟨1074, by decide +kernel⟩
    · obtain ⟨k, hk, hfull⟩ := exists_full hpos h
      refine ⟨k, ?_⟩
      rw [view_eq, Float.ofInt, unpack_ofNat hfull hk]
      rfl
  | negSucc n =>
    obtain ⟨k, hk, hfull⟩ := exists_full (Nat.succ_pos n) h
    refine ⟨k, ?_⟩
    have hneg : (Float.neg (Float.ofNat n.succ)).toModel.unpack =
        (Float.Model.pack (.finite .negative (n.succ * 2 ^ k) (-k) hfull.pos)).unpack := by
      show (Float.Model.pack (Float.ofNat n.succ).toModel.unpack.neg).unpack = _
      rw [unpack_ofNat hfull hk]
      rfl
    rw [view_eq, Float.ofInt, hneg, unpack_pack_full hfull (by omega) (by omega),
      decide_eq_true (Int.negSucc_lt_zero n)]
    rfl

theorem natOf?_mul_pow (n k : Nat) : natOf? (n * 2 ^ k) (-k) = some n := by
  cases k with
  | zero => exact congrArg some (by simp)
  | succ k =>
    show (if n * 2 ^ (k + 1) % 2 ^ (k + 1) = 0 then some (n * 2 ^ (k + 1) / 2 ^ (k + 1)) else none) = some n
    rw [if_pos (Nat.mul_mod_left _ _), Nat.mul_div_cancel _ (Nat.two_pow_pos _)]

/-- An integer of a small magnitude can be read off its double. -/
theorem toSafeInt?_ofInt {n : Int} (h : n.natAbs < safeBound) : toSafeInt? (Float.ofInt n) = some n := by
  obtain ⟨k, hview⟩ := view_ofInt h
  have hsigned : signed (decide (n < 0)) n.natAbs = n := by
    by_cases hn : n < 0
    · rw [signed, decide_eq_true hn, if_pos rfl]
      omega
    · rw [signed, decide_eq_false hn, if_neg Bool.false_ne_true]
      omega
  rw [toSafeInt?, toInt?, hview]
  simp only [natOf?_mul_pow, Option.map_some, hsigned, Option.filter_some, h, decide_true, if_true]

/-- A double that is an integer is finite, and its mantissa and exponent make up the magnitude. -/
theorem exists_of_toInt? {x : Float} {n : Int} (h : toInt? x = some n) :
    ∃ negative m q a, view x = .finite negative m q ∧ natOf? m q = some a ∧ signed negative a = n := by
  unfold toInt? at h
  split at h
  · rename_i negative m q hview
    obtain ⟨a, ha, hsigned⟩ := Option.map_eq_some_iff.1 h
    exact ⟨negative, m, q, a, hview, ha, hsigned⟩
  · cases h

/-- An integer other than zero has one sign. -/
theorem eq_of_signed {negative negative' : Bool} {a : Nat} (ha : 0 < a) (h : signed negative' a = signed negative a) :
    negative' = negative := by
  unfold signed at h
  cases negative <;> cases negative' <;> simp only [if_true, Bool.false_eq_true, if_false] at h ⊢ <;> omega

/-- Doubles that are the same integer are equal. -/
theorem beq_of_toInt? {x y : Float} {n : Int} (hx : toInt? x = some n) (hy : toInt? y = some n) : (x == y) = true := by
  obtain ⟨negative, m, q, a, hview, ha, rfl⟩ := exists_of_toInt? hx
  obtain ⟨negative', m', q', a', hview', ha', hsigned⟩ := exists_of_toInt? hy
  have hxNaN : x.isNaN = false := Bool.eq_false_iff.2 fun h => by simp [isNaN_iff_view.1 h] at hview
  have hyNaN : y.isNaN = false := Bool.eq_false_iff.2 fun h => by simp [isNaN_iff_view.1 h] at hview'
  obtain rfl : a' = a := by rw [← natAbs_signed negative' a', hsigned, natAbs_signed]
  have hm : (a' : ℚ) = m * 2 ^ q := cast_natOf? ha
  have hm' : (a' : ℚ) = m' * 2 ^ q' := cast_natOf? ha'
  rw [beq_iff_view hxNaN hyNaN, hview, hview']
  rcases Nat.eq_zero_or_pos a' with rfl | hpos
  · -- zero has two signs
    have hzero {m : Nat} {q : Int} (h : ((0 : Nat) : ℚ) = m * 2 ^ q) : m = 0 := by
      simpa [zpow_ne_zero] using h.symm
    exact .inr ⟨decide_eq_true (hzero hm), decide_eq_true (hzero hm')⟩
  · have hmantissa {m : Nat} {q : Int} (h : (a' : ℚ) = m * 2 ^ q) : 0 < m := by
      rw [Nat.pos_iff_ne_zero]
      rintro rfl
      simp [hpos.ne'] at h
    have hself : (Target.ofParts m q).Contains a' := hm ▸ contains_self (hmantissa hm)
    have hself' : (Target.ofParts m' q').Contains a' := hm' ▸ contains_self (hmantissa hm')
    obtain ⟨rfl, rfl⟩ := eq_of_contains (canonical_of_view hview) (canonical_of_view hview') hself hself'
    exact .inl (by rw [eq_of_signed hpos hsigned])

/-- A double that is an integer of a small magnitude is equal to the double of the integer. -/
theorem ofInt_beq_of_toSafeInt? {x : Float} {n : Int} (h : toSafeInt? x = some n) : (Float.ofInt n == x) = true := by
  obtain ⟨hint, hsafe⟩ := Option.filter_eq_some_iff.1 h
  have hofInt := toSafeInt?_ofInt (of_decide_eq_true hsafe)
  exact beq_of_toInt? (Option.filter_eq_some_iff.1 hofInt).1 hint

end DocFlow.Number
