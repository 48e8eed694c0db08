import Reckon.Proofs.Decimal.Rounding

/-!
Floats and their unpacked forms. Unpacking a float and packing it again gives the float back, and so
does packing and unpacking for finite numbers in the canonical form that are not too large. The sign
survives packing in every case.
-/

namespace Reckon.Rounding

open Float.Model Float.Model.UnpackedFloat

/-! ### Packing finite numbers -/

section

variable {m : Nat} {e : Int} (s : Sign) (hm : 0 < m)

lemma pack_finite : pack .binary64 (.finite s m e hm) =
    if 2048 ≤ (e + 1023 + 52).toNat + 1 then packedInfinity .binary64 s
    else if m.log2 + 1 = 53 then
      packComponents .binary64 s (.ofNat 11 (e + 1023 + 52).toNat) (.ofNat 52 m)
    else packComponents .binary64 s 0#11 (.ofNat 52 m) :=
  rfl

lemma pack_large (h : 971 < e) :
    pack .binary64 (.finite s m e hm) = packedInfinity .binary64 s := by
  rw [pack_finite, if_pos (by omega)]

lemma pack_subnormal (h : m.log2 < 52) :
    pack .binary64 (.finite s m (-1074) hm) = packComponents .binary64 s 0#11 (.ofNat 52 m) := by
  rw [pack_finite, if_neg (by omega), if_neg (by omega)]

lemma pack_normal (h : m.log2 = 52) (hu : e ≤ 971) :
    pack .binary64 (.finite s m e hm) =
      packComponents .binary64 s (.ofNat 11 (e + 1075).toNat) (.ofNat 52 m) := by
  rw [pack_finite, if_neg (by omega), if_pos (by omega), Int.add_assoc]
  rfl

end

/-! ### What floats are unpacked to -/

section

variable {b : BitVec Format.binary64.numBits} {m : BitVec 52}

lemma toNat_normal (m : BitVec 52) : (1#1 ++ m).toNat = 2 ^ 52 + m.toNat := by
  rw [BitVec.toNat_append, Nat.shiftLeft_eq, Nat.mul_comm, ← Nat.two_pow_add_eq_or_of_lt m.isLt]
  simp

lemma log_normal (m : BitVec 52) : (2 ^ 52 + m.toNat).log2 = 52 := by
  have := m.isLt
  rw [Nat.log2_eq_iff (by omega)]
  omega

lemma pos_subnormal (h : m ≠ 0#52) : 0 < m.toNat :=
  (BitVec.toNat_pos m).2 ((BitVec.pos_iff_ne_zero m).2 h)

lemma log_subnormal (h : m ≠ 0#52) : m.toNat.log2 < 52 :=
  (Nat.log2_lt (pos_subnormal h).ne').2 m.isLt

/-- What the fields of a float stand for. -/
def ofFields (s : Sign) (x : BitVec 11) (y : BitVec 52) : UnpackedFloat :=
  if x = -1#11 then if y = 0#52 then .infinity s else .notANumber
  else if x = 0#11 then
    if h : y = 0#52 then .zero s else .finite s y.toNat (x.toNat - 1075 + 1) (pos_subnormal h)
  else .finite s (1#1 ++ y).toNat (x.toNat - 1075) (toNat_normal _ ▸ by omega)

lemma unpack_eq (b : BitVec Format.binary64.numBits) :
    unpack .binary64 b = ofFields (.ofBitVec (unpackSign b)) (unpackExponent b)
      (unpackMantissa b) :=
  rfl

/-- What a float is unpacked to, by its exponent and mantissa. -/
lemma unpack_cases (b : BitVec Format.binary64.numBits) :
    let s := Sign.ofBitVec (unpackSign b)
    (unpackExponent b = -1#11 ∧ unpackMantissa b = 0#52 ∧ unpack .binary64 b = .infinity s) ∨
    (unpackExponent b = -1#11 ∧ unpackMantissa b ≠ 0#52 ∧ unpack .binary64 b = .notANumber) ∨
    (unpackExponent b = 0#11 ∧ unpackMantissa b = 0#52 ∧ unpack .binary64 b = .zero s) ∨
    (∃ m : BitVec 52, ∃ hm, m ≠ 0#52 ∧ unpackExponent b = 0#11 ∧ unpackMantissa b = m ∧
      unpack .binary64 b = .finite s m.toNat (-1074) hm) ∨
    ∃ (e : BitVec 11) (m : BitVec 52), ∃ hm, e ≠ 0#11 ∧ e ≠ -1#11 ∧ unpackExponent b = e ∧
      unpackMantissa b = m ∧
      unpack .binary64 b = .finite s (2 ^ 52 + m.toNat) (e.toNat - 1075) hm := by
  intro s
  rw [unpack_eq, ofFields]
  by_cases he : unpackExponent b = -1#11
  · by_cases hm : unpackMantissa b = 0#52
    · exact .inl ⟨he, hm, by rw [if_pos he, if_pos hm]⟩
    · exact .inr (.inl ⟨he, hm, by rw [if_pos he, if_neg hm]⟩)
  rw [if_neg he]
  by_cases he' : unpackExponent b = 0#11
  · rw [if_pos he']
    by_cases hm : unpackMantissa b = 0#52
    · exact .inr (.inr (.inl ⟨he', hm, dif_pos hm⟩))
    · refine .inr (.inr (.inr (.inl ⟨_, pos_subnormal hm, hm, he', rfl, ?_⟩)))
      rw [dif_neg hm]
      congr 1
      rw [he']
      rfl
  · refine .inr (.inr (.inr (.inr ⟨_, _, by omega, he', he, rfl, rfl, ?_⟩)))
    rw [if_neg he']
    congr 1
    exact toNat_normal _

/-- What is unpacked from a float is in the canonical form and not too large. -/
lemma canonical_unpack {s : Sign} {m : Nat} {e : Int} {hm : 0 < m}
    (h : unpack .binary64 b = .finite s m e hm) : Canonical m e ∧ m.log2 ≤ 52 ∧ e ≤ 971 := by
  rw [canonical_iff]
  rcases unpack_cases b with ⟨-, -, hu⟩ | ⟨-, -, hu⟩ | ⟨-, -, hu⟩ | ⟨m', _, hne, -, -, hu⟩ |
    ⟨e', m', _, h0, h1, -, -, hu⟩
  · cases hu.symm.trans h
  · cases hu.symm.trans h
  · cases hu.symm.trans h
  · obtain ⟨-, rfl, rfl⟩ := UnpackedFloat.finite.inj (hu.symm.trans h)
    have := log_subnormal hne
    omega
  · obtain ⟨-, rfl, rfl⟩ := UnpackedFloat.finite.inj (hu.symm.trans h)
    have := log_normal m'
    have := e'.isLt
    have : e'.toNat ≠ 2047 := fun h => h1 (BitVec.eq_of_toNat_eq h)
    have : e'.toNat ≠ 0 := fun h => h0 (BitVec.eq_of_toNat_eq h)
    omega

end

/-! ### Unpacking what was packed -/

section

variable {m : Nat} {e : Int} {s : Sign}

lemma ofBitVec_unpackSign (s : Sign) (x : BitVec 11) (y : BitVec 52) :
    Sign.ofBitVec (unpackSign (packComponents .binary64 s x y)) = s := by
  have hfirst : ∀ v : BitVec 1, (v ++ x ++ y).extractLsb' 63 1 = v := by
    intro v
    ext i hi
    obtain rfl : i = 0 := by omega
    rw [BitVec.getElem_extractLsb', BitVec.getLsbD_append, if_neg (by decide),
      BitVec.getLsbD_append, if_neg (by decide)]
    rfl
  refine (congrArg _ (hfirst s.toBitVec)).trans ?_
  cases s <;> rfl

lemma unpack_components (s : Sign) (x : BitVec 11) (y : BitVec 52) :
    unpack .binary64 (packComponents .binary64 s x y) = ofFields s x y := by
  rw [unpack_eq, unpackExponent_packComponents, unpackMantissa_packComponents, ofBitVec_unpackSign]

theorem unpack_pack {hm : 0 < m} (h : Canonical m e) (he : e ≤ 971) :
    unpack .binary64 (pack .binary64 (.finite s m e hm)) = .finite s m e hm := by
  rw [canonical_iff] at h
  have hlog : m.log2 = 52 ∧ -1074 ≤ e ∨ m.log2 < 52 ∧ e = -1074 := by omega
  rcases hlog with ⟨hl, hge⟩ | ⟨hl, rfl⟩
  · have hle : 2 ^ 52 ≤ m := (Nat.le_log2 hm.ne').1 hl.ge
    have hlt : m < 2 ^ 53 := (Nat.log2_lt hm.ne').1 (by omega)
    have hexp : (BitVec.ofNat 11 (e + 1075).toNat).toNat = (e + 1075).toNat := by
      rw [BitVec.toNat_ofNat, Nat.mod_eq_of_lt (by omega)]
    have h0 : BitVec.ofNat 11 (e + 1075).toNat ≠ 0#11 := by
      intro h
      have := congrArg BitVec.toNat h
      rw [hexp, BitVec.toNat_ofNat] at this
      omega
    have h1 : BitVec.ofNat 11 (e + 1075).toNat ≠ -1#11 := by
      intro h
      have := congrArg BitVec.toNat h
      rw [hexp] at this
      change _ = 2047 at this
      omega
    rw [pack_normal s hm hl he, unpack_components, ofFields, if_neg h1, if_neg h0]
    congr 1
    · rw [toNat_normal, BitVec.toNat_ofNat]
      omega
    · omega
  · have hlt : m < 2 ^ 52 := (Nat.log2_lt hm.ne').1 hl
    have hman : (BitVec.ofNat 52 m).toNat = m := by
      rw [BitVec.toNat_ofNat, Nat.mod_eq_of_lt hlt]
    have h0 : BitVec.ofNat 52 m ≠ 0#52 := by
      intro h
      have := congrArg BitVec.toNat h
      rw [hman] at this
      exact hm.ne' this
    have h1 : 0#11 ≠ -1#11 := by decide
    rw [pack_subnormal s hm hl, unpack_components, ofFields, if_neg h1, if_pos rfl, dif_neg h0]
    congr 1

lemma unpack_zero (s : Sign) : unpack .binary64 (pack .binary64 (.zero s)) = .zero s := by
  cases s <;> rfl

/-- The float has the sign `s` and is a number or infinite. -/
def Signed (s : Sign) : UnpackedFloat → Prop
  | .notANumber => False
  | .infinity t | .zero t | .finite t .. => t = s

lemma signed_infinity (s : Sign) : Signed s (unpack .binary64 (packedInfinity .binary64 s)) := by
  cases s <;> rfl

lemma signed_components {x : BitVec 11} (hx : x ≠ -1#11) (y : BitVec 52) :
    Signed s (unpack .binary64 (packComponents .binary64 s x y)) := by
  rw [unpack_components, ofFields, if_neg hx]
  by_cases h0 : x = 0#11
  · rw [if_pos h0]
    by_cases hm : y = 0#52
    · rw [dif_pos hm]
      rfl
    · rw [dif_neg hm]
      rfl
  · rw [if_neg h0]
    rfl

lemma signed_finish (s : Sign) (em : ExtendedMantissa) (e : Int) : Signed s (finish s em e) := by
  by_cases h : (shiftToTargetExponent .binary64 em.roundedMantissa e .exact).1.mantissa = 0
  · rw [finish, dif_pos h]
    rfl
  · rw [finish, dif_neg h]
    rfl

/-- Packing keeps the sign. -/
lemma signed_pack {u : UnpackedFloat} (h : Signed s u) :
    Signed s (unpack .binary64 (pack .binary64 u)) := by
  have h0 : 0#11 ≠ -1#11 := by decide
  cases u with
  | notANumber => cases h
  | infinity t =>
    obtain rfl : t = s := h
    exact signed_infinity t
  | zero t =>
    obtain rfl : t = s := h
    have hz : pack .binary64 (.zero t) = packComponents .binary64 t 0#11 0#52 := rfl
    rw [hz]
    exact signed_components h0 _
  | finite t m e hm =>
    obtain rfl : t = s := h
    rw [pack_finite]
    split
    · exact signed_infinity t
    · next hlt =>
      have h1 : BitVec.ofNat 11 (e + 1023 + 52).toNat ≠ -1#11 := by
        intro h
        have := congrArg BitVec.toNat h
        rw [BitVec.toNat_ofNat, Nat.mod_eq_of_lt (by omega)] at this
        change _ = 2047 at this
        omega
      split
      · exact signed_components h1 _
      · exact signed_components h0 _

/-- The bits of a float are those of its sign, its exponent and its mantissa. -/
lemma packComponents_unpack (b : BitVec Format.binary64.numBits) :
    packComponents .binary64 (.ofBitVec (unpackSign b)) (unpackExponent b) (unpackMantissa b) =
      b := by
  have hsign : (Sign.ofBitVec (unpackSign b)).toBitVec = unpackSign b := by
    generalize unpackSign b = v
    decide +revert
  have hfields : ∀ b : BitVec 64,
      b.extractLsb' 63 1 ++ b.extractLsb' 52 11 ++ b.extractLsb' 0 52 = b := by
    intro b
    have hupper : 63 = 52 + 11 := rfl
    have hlower : 52 = 0 + 52 := rfl
    rw [BitVec.extractLsb'_append_extractLsb'_eq_extractLsb' hupper,
      BitVec.extractLsb'_append_extractLsb'_eq_extractLsb' hlower]
    exact BitVec.extractLsb'_eq_self
  rw [packComponents, hsign]
  exact hfields b

/-- Bits that stand for a float are packed from what they are unpacked to. -/
theorem pack_unpack {b : BitVec Format.binary64.numBits} (hb : Format.binary64.Valid b) :
    pack .binary64 (unpack .binary64 b) = b := by
  have hbits := packComponents_unpack b
  rcases unpack_cases b with ⟨he, hm, hu⟩ | ⟨he, hm, hu⟩ | ⟨he, hm, hu⟩ | ⟨m, _, hne, he, hm, hu⟩ |
    ⟨e, m, _, h0, h1, he, hm, hu⟩
  · rw [he, hm] at hbits
    rwa [hu]
  · rw [hu]
    exact (hb.eq_packedNaN he hm).symm
  · rw [he, hm] at hbits
    rwa [hu]
  · rw [he, hm] at hbits
    rw [hu, pack_subnormal _ _ (log_subnormal hne), BitVec.ofNat_toNat, BitVec.setWidth_eq]
    exact hbits
  · have hle : (e.toNat : Int) - 1075 ≤ 971 := by
      have := e.isLt
      have : e.toNat ≠ 2047 := fun h => h1 (BitVec.eq_of_toNat_eq h)
      omega
    have hman : BitVec.ofNat 52 (2 ^ 52 + m.toNat) = m := by
      refine BitVec.eq_of_toNat_eq ?_
      rw [BitVec.toNat_ofNat, Nat.add_mod_left, Nat.mod_eq_of_lt m.isLt]
    rw [he, hm] at hbits
    rw [hu, pack_normal _ _ (log_normal m) hle, hman, Int.sub_add_cancel, Int.toNat_natCast,
      BitVec.ofNat_toNat, BitVec.setWidth_eq]
    exact hbits

/-- A float is known by its bits. -/
lemma model_eq {x y : Float.Model} (h : x.toBits.toBitVec = y.toBits.toBitVec) : x = y := by
  obtain ⟨⟨b⟩, hb⟩ := x
  obtain ⟨⟨c⟩, hc⟩ := y
  obtain rfl : b = c := h
  rfl

lemma pack_congr {u v : UnpackedFloat}
    (h : UnpackedFloat.pack .binary64 u = UnpackedFloat.pack .binary64 v) :
    Float.Model.pack u = Float.Model.pack v :=
  model_eq h

/-- A float is known by what it is unpacked to. -/
lemma float_eq {x : Float} {u : UnpackedFloat} (h : x.toModel.unpack = u) :
    .ofModel (.pack u) = x := by
  obtain ⟨x⟩ := x
  subst h
  exact congrArg Float.ofModel (model_eq (pack_unpack x.valid))

end

/-! ### The other sign -/

lemma unpack_infinity (s : Sign) :
    unpack .binary64 (pack .binary64 (.infinity s)) = .infinity s := by
  cases s <;> rfl

lemma unpack_neg (x : Float) : (-x).toModel.unpack = x.toModel.unpack.neg := by
  change unpack .binary64 (pack .binary64 x.toModel.unpack.neg) = x.toModel.unpack.neg
  cases hu : x.toModel.unpack with
  | notANumber => rfl
  | infinity s => exact unpack_infinity (-s)
  | zero s => exact unpack_zero (-s)
  | finite s m e hm =>
    obtain ⟨hc, -, he⟩ := canonical_unpack hu
    exact unpack_pack hc he

lemma float_neg_neg (x : Float) : - -x = x := by
  have hneg : (-x).toModel.unpack.neg = x.toModel.unpack := by
    rw [unpack_neg]
    rcases x.toModel.unpack with s | _ | s | ⟨s, m, e, hm⟩ <;> first | rfl | (cases s <;> rfl)
  change Float.ofModel (.pack (-x).toModel.unpack.neg) = x
  rw [hneg]
  exact float_eq rfl

lemma float_abs_neg (x : Float) : (-x).abs = x.abs := by
  change Float.ofModel (.pack (-x).toModel.unpack.abs) = Float.ofModel (.pack x.toModel.unpack.abs)
  rw [unpack_neg]
  rcases x.toModel.unpack with s | _ | s | ⟨s, m, e, hm⟩ <;> rfl

lemma isNaN_neg (x : Float) : (-x).isNaN = x.isNaN := by
  change (-x).toModel.unpack.isNaN = x.toModel.unpack.isNaN
  rw [unpack_neg]
  rcases x.toModel.unpack with s | _ | s | ⟨s, m, e, hm⟩ <;> rfl

lemma isInf_neg (x : Float) : (-x).isInf = x.isInf := by
  change (-x).toModel.unpack.isInf = x.toModel.unpack.isInf
  rw [unpack_neg]
  rcases x.toModel.unpack with s | _ | s | ⟨s, m, e, hm⟩ <;> rfl

lemma signed_neg {u : UnpackedFloat} (h : Signed .negative u) : Signed .positive u.neg := by
  rcases u with s | _ | s | ⟨s, m, e, hm⟩ <;> cases h <;> rfl

end Reckon.Rounding
