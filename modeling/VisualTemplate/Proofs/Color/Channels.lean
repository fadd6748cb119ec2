import VisualTemplate.Color
import VisualTemplate.Proofs.Decimal.Single
/-!
Bytes from numbers, and the share that alpha is written as.

A byte of alpha is written as a share in thousandths. Five rounded operations lie between the byte
and what is read back, and together with the thousandths they move it by little more than a quarter
of the step from one byte to the next. So the nearest byte is the same again.
-/

namespace VisualTemplate

open Decimal Float32

namespace Color

/-! ### Channels -/

variable {p : Float32} {x : ℚ}

lemma is_zero : (0 : Float32).Is 0 := .zero .positive

lemma is_one : (1 : Float32).Is 1 := is_of_unpack (2 ^ 23) (-23) (by norm_num) rfl (by norm_num)

lemma is_255 : (255 : Float32).Is 255 :=
  is_of_unpack (255 * 2 ^ 16) (-16) (by norm_num) rfl (by norm_num)

lemma is_1000 : (1000 : Float32).Is 1000 :=
  is_of_unpack (1000 * 2 ^ 14) (-14) (by norm_num) rfl (by norm_num)

/-- The nearest byte to a number that is not negative. -/
lemma toNat_channel (hp : p.Is x) : (channel p).toNat = nearestWhole (min x 255) := by
  have hclamped := clamped_of_is is_zero is_255 (by norm_num) hp
  have hx : 0 ≤ min x 255 := le_min (Has.nonneg hp) (by norm_num)
  rw [max_eq_right hx] at hclamped
  have hword := toNat_nearestWord hclamped ((min_le_right x 255).trans_lt (by norm_num))
  have hbyte : nearestWhole (min x 255) ≤ 255 :=
    nearestWhole_le_natCast hx (mod_cast min_le_right x 255)
  show (p.clamped 0 255).nearestWord.toNat % 256 = _
  rw [hword]
  omega

/-- The byte of a share. -/
lemma toNat_share (hp : p.Is x) (hx : x ≤ 1) :
    (share p).toNat = nearestWhole (rounded (x * 255)) := by
  have hx' := Has.nonneg hp
  have hclamped := clamped_of_is is_zero is_one (by norm_num) hp
  rw [min_eq_left hx, max_eq_right hx'] at hclamped
  have hmost : rounded (x * 255) ≤ (255 : ℕ) := by
    refine rounded_le_natCast (by norm_num) (by positivity) ?_
    push_cast
    linarith
  have hproduct := hclamped.mul is_255 (hmost.trans_lt (by norm_num))
  have hword := toNat_nearestWord hproduct (hmost.trans_lt (by norm_num))
  have hbyte := nearestWhole_le_natCast (rounded_nonneg _) hmost
  show ((p.clamped 0 1) * 255).nearestWord.toNat % 256 = _
  rw [hword]
  omega

/-! ### Alpha -/

/-- Alpha in thousandths. -/
def nearestThousandths (a : ℕ) : ℕ := nearestWhole (rounded (rounded (a / 255) * 1000))

section

variable {a : ℕ} (ha : a ≤ 255)

include ha

lemma div_255_le : (a : ℚ) / 255 ≤ 1 := by
  rw [div_le_one (by norm_num)]
  exact mod_cast ha

lemma rounded_div_255_le : rounded (a / 255) ≤ 1 := by
  have hle := rounded_le_natCast (n := 1) (by norm_num) (by positivity) (mod_cast div_255_le ha)
  exact mod_cast hle

lemma rounded_mul_1000_le : rounded (rounded (a / 255) * 1000) ≤ (1000 : ℕ) := by
  have hshare := rounded_div_255_le ha
  refine rounded_le_natCast (by norm_num) (mul_nonneg (rounded_nonneg _) (by norm_num)) ?_
  push_cast
  linarith

lemma nearestThousandths_le : nearestThousandths a ≤ 1000 :=
  nearestWhole_le_natCast (rounded_nonneg _) (rounded_mul_1000_le ha)

lemma nearestThousandths_div_le : (nearestThousandths a : ℚ) / 1000 ≤ 1 := by
  rw [div_le_one (by norm_num)]
  exact mod_cast nearestThousandths_le ha

lemma rounded_nearestThousandths_le : rounded (nearestThousandths a / 1000) ≤ 1 := by
  have hle := rounded_le_natCast (n := 1) (by norm_num) (by positivity)
    (mod_cast nearestThousandths_div_le ha)
  exact mod_cast hle

/-- The thousandths are less than a third of a byte's step away from the share. -/
lemma abs_nearestThousandths_sub_le : |(nearestThousandths a : ℚ) - a / 255 * 1000| ≤ 11 / 10 := by
  have hshare := abs_rounded_sub_le (x := a / 255) (k := -23) (by norm_num) (by positivity)
    ((div_255_le ha).trans_lt (by norm_num))
  have hmost : rounded (a / 255) * 1000 < 2 ^ (24 + -14 : ℤ) := by
    norm_num
    linarith [rounded_div_255_le ha]
  have hscaled := abs_rounded_sub_le (by norm_num) (mul_nonneg (rounded_nonneg _) (by norm_num))
    hmost
  have hwhole := abs_nearestWhole_sub_le (rounded_nonneg (rounded (a / 255) * 1000))
  rw [← nearestThousandths] at hwhole
  rw [abs_le] at hshare hscaled hwhole ⊢
  norm_num at hshare hscaled
  constructor <;> linarith

/-- **Thousandths are enough to tell 256 shares apart.** -/
lemma nearestWhole_nearestThousandths :
    nearestWhole (rounded (rounded (nearestThousandths a / 1000) * 255)) = a := by
  have hshare := abs_rounded_sub_le (x := nearestThousandths a / 1000) (k := -23) (by norm_num)
    (by positivity) ((nearestThousandths_div_le ha).trans_lt (by norm_num))
  have hmost : rounded (nearestThousandths a / 1000) * 255 < 2 ^ (24 + -16 : ℤ) := by
    norm_num
    linarith [rounded_nearestThousandths_le ha]
  have hscaled := abs_rounded_sub_le (by norm_num) (mul_nonneg (rounded_nonneg _) (by norm_num))
    hmost
  have hnear := abs_nearestThousandths_sub_le ha
  refine nearestWhole_eq (rounded_nonneg _) ?_
  rw [abs_le] at hshare hscaled hnear ⊢
  norm_num at hshare hscaled
  constructor <;> linarith

end

/-- The share that a normal form writes is that of the thousandths. -/
lemma is_alphaShare (a : UInt8) :
    (alphaShare a).Is (rounded (nearestThousandths a.toNat / 1000)) := by
  have ha : a.toNat ≤ 255 := Nat.le_of_lt_succ a.toNat_lt
  have hshare := (Is.byte a).div is_255 (by norm_num)
    ((rounded_div_255_le ha).trans_lt (by norm_num))
  have hmost := rounded_mul_1000_le ha
  have hscaled := hshare.mul is_1000 (hmost.trans_lt (by norm_num))
  have hword := toNat_nearestWord hscaled (hmost.trans_lt (by norm_num))
  have hle := nearestThousandths_le ha
  have hsmall : (nearestThousandths a.toNat : ℚ) ≤ 1000 := mod_cast hle
  have hwhole := Is.toFloat32 (a.toFloat32 / 255 * 1000).nearestWord
  rw [hword, ← nearestThousandths, rounded_natCast (by omega)] at hwhole
  exact (hwhole (hsmall.trans_lt (by norm_num))).div is_1000 (by norm_num)
    ((rounded_nearestThousandths_le ha).trans_lt (by norm_num))

/-- The byte of alpha comes back from its share. -/
theorem share_alphaShare (a : UInt8) : share (alphaShare a) = a := by
  have ha : a.toNat ≤ 255 := Nat.le_of_lt_succ a.toNat_lt
  refine UInt8.toNat_inj.1 ?_
  rw [toNat_share (is_alphaShare a) (rounded_nearestThousandths_le ha),
    nearestWhole_nearestThousandths ha]

end Color

end VisualTemplate
