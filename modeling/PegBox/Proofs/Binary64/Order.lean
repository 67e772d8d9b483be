/-
**The order of doubles is that of the extended numbers.**

A double that is a number at all stands for a rational number or for an infinity, and these are in
one order: the machine compares doubles as the extended numbers are compared.  An operation on
numbers brings its exact result to the nearest double or to the infinity on its side, and an
infinity that meets a further operation is kept as it is.  Each of these steps keeps the order, and
so does the truncation to a word; an overflow is then no case of its own in a statement about order.

Main definitions:

* `PegBox.Binary64.value?` — **the extended number that a double stands for**;
* `PegBox.Binary64.rounding` — the extended number that a result is rounded to;
* `PegBox.Binary64.carry` — an operation on numbers, with the infinities kept as they are;
* `PegBox.Binary64.dropFraction`, `PegBox.Binary64.wholeWord` — the word of an extended number.

Main results:

* `PegBox.Binary64.le_iff_value?` — **the order of doubles**, where they may be infinite;
* `PegBox.Binary64.rounding_mono`, `PegBox.Binary64.carry_le_carry` — rounding and carrying keep the
  order;
* `PegBox.Binary64.truncate_eq_wholeWord` — **the truncation of a double** is the word of what it
  stands for;
* `PegBox.Binary64.truncate_mono` — truncation keeps the order.
-/

import Mathlib.Order.WithBotTop
import PegBox.Proofs.Binary64.Extended

set_option autoImplicit false

namespace PegBox.Binary64

open Float.Model Float.Model.UnpackedFloat

variable {x y : Float} {p q : ℚ} {a b : WithBotTop ℚ}

/-! ### Extended numbers -/

/-- The infinity on a side. -/
def infiniteValue (negative : Bool) : WithBotTop ℚ := if negative then ⊥ else ⊤

/-- The extended number that a reading stands for, if it stands for one. -/
def Decoded.value? : Decoded → Option (WithBotTop ℚ)
  | .nan => none
  | .infinite negative => some (infiniteValue negative)
  | .finite negative significand exponent =>
    some ((signed negative * (significand * 2 ^ exponent) : ℚ) : WithBotTop ℚ)

/-- **The extended number that a double stands for**, if it stands for one. -/
def value? (x : Float) : Option (WithBotTop ℚ) := (decode x).value?

theorem value?_of_number? (h : number? x = some q) : value? x = some (q : WithBotTop ℚ) := by
  obtain ⟨negative, significand, exponent, hx, rfl⟩ := exists_decode_of_number? h
  rw [value?, hx, Decoded.value?]

theorem value?_of_infinite {negative : Bool} (h : decode x = .infinite negative) :
    value? x = some (infiniteValue negative) := by
  rw [value?, h, Decoded.value?]

theorem value?_of_nan (h : decode x = .nan) : value? x = none := by
  rw [value?, h, Decoded.value?]

/-- A double is not a number, or an infinity, or a number. -/
theorem decode_cases (x : Float) :
    decode x = .nan ∨ (∃ negative, decode x = .infinite negative) ∨ ∃ q, number? x = some q := by
  cases hx : decode x with
  | nan => exact .inl rfl
  | infinite negative => exact .inr (.inl ⟨negative, rfl⟩)
  | finite negative significand exponent => exact .inr (.inr ⟨_, number?_of_decode hx⟩)

theorem exists_value?_of_not_nan (h : decode x ≠ .nan) : ∃ a, value? x = some a := by
  obtain hnan | ⟨negative, hinfinite⟩ | ⟨q, hq⟩ := decode_cases x
  · exact absurd hnan h
  · exact ⟨_, value?_of_infinite hinfinite⟩
  · exact ⟨_, value?_of_number? hq⟩

/-! ### The order -/

/-- What an operation sees of a double that is not a number. -/
theorem unpack_of_nan (h : decode x = .nan) : x.toModel.unpack = .notANumber := by
  rw [decode_eq_readUnpacked] at h
  cases hx : x.toModel.unpack <;> simp [hx, readUnpacked] at h ⊢

/-- What is not a number has no place in the order. -/
theorem not_le_of_nan (h : decode x = .nan ∨ decode y = .nan) : ¬ x ≤ y := by
  rw [le_iff_compare]
  rcases h with hx | hy
  · rw [unpack_of_nan hx]
    exact Bool.false_ne_true
  · rw [unpack_of_nan hy]
    cases x.toModel.unpack <;> exact Bool.false_ne_true

theorem infinite_le_iff {negative : Bool} (hx : decode x = .infinite negative)
    (hy : value? y = some b) : x ≤ y ↔ infiniteValue negative ≤ b := by
  obtain ⟨s, hux, rfl⟩ := unpack_of_infinite hx
  rw [le_iff_compare, hux]
  obtain hnan | ⟨negative', hinfinite⟩ | ⟨q, hq⟩ := decode_cases y
  · rw [value?_of_nan hnan] at hy
    cases hy
  · rw [value?_of_infinite hinfinite, Option.some_inj] at hy
    obtain ⟨t, huy, rfl⟩ := unpack_of_infinite hinfinite
    rw [huy, ← hy]
    cases s <;> cases t <;> decide
  · rw [value?_of_number? hq, Option.some_inj] at hy
    obtain ⟨t, huy, -⟩ | ⟨t, n, f, hn, huy, -⟩ := unpack_of_number? hq <;>
      rw [huy, ← hy] <;>
      cases s <;>
      simp [UnpackedFloat.compare, infiniteValue, isNegative]

theorem number_le_infinite_iff {negative : Bool} (hx : number? x = some p)
    (hy : decode y = .infinite negative) :
    x ≤ y ↔ (p : WithBotTop ℚ) ≤ infiniteValue negative := by
  obtain ⟨t, huy, rfl⟩ := unpack_of_infinite hy
  rw [le_iff_compare, huy]
  obtain ⟨s, hux, -⟩ | ⟨s, m, e, hm, hux, -⟩ := unpack_of_number? hx <;>
    rw [hux] <;>
    cases t <;>
    simp [UnpackedFloat.compare, infiniteValue, isNegative]

/-- The machine compares doubles as the extended numbers that they stand for. -/
theorem le_iff_of_value? (hx : value? x = some a) (hy : value? y = some b) : x ≤ y ↔ a ≤ b := by
  obtain hnan | ⟨negative, hinfinite⟩ | ⟨p, hp⟩ := decode_cases x
  · rw [value?_of_nan hnan] at hx
    cases hx
  · rw [value?_of_infinite hinfinite, Option.some_inj] at hx
    rw [infinite_le_iff hinfinite hy, hx]
  · rw [value?_of_number? hp, Option.some_inj] at hx
    obtain hnan | ⟨negative, hinfinite⟩ | ⟨q, hq⟩ := decode_cases y
    · rw [value?_of_nan hnan] at hy
      cases hy
    · rw [value?_of_infinite hinfinite, Option.some_inj] at hy
      rw [number_le_infinite_iff hp hinfinite, hx, hy]
    · rw [value?_of_number? hq, Option.some_inj] at hy
      rw [le_iff hp hq, ← hx, ← hy, WithBotTop.coe_le_coe]

/-- **The order of doubles** is that of the extended numbers; what is not a number is outside. -/
theorem le_iff_value? :
    x ≤ y ↔ ∃ a b, value? x = some a ∧ value? y = some b ∧ a ≤ b := by
  constructor
  · intro hle
    obtain ⟨a, ha⟩ : ∃ a, value? x = some a :=
      exists_value?_of_not_nan fun hnan => not_le_of_nan (.inl hnan) hle
    obtain ⟨b, hb⟩ : ∃ b, value? y = some b :=
      exists_value?_of_not_nan fun hnan => not_le_of_nan (.inr hnan) hle
    exact ⟨a, b, ha, hb, (le_iff_of_value? ha hb).1 hle⟩
  · rintro ⟨a, b, ha, hb, hab⟩
    exact (le_iff_of_value? ha hb).2 hab

/-! ### Rounding -/

/-- The extended number that a result is rounded to: the nearest double, or the infinity on the side
of the result where the nearest one would be beyond every double. -/
def rounding (q : ℚ) : WithBotTop ℚ :=
  if |nearest q| < 2 ^ 1024 then (nearest q : WithBotTop ℚ) else infiniteValue (decide (q < 0))

theorem rounding_of_small (h : |nearest q| < 2 ^ 1024) : rounding q = (nearest q : WithBotTop ℚ) :=
  if_pos h

theorem rounding_of_large (h : 2 ^ 1024 ≤ |nearest q|) :
    rounding q = infiniteValue (decide (q < 0)) :=
  if_neg h.not_gt

theorem Rounded.value?_eq (h : Rounded x q) : value? x = some (rounding q) := by
  rw [Rounded] at h
  rw [rounding]
  split at h
  · next hsmall => rw [if_pos hsmall, value?_of_number? h]
  · next hlarge => rw [if_neg hlarge, value?_of_infinite h]

theorem rounding_eq_top (h : 2 ^ 1024 ≤ nearest q) : rounding q = ⊤ := by
  have hpos : 0 < nearest q := (by positivity : (0 : ℚ) < 2 ^ 1024).trans_le h
  have hside : ¬ q < 0 := by
    intro hneg
    have hmono := nearest_mono hneg.le
    rw [nearest_zero] at hmono
    exact hmono.not_gt hpos
  rw [rounding_of_large (h.trans (le_abs_self _)), decide_eq_false hside]
  rfl

theorem rounding_eq_bot (h : nearest q ≤ -2 ^ 1024) : rounding q = ⊥ := by
  have hneg : nearest q < 0 := h.trans_lt (neg_neg_of_pos (by positivity))
  have hside : q < 0 := by
    by_contra hnonneg
    exact (nearest_nonneg (not_lt.1 hnonneg)).not_gt hneg
  rw [rounding_of_large (by rw [abs_of_neg hneg]; exact le_neg_of_le_neg h), decide_eq_true hside]
  rfl

/-- Rounding keeps the order, also where it overflows. -/
theorem rounding_mono : Monotone rounding := by
  intro p q hpq
  have hnearest := nearest_mono hpq
  rcases le_or_gt (nearest p) (-2 ^ 1024) with hbelow | hlow
  · rw [rounding_eq_bot hbelow]
    exact bot_le
  · rcases lt_or_ge (nearest q) (2 ^ 1024) with hhigh | habove
    · rw [rounding_of_small (abs_lt.2 ⟨hlow, hnearest.trans_lt hhigh⟩),
        rounding_of_small (abs_lt.2 ⟨hlow.trans_le hnearest, hhigh⟩), WithBotTop.coe_le_coe]
      exact hnearest
    · rw [rounding_eq_top habove]
      exact le_top

/-! ### Operations after an overflow -/

/-- An operation on numbers, with the infinities kept as they are. -/
def carry (f : ℚ → WithBotTop ℚ) : WithBotTop ℚ → WithBotTop ℚ
  | ⊥ => ⊥
  | (q : ℚ) => f q
  | ⊤ => ⊤

theorem carry_number (f : ℚ → WithBotTop ℚ) (q : ℚ) : carry f q = f q := rfl

theorem carry_infiniteValue (f : ℚ → WithBotTop ℚ) (negative : Bool) :
    carry f (infiniteValue negative) = infiniteValue negative := by
  cases negative <;> rfl

/-- An operation that keeps the order of numbers keeps that of extended numbers, and one that is
larger on numbers is larger on these. -/
theorem carry_le_carry {f g : ℚ → WithBotTop ℚ} (hmono : Monotone f) (hle : ∀ q, f q ≤ g q)
    (h : a ≤ b) : carry f a ≤ carry g b := by
  induction a using WithBotTop.rec with
  | bot => exact bot_le
  | coe p =>
      induction b using WithBotTop.rec with
      | bot =>
          rw [le_bot_iff] at h
          exact absurd h (WithBotTop.coe_ne_bot p)
      | coe q =>
          rw [WithBotTop.coe_le_coe] at h
          exact (hmono h).trans (hle q)
      | top => exact le_top
  | top =>
      rw [top_le_iff] at h
      rw [h]
      exact le_top

/-! ### Truncation -/

/-- A number without its fraction, which is dropped toward zero. -/
def dropFraction (q : ℚ) : ℤ := if 0 ≤ q then ⌊q⌋ else ⌈q⌉

/-- The word of an extended number: its fraction is dropped, and what lies beyond the signed 64-bit
words becomes the outermost word on its side. -/
def wholeWord : WithBotTop ℚ → ℤ
  | ⊥ => minWord
  | (q : ℚ) => clampToWord (dropFraction q)
  | ⊤ => maxWord

theorem wholeWord_number (q : ℚ) :
    wholeWord (q : WithBotTop ℚ) = clampToWord (dropFraction q) := rfl

/-- The extended number that a double stands for; what is not a number counts as zero. -/
def valueOrZero (x : Float) : WithBotTop ℚ := (value? x).getD (0 : ℚ)

theorem valueOrZero_of_value? (h : value? x = some a) : valueOrZero x = a := by
  rw [valueOrZero, h, Option.getD_some]

/-- **The truncation of a double** is the word of what it stands for. -/
theorem truncate_eq_wholeWord (x : Float) : truncate x = wholeWord (valueOrZero x) := by
  obtain hnan | ⟨negative, hinfinite⟩ | ⟨q, hq⟩ := decode_cases x
  · rw [truncate, hnan, valueOrZero, value?_of_nan hnan]
    rfl
  · rw [truncate, hinfinite, valueOrZero_of_value? (value?_of_infinite hinfinite)]
    cases negative <;> rfl
  · rw [truncate_of_number? hq, valueOrZero_of_value? (value?_of_number? hq)]
    rfl

theorem dropFraction_mono : Monotone dropFraction := by
  intro p q hpq
  unfold dropFraction
  split
  · next hp =>
    rw [if_pos (hp.trans hpq)]
    exact Int.floor_le_floor hpq
  · next hp =>
    split
    · next hq =>
      -- zero lies between the two
      have hp' : ⌈p⌉ ≤ 0 := Int.ceil_le.2 (by exact_mod_cast (not_le.1 hp).le)
      exact hp'.trans (Int.floor_nonneg.2 hq)
    · exact Int.ceil_le_ceil hpq

theorem clampToWord_mono : Monotone clampToWord := by
  intro m n hmn
  unfold clampToWord
  gcongr

theorem wholeWord_mem_range (a : WithBotTop ℚ) : minWord ≤ wholeWord a ∧ wholeWord a ≤ maxWord := by
  induction a using WithBotTop.rec with
  | bot => exact ⟨le_rfl, by decide⟩
  | coe q => exact clampToWord_mem_range _
  | top => exact ⟨by decide, le_rfl⟩

theorem wholeWord_mono : Monotone wholeWord := by
  intro a b hab
  induction a using WithBotTop.rec with
  | bot => exact (wholeWord_mem_range b).1
  | coe p =>
      induction b using WithBotTop.rec with
      | bot => exact absurd (le_bot_iff.1 hab) (WithBotTop.coe_ne_bot p)
      | coe q => exact clampToWord_mono (dropFraction_mono (WithBotTop.coe_le_coe.1 hab))
      | top => exact (wholeWord_mem_range p).2
  | top => rw [top_le_iff.1 hab]

/-- Truncation keeps the order. -/
theorem truncate_mono (h : x ≤ y) : truncate x ≤ truncate y := by
  obtain ⟨a, b, ha, hb, hab⟩ := le_iff_value?.1 h
  rw [truncate_eq_wholeWord, truncate_eq_wholeWord, valueOrZero_of_value? ha,
    valueOrZero_of_value? hb]
  exact wholeWord_mono hab

end PegBox.Binary64
