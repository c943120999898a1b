import SqlPreview.Proofs.Json.Denotation
import SqlPreview.Proofs.Number.Truncation
import SqlPreview.Proofs.Params.Coercion

/-!
# Numbers that are narrowed

A JSON number loses its fraction where an integer is declared, and its upper bits where the declared
width has no room for them. In between, the integer part of a floating number is brought into 128
bits, which a number can be too large for.

This file defines the width of the integral kinds (`ScalarKind.width?`) and the bits of a value of
fixed width (`Value.word?`).

Results:
1. `Scalar.integral?_number`: the integer that a JSON number counts as.
2. `narrowed_iff`: the lowest bits of the integer part are kept, unless it is `2 ^ 127` or more.
3. `huge_number_saturates`: then all bits are ones.
-/

namespace SqlPreview

open Number (Format Floating towardZero)

/-! ## Words -/

/-- The width in bits of the kinds that keep as many of an integer. -/
def ScalarKind.width? : ScalarKind → Option ℕ
  | .byte => some 8
  | .short => some 16
  | .int => some 32
  | .long => some 64
  | _ => none

/-- The width in bits of a value of fixed width, and the integer that the bits represent in two's
complement. -/
def Value.word? : Value → Option (ℕ × ℤ)
  | .byte n => some (8, n.toInt)
  | .short n => some (16, n.toInt)
  | .int n => some (32, n.toInt)
  | .long n => some (64, n.toInt)
  | _ => none

theorem ScalarKind.width?_dvd {kind : ScalarKind} {width : ℕ} (fixed : kind.width? = some width) :
    (2 : ℤ) ^ width ∣ 2 ^ 64 ∧ 1 < width := by
  cases kind with
  | byte | short | int | long =>
    cases fixed
    exact ⟨pow_dvd_pow 2 (by decide), by decide⟩
  | _ => cases fixed

namespace Scalar

/-- Where JSON has an integer, every kind of fixed width keeps its last bits. -/
theorem word?_of_integral? {json : Json} {n : ℤ} (found : integral? json = some n)
    {kind : ScalarKind} {width : ℕ} (fixed : kind.width? = some width) (info : Option ClassInfo) :
    ∃ value, read? json kind info = some value ∧ value.word? = some (width, n.bmod (2 ^ width)) := by
  cases kind with
  | byte =>
    cases fixed
    exact ⟨_, by rw [read?, found, Option.map_some], congrArg _ (congrArg _ Int8.toInt_ofInt)⟩
  | short =>
    cases fixed
    exact ⟨_, by rw [read?, found, Option.map_some], congrArg _ (congrArg _ Int16.toInt_ofInt)⟩
  | int =>
    cases fixed
    exact ⟨_, by rw [read?, found, Option.map_some], congrArg _ (congrArg _ Int32.toInt_ofInt)⟩
  | long =>
    cases fixed
    exact ⟨_, by rw [read?, found, Option.map_some], congrArg _ (congrArg _ Int64.toInt_ofInt)⟩
  | _ => cases fixed

/-! ## Integer parts in 128 bits -/

theorem clampBig_eq (n : ℤ) : clampBig n = max (-2 ^ 127) (min (2 ^ 127 - 1) n) := rfl

/-- A JSON number counts as its integer part, brought into 128 bits. Integers have room there. -/
theorem integral?_number {n : JsonNumber} {q : ℚ} (denotes : n.Denotes q) :
    integral? (.number n) = some (clampBig (towardZero q)) := by
  cases denotes with
  | @integer n least most =>
    have room : clampBig n = n := by
      rw [clampBig_eq]
      omega
    rw [Number.towardZero_intCast, room, integral?]
  | floating => rw [integral?, Floating.truncate?_finite, Option.map_some]

/-- An integer part that 128 bits have no room for has zeros as its last bits. -/
theorem two_pow_dvd_of_large {n : JsonNumber} {q : ℚ} (denotes : n.Denotes q)
    (large : 2 ^ 127 ≤ |towardZero q|) : 2 ^ 64 ∣ towardZero q := by
  cases denotes with
  | integer least most =>
    rw [Number.towardZero_intCast] at large
    rcases le_abs.1 large with above | below <;> omega
  | floating isOf =>
    refine Format.two_pow_dvd_towardZero isOf.has (le_trans ?_ large)
    exact pow_le_pow_right₀ (by norm_num) (by decide)

/-- Below `2 ^ 127` the bounds change no bit that is kept. -/
theorem bmod_clampBig {n : JsonNumber} {q : ℚ} (denotes : n.Denotes q) {width : ℕ}
    (narrow : (2 : ℤ) ^ width ∣ 2 ^ 64) (small : towardZero q < 2 ^ 127) :
    (clampBig (towardZero q)).bmod (2 ^ width) = (towardZero q).bmod (2 ^ width) := by
  rcases le_or_gt (-2 ^ 127) (towardZero q) with room | below
  · rw [clampBig_eq]
    congr 1
    omega
  · have bound : clampBig (towardZero q) = -2 ^ 127 := by
      rw [clampBig_eq]
      omega
    have zeros : (2 : ℤ) ^ 64 ∣ towardZero q :=
      two_pow_dvd_of_large denotes (le_abs.2 (.inr (by omega)))
    have least : (2 : ℤ) ^ 64 ∣ -2 ^ 127 := (pow_dvd_pow 2 (by decide)).neg_right
    have kept {k : ℤ} (dvd : (2 : ℤ) ^ 64 ∣ k) : k.bmod (2 ^ width) = 0 :=
      Int.dvd_iff_bmod_eq_zero.1 (by exact_mod_cast narrow.trans dvd)
    rw [bound, kept least, kept zeros]

/-- From `2 ^ 127` on all bits that are kept are ones, where the number has zeros. -/
theorem bmod_clampBig_of_large {n : JsonNumber} {q : ℚ} (denotes : n.Denotes q) {width : ℕ}
    (narrow : (2 : ℤ) ^ width ∣ 2 ^ 64) (more : 1 < width) (large : 2 ^ 127 ≤ towardZero q) :
    (clampBig (towardZero q)).bmod (2 ^ width) = -1 ∧ (towardZero q).bmod (2 ^ width) = 0 := by
  constructor
  · have bound : clampBig (towardZero q) = -1 + 2 ^ 127 := by
      rw [clampBig_eq]
      omega
    obtain ⟨k, multiple⟩ : (2 : ℤ) ^ width ∣ 2 ^ 127 := narrow.trans (pow_dvd_pow 2 (by decide))
    have wide : (2 : ℤ) < 2 ^ width := by
      calc (2 : ℤ) = 2 ^ 1 := (pow_one 2).symm
        _ < 2 ^ width := pow_lt_pow_right₀ (by norm_num) more
    rw [bound, multiple]
    have := Int.add_mul_bmod_self_left (-1) (2 ^ width) k
    push_cast at this
    rw [this]
    exact Int.bmod_eq_of_le (by push_cast; omega) (by push_cast; omega)
  · have zeros := two_pow_dvd_of_large denotes (large.trans (le_abs_self _))
    exact Int.dvd_iff_bmod_eq_zero.1 (by exact_mod_cast narrow.trans zeros)

end Scalar

/-! ## Numbers read at integral types -/

/-- A JSON number at an integral type of fixed width is the representative in two's complement of its
integer part, if and only if that is below `2 ^ 127`; else it is minus one. At the type of integers
of 128 bits it is its integer part if there is room for it, and else the bound in its place. -/
theorem narrowed_iff {n : JsonNumber} {q : ℚ} (denotes : n.Denotes q) (table : ClassTable)
    {type : TypeRef} {kind : ScalarKind} (scalar : type.category table = .scalar kind) :
    (∀ width, kind.width? = some width →
      ((coerce table (.number n) (some type)).word? =
          some (width, (towardZero q).bmod (2 ^ width)) ↔ towardZero q < 2 ^ 127) ∧
      (2 ^ 127 ≤ towardZero q →
        (coerce table (.number n) (some type)).word? = some (width, -1))) ∧
    (kind = .bigInteger →
      (coerce table (.number n) (some type) = .bigInteger (towardZero q) ↔
        -2 ^ 127 ≤ towardZero q ∧ towardZero q < 2 ^ 127) ∧
      coerce table (.number n) (some type) =
        .bigInteger (max (-2 ^ 127) (min (2 ^ 127 - 1) (towardZero q)))) := by
  have integer := Scalar.integral?_number denotes
  have present : Json.number n ≠ .null := nofun
  have read := coerce_scalar scalar present
  constructor
  · intro width fixed
    obtain ⟨narrow, more⟩ := ScalarKind.width?_dvd fixed
    obtain ⟨value, found, word⟩ :=
      Scalar.word?_of_integral? integer fixed (table.find? type.name)
    rw [found, Option.getD_some] at read
    have ones (large : 2 ^ 127 ≤ towardZero q) : value.word? = some (width, -1) := by
      rw [word, (Scalar.bmod_clampBig_of_large denotes narrow more large).1]
    rw [read]
    refine ⟨⟨fun kept => ?_, fun small => ?_⟩, ones⟩
    · by_contra large
      rw [ones (not_lt.1 large),
        (Scalar.bmod_clampBig_of_large denotes narrow more (not_lt.1 large)).2] at kept
      cases kept
    · rw [word, Scalar.bmod_clampBig denotes narrow small]
  · rintro rfl
    have found : coerce table (.number n) (some type) =
        .bigInteger (max (-2 ^ 127) (min (2 ^ 127 - 1) (towardZero q))) := by
      rw [read, Scalar.read?, integer]
      rfl
    refine ⟨?_, found⟩
    rw [found, Value.bigInteger.injEq]
    omega

/-- A negative number with a fraction, for a byte. -/
theorem half_narrowed :
    let n : JsonNumber := .floating (.finite true (261 * 2 ^ 44) (-45))
    Json.read "-130.5" = .ok (.number n) ∧ n.Denotes (-261 / 2) ∧
      (coerce .empty (.number n) (some (.named "byte"))).word? = some (8, 126) := by
  intro n
  have read : Json.read "-130.5" = .ok (.number n) := by rfl
  have isOf : (Floating.finite true (261 * 2 ^ 44) (-45)).IsOf .double :=
    ⟨by decide, by decide⟩
  have value : Floating.ofParts true (261 * 2 ^ 44) (-45) = -261 / 2 := by
    rw [Floating.ofParts_eq]
    norm_num
  have denotes : n.Denotes (-261 / 2) := value ▸ .floating isOf
  have whole : towardZero (-261 / 2) = -130 := by decide +kernel
  have scalar : (TypeRef.named "byte").category .empty = .scalar .byte := rfl
  have kept := (narrowed_iff denotes .empty scalar).1 8 rfl
  rw [whole] at kept
  exact ⟨read, denotes, kept.1.2 (by norm_num)⟩

/-- A number beyond 128 bits of which all the bits that fit are zeros. -/
theorem huge_number_saturates :
    let n : JsonNumber := .floating (.finite false 6617444900424221 77)
    let whole : ℤ := 6617444900424221 * 2 ^ 77
    Json.read "1e39" = .ok (.number n) ∧ n.Denotes whole ∧ towardZero whole = whole ∧
      whole.bmod (2 ^ 64) = 0 ∧
      (coerce .empty (.number n) (some (.named "long"))).word? = some (64, -1) ∧
      coerce .empty (.number n) (some (.named "java.math.BigInteger")) =
        .bigInteger (2 ^ 127 - 1) ∧
      whole ≠ 2 ^ 127 - 1 := by
  intro n whole
  have isOf : (Floating.finite false 6617444900424221 77).IsOf .double :=
    ⟨by decide, by decide⟩
  have value : Floating.ofParts false 6617444900424221 77 = (whole : ℚ) := by
    rw [Floating.ofParts_eq]
    norm_num [whole]
  have denotes : n.Denotes whole := value ▸ .floating isOf
  exact ⟨by rfl, denotes, Number.towardZero_intCast whole, by decide, by decide +kernel, by rfl,
    by decide⟩

end SqlPreview
