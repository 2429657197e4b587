import Mathlib.Data.List.TakeWhile
import Wayfinding.Number.Decimal
import Wayfinding.Proofs.Number.Extended

/-!
# Numbers that read back

The shortest decimal that is written for a finite number is one of those that the search has read
back, or else the number with all its digits. Those take the power of ten of the smallest subnormal
number and are rounded to the number itself. Zeros at the end of a decimal may count for its
exponent, and the text of a decimal has its digits, so that a finite number reads back bit for bit.

Main definitions: `Decimal.rounded`, `Decimal.Numeral`.
Main lemmas: `Decimal.toBinary64_trim`, `Binary64.toBinary64_exactDecimal`,
`Decimal.exists_numeral`, `Binary64.parse?_positional`, `Binary64.positional_chars`.
-/

namespace Wayfinding

/-! ### Counting digits -/

section DigitCount

variable {n k : Nat}

/-- Zero has no digits. -/
lemma digitCount_zero : digitCount 0 = 0 := by
  rw [digitCount]
  rfl

/-- A number has a digit more than its tenth. -/
lemma digitCount_of_pos (h : n ≠ 0) : digitCount n = digitCount (n / 10) + 1 := by
  rw [digitCount, if_neg h]

/-- A number below a power of ten has no more digits than that has zeros. -/
lemma digitCount_le (h : n < 10 ^ k) : digitCount n ≤ k := by
  induction k generalizing n with
  | zero =>
    rw [Nat.lt_one_iff.1 h, digitCount_zero]
  | succ k ih =>
    by_cases hn : n = 0
    · rw [hn, digitCount_zero]
      exact Nat.zero_le _
    · rw [digitCount_of_pos hn]
      refine Nat.succ_le_succ (ih ?_)
      rw [Nat.div_lt_iff_lt_mul (by decide), ← Nat.pow_succ]
      exact h

/-- A number from a power of ten on has more digits than that has zeros. -/
lemma lt_digitCount (h : 10 ^ k ≤ n) : k < digitCount n := by
  induction k generalizing n with
  | zero =>
    rw [digitCount_of_pos (Nat.one_le_iff_ne_zero.1 h)]
    exact Nat.succ_pos _
  | succ k ih =>
    have hn : n ≠ 0 := by
      rintro rfl
      exact absurd h (Nat.not_le.2 (Nat.pow_pos (by decide)))
    rw [digitCount_of_pos hn]
    refine Nat.succ_lt_succ (ih ?_)
    rwa [Nat.le_div_iff_mul_le (by decide), ← Nat.pow_succ]

/-- Zeros at its end are digits of a number. -/
lemma digitCount_mul_pow (h : n ≠ 0) (k : Nat) : digitCount (n * 10 ^ k) = digitCount n + k := by
  induction k with
  | zero => rw [Nat.pow_zero, Nat.mul_one, Nat.add_zero]
  | succ k ih =>
    have hne : n * 10 ^ (k + 1) ≠ 0 := Nat.mul_ne_zero h (Nat.pow_pos (by decide)).ne'
    rw [digitCount_of_pos hne, Nat.pow_succ, ← Nat.mul_assoc, Nat.mul_div_cancel _ (by decide), ih,
      Nat.add_assoc]

end DigitCount

namespace Decimal

variable {f : BinaryFormat} {negative : Bool} {n k : Nat} {e : Int}

/-! ### Decimals of the same value -/

/-- The exact quotient of a decimal, rounded. -/
def rounded (f : BinaryFormat) (n : Nat) (e : Int) : Nat :=
  if 0 ≤ e then f.nearest (n * Nat.pow 10 e.toNat) 1 else f.nearest n (Nat.pow 10 (-e).toNat)

/-- Any power of ten that makes the exponent a natural number will do as a denominator. -/
lemma rounded_eq {i j : Nat} (h : e + i = j) :
    rounded f n e = f.nearest (n * 10 ^ j) (10 ^ i) := by
  have hpos (k : Nat) : 0 < 10 ^ k := Nat.pow_pos (by decide)
  unfold rounded
  simp only [Nat.pow_eq]
  split
  · refine BinaryFormat.nearest_congr Nat.one_pos (hpos i) ?_
    rw [Nat.mul_one, Nat.mul_assoc, ← Nat.pow_add]
    congr 2
    omega
  · refine BinaryFormat.nearest_congr (hpos _) (hpos i) ?_
    rw [Nat.mul_assoc, ← Nat.pow_add]
    congr 2
    omega

/-- Decimals that are too small or too large are not rounded, but replaced. -/
lemma magnitude_eq (f : BinaryFormat) (d : Decimal) :
    d.magnitude f =
      if d.digits = 0 ∨ (digitCount d.digits : Int) + d.exponent < -400 then 0
      else if 400 < (digitCount d.digits : Int) + d.exponent then f.infinity
      else rounded f d.digits d.exponent := rfl

/-- The decimal zero has the magnitude zero. -/
lemma magnitude_zero (f : BinaryFormat) (negative : Bool) (e : Int) :
    magnitude f ⟨negative, 0, e⟩ = 0 := by
  rw [magnitude_eq, if_pos (.inl rfl)]

/-- The decimal zero is read as zero, with its sign. -/
lemma toBinary64_zero (negative : Bool) (e : Int) :
    toBinary64 ⟨negative, 0, e⟩ = .ofParts negative 0 :=
  congrArg (Binary64.ofParts negative) (magnitude_zero .double negative e)

/-- Within the range of every format, the magnitude is the rounded quotient. -/
lemma magnitude_eq_rounded (hn : n ≠ 0) (hlow : -400 ≤ (digitCount n : Int) + e)
    (hhigh : (digitCount n : Int) + e ≤ 400) : magnitude f ⟨negative, n, e⟩ = rounded f n e := by
  rw [magnitude_eq, if_neg (not_or_intro hn (Int.not_lt.2 hlow)), if_neg (Int.not_lt.2 hhigh)]

/-- Zeros may be digits or count for the exponent. -/
lemma magnitude_shift (f : BinaryFormat) (negative : Bool) (n k : Nat) (e : Int) :
    magnitude f ⟨negative, n * 10 ^ k, e⟩ = magnitude f ⟨negative, n, e + k⟩ := by
  by_cases hn : n = 0
  · rw [hn, Nat.zero_mul, magnitude_zero, magnitude_zero]
  have hne : n * 10 ^ k ≠ 0 := Nat.mul_ne_zero hn (Nat.pow_pos (by decide)).ne'
  have horder : ((digitCount (n * 10 ^ k) : Nat) : Int) + e = digitCount n + (e + k) := by
    rw [digitCount_mul_pow hn]
    omega
  obtain ⟨j, hj⟩ : ∃ j : Nat, e + (-e).toNat = j := ⟨(e + (-e).toNat).toNat, by omega⟩
  have hrounded : rounded f (n * 10 ^ k) e = rounded f n (e + k) := by
    rw [rounded_eq hj, rounded_eq (i := (-e).toNat) (j := k + j) (by omega), Nat.mul_assoc,
      ← Nat.pow_add]
  simp only [magnitude_eq, hn, hne, false_or, horder, hrounded]

/-- Zeros at the end of the digits may as well be in the exponent. -/
lemma toBinary64_shift (negative : Bool) (n k : Nat) (e : Int) :
    toBinary64 ⟨negative, n * 10 ^ k, e⟩ = toBinary64 ⟨negative, n, e + k⟩ :=
  congrArg (Binary64.ofParts negative) (magnitude_shift .double negative n k e)

/-- Without its trailing zeros a decimal stands for the same number. -/
lemma toBinary64_trim (d : Decimal) : d.trim.toBinary64 = d.toBinary64 := by
  induction d using trim.induct with
  | case1 d h ih =>
    rw [trim, if_pos h, ih]
    have hdigits : d.digits / 10 * 10 ^ 1 = d.digits := by omega
    have hshift := toBinary64_shift d.negative (d.digits / 10) 1 d.exponent
    rw [hdigits] at hshift
    exact hshift.symm
  | case2 d h => rw [trim, if_neg h]

end Decimal

namespace Binary64

variable {x : Binary64} {tie : Tie}

/-! ### Shortest decimals -/

/-- A finite number has fewer than 2²⁰⁹⁸ units. -/
lemma units_lt (h : x.isFinite = true) : x.units < 2 ^ 2098 := by
  have hlt := BinaryFormat.double.units_strictMono (magnitude_lt h)
  have hinfinity : BinaryFormat.double.units infinityMagnitude = 2 ^ 2098 := by decide +kernel
  rwa [hinfinity] at hlt

/-- One smallest subnormal number as a decimal: so many of the power of ten of its last digit. -/
def fives : Nat := Nat.pow 5 1074

/-- A unit is a decimal with 1074 digits behind the point. -/
lemma ten_pow_eq : 10 ^ 1074 = fives * oneUnits := by
  rw [oneUnits_eq]
  unfold fives
  generalize 1074 = bits
  rw [Nat.pow_eq, ← Nat.mul_pow]

/-- The digits of a finite number that is not zero: not so few that it counts as zero, and not so
many that it counts as infinite. -/
lemma digitCount_exactDecimal (h : x.isFinite = true) (hpos : 0 < x.units) :
    750 < digitCount (x.units * fives) ∧ digitCount (x.units * fives) ≤ 1474 := by
  have hlow : 10 ^ 750 ≤ fives := by decide +kernel
  have hhigh : 2 ^ 2098 * fives ≤ 10 ^ 1474 := by decide +kernel
  have hfives : 0 < fives := Nat.lt_of_lt_of_le (Nat.pow_pos (by decide)) hlow
  constructor
  · exact lt_digitCount (Nat.le_trans hlow (Nat.le_mul_of_pos_left _ hpos))
  · exact digitCount_le (Nat.lt_of_lt_of_le (Nat.mul_lt_mul_of_pos_right (units_lt h) hfives) hhigh)

/-- A number is what its exact decimal is rounded to. -/
lemma magnitude_exactDecimal (h : x.isFinite = true) :
    x.exactDecimal.magnitude .double = x.magnitude := by
  have hdecimal : x.exactDecimal = ⟨x.isNegative, x.units * fives, -1074⟩ := by
    unfold exactDecimal fives
    rfl
  rw [hdecimal]
  obtain hzero | hpos := Nat.eq_zero_or_pos x.units
  · rw [hzero, Nat.zero_mul, units_eq_zero.1 hzero, Decimal.magnitude_zero]
  · obtain ⟨hlow, hhigh⟩ := digitCount_exactDecimal h hpos
    have hne : x.units * fives ≠ 0 := by
      intro hzero
      rw [hzero, digitCount_zero] at hlow
      omega
    have hden (bits : Nat) : 0 < 10 ^ bits := Nat.pow_pos (by decide)
    -- over the power of ten below its last digit, the decimal counts smallest subnormal numbers
    rw [Decimal.magnitude_eq_rounded hne (by omega) (by omega),
      Decimal.rounded_eq (i := 1074) (j := 0) rfl, Nat.pow_zero, Nat.mul_one]
    refine BinaryFormat.nearest_eq (hden 1074) (magnitude_le (isNaN_of_isFinite h)) ?_
    rw [ten_pow_eq, one_double, Nat.mul_assoc]
    rfl

/-- All digits of a finite number read back. -/
lemma toBinary64_exactDecimal (h : x.isFinite = true) : x.exactDecimal.toBinary64 = x := by
  calc x.exactDecimal.toBinary64
    _ = ofParts x.isNegative (x.exactDecimal.magnitude .double) := rfl
    _ = x := by rw [magnitude_exactDecimal h, ofParts_self]

/-- Whether few digits have been found or all are taken, they read back. -/
lemma toBinary64_firstReadingBack (h : x.isFinite = true) (order : Int) (count fuel : Nat) :
    (firstReadingBack tie x order count fuel).toBinary64 = x := by
  -- a decimal that is found has been tested, and without one there are all digits in the end
  induction fuel generalizing count with
  | zero => exact toBinary64_exactDecimal h
  | succ fuel ih =>
    unfold firstReadingBack
    dsimp only
    split
    · next n hn =>
      have hreads := List.find?_some hn
      exact of_decide_eq_true hreads
    · exact ih (count + 1)

/-- Reading the decimal that is written for a finite number gives that number. -/
lemma toBinary64_shortest (h : x.isFinite = true) : (x.shortest tie).toBinary64 = x := by
  unfold shortest
  split
  · next hm =>
    have hself := ofParts_self x
    rw [hm] at hself
    exact hself
  · rw [Decimal.toBinary64_trim]
    exact toBinary64_firstReadingBack h _ _ _

end Binary64

namespace Decimal

variable {n : Nat} {e : Int} {c : Char} {cs : List Char}

/-! ### Digits as text -/

/-- A number is written with digits. -/
lemma isDigit_of_mem_toDigits (h : c ∈ Nat.toDigits 10 n) : isDigit c = true := by
  have hdigit := Nat.isDigit_of_mem_toDigits (by decide) (by decide) h
  unfold Char.isDigit at hdigit
  simp only [Bool.and_eq_true, decide_eq_true_eq] at hdigit
  exact decide_eq_true hdigit

/-- The digits of a number are read as this number. -/
lemma ofDigits_toDigits (n : Nat) : ofDigits (Nat.toDigits 10 n) = n :=
  Nat.ofDigitChars_ten_toDigits

/-- Each zero at the end multiplies with ten. -/
lemma ofDigits_append_zeros (ds : List Char) (k : Nat) :
    ofDigits (ds ++ List.replicate k '0') = ofDigits ds * 10 ^ k := by
  have happend := @Nat.ofDigitChars_append 10 ds (List.replicate k '0') 0
  rw [Nat.ofDigitChars_replicate_zero, Nat.mul_comm] at happend
  exact happend

/-- Zeros in front do not count. -/
lemma ofDigits_zeros_append (ds : List Char) (k : Nat) :
    ofDigits (List.replicate k '0' ++ ds) = ofDigits ds := by
  have happend := @Nat.ofDigitChars_append 10 (List.replicate k '0') ds 0
  rw [Nat.ofDigitChars_replicate_zero, Nat.mul_zero] at happend
  exact happend

/-! ### Numerals -/

/-- A text without a sign or an exponent writes `n * 10 ^ e`. -/
inductive Numeral : List Char → Nat → Int → Prop where
  | whole {ds : List Char} : ds ≠ [] → (∀ c ∈ ds, isDigit c = true) → Numeral ds (ofDigits ds) 0
  | pointed {ds fraction : List Char} : ds ≠ [] → (∀ c ∈ ds ++ fraction, isDigit c = true) →
    Numeral (ds ++ '.' :: fraction) (ofDigits (ds ++ fraction)) (-fraction.length)

/-- A numeral consists of digits and perhaps a point. -/
lemma Numeral.chars (h : Numeral cs n e) : ∀ c ∈ cs, isDigit c = true ∨ c = '.' := by
  intro c hc
  cases h with
  | whole _ hall => exact .inl (hall c hc)
  | pointed _ hall =>
    rw [List.mem_append, List.mem_cons] at hc
    obtain hc | rfl | hc := hc
    · exact .inl (hall c (List.mem_append_left _ hc))
    · exact .inr rfl
    · exact .inl (hall c (List.mem_append_right _ hc))

/-- A numeral starts with a digit. -/
lemma Numeral.exists_cons (h : Numeral cs n e) :
    ∃ c rest, cs = c :: rest ∧ isDigit c = true := by
  cases h with
  | whole hne hall =>
    obtain ⟨c, rest, rfl⟩ := List.exists_cons_of_ne_nil hne
    exact ⟨c, rest, rfl, hall c List.mem_cons_self⟩
  | pointed hne hall =>
    obtain ⟨c, rest, rfl⟩ := List.exists_cons_of_ne_nil hne
    exact ⟨c, rest ++ '.' :: _, rfl, hall c List.mem_cons_self⟩

/-- A numeral is read as the number that it writes. -/
lemma Numeral.unsigned? (h : Numeral cs n e) (negative : Bool) :
    Decimal.unsigned? negative cs = some ⟨negative, n, e⟩ := by
  cases h with
  | whole hne hall =>
    have htake : cs.takeWhile isDigit = cs := List.takeWhile_eq_self_iff.2 hall
    have hdrop : cs.dropWhile isDigit = [] := List.dropWhile_eq_nil_iff.2 hall
    simp [Decimal.unsigned?, htake, hdrop, hne, exponent?]
  | @pointed ds fraction hne hall =>
    have hds (c : Char) (hc : c ∈ ds) : isDigit c = true := hall c (List.mem_append_left _ hc)
    have hfraction (c : Char) (hc : c ∈ fraction) : isDigit c = true :=
      hall c (List.mem_append_right _ hc)
    have htake : (ds ++ '.' :: fraction).takeWhile isDigit = ds := by
      rw [List.takeWhile_append_of_pos hds]
      exact List.append_nil ds
    have hdrop : (ds ++ '.' :: fraction).dropWhile isDigit = '.' :: fraction := by
      rw [List.dropWhile_append_of_pos hds]
      rfl
    have htakeFraction : fraction.takeWhile isDigit = fraction :=
      List.takeWhile_eq_self_iff.2 hfraction
    have hdropFraction : fraction.dropWhile isDigit = [] := List.dropWhile_eq_nil_iff.2 hfraction
    simp [Decimal.unsigned?, htake, hdrop, htakeFraction, hdropFraction, hne, exponent?]

/-- Digits with the point among them: zeros in front of them make up for missing ones. -/
lemma numeral_pointed {ds : List Char} (places : Nat) (hall : ∀ c ∈ ds, isDigit c = true) :
    Numeral (Decimal.pointed places ds) (ofDigits ds) (-places) := by
  obtain ⟨padded, hpadded⟩ :
      ∃ padded, List.replicate (places + 1 - ds.length) '0' ++ ds = padded := ⟨_, rfl⟩
  have hvalue : ofDigits padded = ofDigits ds := by
    rw [← hpadded, ofDigits_zeros_append]
  have hdigits (c : Char) (hc : c ∈ padded) : isDigit c = true := by
    rw [← hpadded, List.mem_append] at hc
    obtain hc | hc := hc
    · rw [List.eq_of_mem_replicate hc]
      rfl
    · exact hall c hc
  have hlength : places < padded.length := by
    rw [← hpadded, List.length_append, List.length_replicate]
    omega
  have hpointed : Decimal.pointed places ds =
      if places = 0 then padded
      else padded.take (padded.length - places) ++ '.' :: padded.drop (padded.length - places) := by
    rw [← hpadded]
    rfl
  rw [hpointed, ← hvalue]
  split
  case isTrue hplaces =>
    subst hplaces
    exact .whole (List.ne_nil_of_length_pos hlength) hdigits
  case isFalse hplaces =>
    have htake : padded.take (padded.length - places) ≠ [] := by
      refine List.ne_nil_of_length_pos ?_
      rw [List.length_take]
      omega
    have hdrop : (padded.drop (padded.length - places)).length = places := by
      rw [List.length_drop]
      omega
    have hall : ∀ c ∈ padded.take (padded.length - places) ++ padded.drop (padded.length - places),
        isDigit c = true := by
      rwa [List.take_append_drop]
    have hnumeral := Numeral.pointed htake hall
    rw [List.take_append_drop, hdrop] at hnumeral
    exact hnumeral

/-- What is written after the sign is a numeral. -/
lemma exists_numeral (d : Decimal) : ∃ cs n e, d.positional = signChars d.negative ++ cs ∧
    Numeral cs n e ∧ toBinary64 ⟨d.negative, n, e⟩ = d.toBinary64 := by
  obtain ⟨negative, digits, exponent⟩ := d
  have hmem (c : Char) (hc : c ∈ Nat.toDigits 10 digits) : isDigit c = true :=
    isDigit_of_mem_toDigits hc
  unfold positional digitChars
  dsimp only
  by_cases hexponent : 0 ≤ exponent
  · rw [if_pos hexponent]
    obtain ⟨k, rfl⟩ := Int.eq_ofNat_of_zero_le hexponent
    by_cases hzero : digits = 0
    · have hdigit : ∀ c ∈ ['0'], isDigit c = true := List.forall_mem_singleton.2 rfl
      refine ⟨['0'], 0, 0, by rw [if_pos hzero], .whole (List.cons_ne_nil _ _) hdigit, ?_⟩
      rw [hzero, toBinary64_zero, toBinary64_zero]
    · refine ⟨_, _, 0, by rw [if_neg hzero], .whole ?_ ?_, ?_⟩
      · exact List.append_ne_nil_of_left_ne_nil Nat.toDigits_ne_nil _
      · intro c hc
        obtain hc | hc := List.mem_append.1 hc
        · exact hmem c hc
        · rw [List.eq_of_mem_replicate hc]
          rfl
      · rw [ofDigits_append_zeros, ofDigits_toDigits, toBinary64_shift, Int.zero_add]
        rfl
  · rw [if_neg hexponent]
    refine ⟨_, _, _, rfl, numeral_pointed _ hmem, ?_⟩
    have hplaces : -((-exponent).toNat : Int) = exponent := by omega
    rw [ofDigits_toDigits, hplaces]

end Decimal

namespace NonFinite

/-- No word for infinity or NaN starts with a digit. -/
lemma ofWord?_cons {c : Char} (h : Decimal.isDigit c = true) (rest : List Char) :
    ofWord? (c :: rest) = none := by
  have hbounds : '0' ≤ c ∧ c ≤ '9' := of_decide_eq_true h
  have hlower : c.toLower = c := by
    unfold Char.toLower
    split
    · next hupper => exact absurd (Nat.le_trans hupper.1 hbounds.2) (by decide)
    · rfl
  have hword (d : Char) (word : List Char) (hd : Decimal.isDigit d = false)
      (heq : String.ofList ((c :: rest).map Char.toLower) = String.ofList (d :: word)) : False := by
    have hhead : c.toLower = d := List.head_eq_of_cons_eq (String.ofList_injective heq)
    rw [← hhead, hlower, h] at hd
    exact absurd hd (by decide)
  unfold ofWord?
  split
  · next heq => exact (hword 'i' ['n', 'f'] (by decide) heq).elim
  · next heq => exact (hword 'i' ['n', 'f', 'i', 'n', 'i', 't', 'y'] (by decide) heq).elim
  · next heq => exact (hword 'n' ['a', 'n'] (by decide) heq).elim
  · rfl

end NonFinite

namespace Binary64

variable {x : Binary64} {negative : Bool} {n : Nat} {e : Int} {cs : List Char}

/-- A sign in front of a numeral is found. -/
lemma takeSign_signChars (h : Decimal.Numeral cs n e) (negative : Bool) :
    Decimal.takeSign (Decimal.signChars negative ++ cs) = (negative, cs) := by
  obtain ⟨c, rest, rfl, hc⟩ := h.exists_cons
  cases negative with
  | true => rfl
  | false =>
    change Decimal.takeSign (c :: rest) = _
    unfold Decimal.takeSign
    split
    · next heq =>
      rw [List.head_eq_of_cons_eq heq] at hc
      exact absurd hc (by decide)
    · next heq =>
      rw [List.head_eq_of_cons_eq heq] at hc
      exact absurd hc (by decide)
    · rfl

/-- A numeral with its sign is read as the number nearest to it. -/
lemma parse?_numeral (h : Decimal.Numeral cs n e) (negative : Bool) :
    parse? (Decimal.signChars negative ++ cs) = some (Decimal.toBinary64 ⟨negative, n, e⟩) := by
  obtain ⟨c, rest, rfl, hc⟩ := h.exists_cons
  unfold parse?
  rw [takeSign_signChars h]
  dsimp only
  rw [NonFinite.ofWord?_cons hc, h.unsigned?]
  rfl

/-- A finite number reads back as it was written. -/
lemma parse?_positional (h : x.isFinite = true) : parse? x.positional = some x := by
  obtain ⟨cs, n, e, hpositional, hnumeral, hvalue⟩ := (x.shortest .up).exists_numeral
  rw [positional, if_pos h, hpositional, parse?_numeral hnumeral, hvalue, toBinary64_shortest h]

/-- A finite number is written with digits, after a minus sign and around a point if need be. -/
lemma positional_chars (h : x.isFinite = true) :
    x.positional ≠ [] ∧ ∀ c ∈ x.positional, Decimal.isDigit c = true ∨ c = '-' ∨ c = '.' := by
  obtain ⟨cs, n, e, hpositional, hnumeral, -⟩ := (x.shortest .up).exists_numeral
  rw [positional, if_pos h, hpositional]
  constructor
  · obtain ⟨c, rest, rfl, -⟩ := hnumeral.exists_cons
    exact List.append_ne_nil_of_right_ne_nil _ (List.cons_ne_nil c rest)
  · intro c hc
    obtain hc | hc := List.mem_append.1 hc
    · unfold Decimal.signChars at hc
      split at hc
      · exact .inr (.inl (List.mem_singleton.1 hc))
      · exact absurd hc List.not_mem_nil
    · obtain hdigit | hpoint := hnumeral.chars c hc
      · exact .inl hdigit
      · exact .inr (.inr hpoint)

end Binary64

end Wayfinding
