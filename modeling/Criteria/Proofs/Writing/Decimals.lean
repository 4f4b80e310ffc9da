import Criteria.Proofs.Writing.Paths
import Mathlib.Data.List.TakeWhile

/-!
# Numerals and what they denote

A numeral is read part by part: a sign, digits, and a point with digits behind it. So **every
numeral of the language denotes a number** (`Criteria.IsNumeral.exists_denotes`).

An integer has a numeral of its own: its digits, with a minus in front if it is negative. The
numeral has no point and no power of ten, so the fraction that it denotes is the integer, and it is
rounded like the integer. **Written in decimal, an integer denotes the number that it is converted
to** (`Criteria.denotes_toString`), also where the format cannot hold it exactly.
-/

namespace Criteria

/-! ### Numerals by their parts -/

namespace Numeral

variable {sign whole fraction : List Char}

/-- A sign is taken off where a digit or a point follows. -/
theorem splitSign_append {tail : List Char} (hs : sign = [] ∨ sign = ['+'] ∨ sign = ['-'])
    (ht : ∀ c, tail.head? = some c → c ≠ '+' ∧ c ≠ '-') :
    splitSign (sign ++ tail) = (decide (sign = ['-']), tail) := by
  rcases hs with rfl | rfl | rfl
  · cases tail with
    | nil => rfl
    | cons c tail =>
      obtain ⟨hplus, hminus⟩ := ht c rfl
      simp [splitSign, hplus, hminus]
  · rfl
  · rfl

/-- **A numeral is read as the fraction that its parts spell**: the digits before and behind the
point, one behind the other, and for every digit behind the point a tenth. -/
theorem read?_append (hs : sign = [] ∨ sign = ['+'] ∨ sign = ['-'])
    (hw : ∀ c ∈ whole, isDigit c = true)
    (hf : fraction = [] ∨ ∃ digits, fraction = '.' :: digits ∧ digits ≠ [] ∧
      ∀ c ∈ digits, isDigit c = true)
    (hne : whole ≠ [] ∨ fraction ≠ []) :
    read? (sign ++ (whole ++ fraction)) =
      some ⟨decide (sign = ['-']), digitsValue (whole ++ fraction.tail),
        -fraction.tail.length⟩ := by
  have hsign : splitSign (sign ++ (whole ++ fraction)) =
      (decide (sign = ['-']), whole ++ fraction) := by
    refine splitSign_append hs fun c hc => ?_
    rw [← List.append_nil fraction] at hc
    exact Lexeme.ne_sign_of_head? hw (hf.imp_right (Exists.imp fun _ => And.left)) hne hc
  -- the point is no digit, so the digits before it end there
  have hwhole : (whole ++ fraction).takeWhile isDigit = whole := by
    rw [List.takeWhile_append_of_pos hw]
    rcases hf with rfl | ⟨digits, rfl, -, -⟩ <;> simp [show isDigit '.' = false from rfl]
  have hrest : (whole ++ fraction).dropWhile isDigit = fraction := by
    rw [List.dropWhile_append_of_pos hw]
    rcases hf with rfl | ⟨digits, rfl, -, -⟩ <;> simp [show isDigit '.' = false from rfl]
  have hfraction : splitFraction fraction = (fraction.tail, []) := by
    rcases hf with rfl | ⟨digits, rfl, -, hd⟩
    · rfl
    · simp [splitFraction, List.takeWhile_eq_self_iff.mpr hd, List.dropWhile_eq_nil_iff.mpr hd]
  have hsome : ¬(whole.isEmpty && fraction.tail.isEmpty) = true := by
    rcases hf with rfl | ⟨digits, rfl, hd, -⟩
    · simpa using hne
    · simp [hd]
  simp [read?, Written.read?, Written.exact, hsign, hwhole, hrest, hfraction, hsome, readPower?]

end Numeral

/-- **Every numeral of the language denotes a number.** -/
theorem IsNumeral.exists_denotes {literal : List Char} (h : IsNumeral literal) :
    ∃ x, Denotes literal x := by
  obtain ⟨sign, whole, fraction, rfl, hs, hw, hf, hne⟩ := h.exists_parts
  exact ⟨_, h, _, Numeral.read?_append hs hw hf hne, rfl⟩

/-! ### Integers -/

/-- The decimal form of an integer. -/
theorem toList_toString_int (m : Int) :
    (toString m).toList = (if m < 0 then ['-'] else []) ++ Nat.toDigits 10 m.natAbs := by
  cases m with
  | ofNat n =>
    change (Nat.repr n).toList = _
    simp [Nat.repr_eq_ofList_toDigits]
  | negSucc n =>
    change ("-" ++ Nat.repr (n + 1)).toList = _
    simp [Nat.repr_eq_ofList_toDigits, Int.negSucc_lt_zero]

/-- Digits with or without a minus in front are a numeral. -/
theorem Numeral.read?_digits {ds : List Char} (hds : ∀ c ∈ ds, isDigit c = true) (hne : ds ≠ [])
    (negative : Bool) :
    Numeral.read? ((if negative then ['-'] else []) ++ ds) =
      some ⟨negative, digitsValue ds, 0⟩ := by
  have hsign : (if negative then ['-'] else []) = [] ∨ (if negative then ['-'] else []) = ['+'] ∨
      (if negative then ['-'] else []) = ['-'] := by
    cases negative <;> simp
  have hread := read?_append hsign hds (.inl rfl) (.inl hne)
  cases negative <;> simpa using hread

/-- Without a power of ten, a decimal fraction is an integer. -/
theorem Binary64.ofDecimal_zero (negative : Bool) (digits : Nat) :
    ofDecimal negative digits 0 = ofRatio negative digits 1 := by
  have hlarge : ¬(400 : Int) < 0 := by omega
  have hsmall : ¬3 * (0 : Int) + digits.log2 < -1100 := by omega
  rw [ofDecimal, if_neg hlarge, if_neg hsmall]
  split
  · subst digits
    rfl
  · simp [timesPower]

/-- **Written in decimal, an integer denotes the number that it is converted to.** -/
theorem denotes_toString (m : Int) : Denotes (toString m).toList (.ofInt m) := by
  have hdigits : ∀ c ∈ Nat.toDigits 10 m.natAbs, isDigit c = true :=
    fun c hc => isDigit_of_mem_toDigits hc
  have hne : Nat.toDigits 10 m.natAbs ≠ [] := Nat.toDigits_ne_nil
  have hsign : (if m < 0 then ['-'] else []) = [] ∨ (if m < 0 then ['-'] else []) = ['+'] ∨
      (if m < 0 then ['-'] else []) = ['-'] := by
    split
    · exact .inr (.inr rfl)
    · exact .inl rfl
  have hread := Numeral.read?_digits hdigits hne (decide (m < 0))
  simp only [decide_eq_true_eq] at hread
  rw [toList_toString_int]
  refine ⟨⟨_, _, [], by rw [List.append_nil], hsign, hdigits, .inl rfl, .inl hne⟩, _, hread, ?_⟩
  rw [Numeral.value, digitsValue_toDigits, Binary64.ofDecimal_zero]
  rfl

end Criteria
