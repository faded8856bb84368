import Checkout.Proofs.Amount
import Mathlib.Data.Rat.Defs
import Mathlib.Algebra.Field.Rat
import Mathlib.Tactic.FieldSimp
import Mathlib.Tactic.Ring

namespace Checkout

theorem Text.splitFirst_append {c : Char} {front : Text} (h : c ∉ front) (tail : Text) :
    Text.splitFirst c (front ++ c :: tail) = some (front, tail) := by
  have hall : ∀ d ∈ front, (d != c) = true := by
    intro d hd
    rw [bne_iff_ne]
    rintro rfl
    exact h hd
  rw [Text.splitFirst, List.dropWhile_append_of_pos hall, List.takeWhile_append_of_pos hall]
  simp

namespace Numeral

theorem natural_of_lt {n : Nat} (h : n < 10) : natural n = [Nat.digitChar n] :=
  Nat.toDigits_of_lt_base h

theorem natural_tens {n : Nat} (h : 10 ≤ n) : natural n = natural (n / 10) ++ [Nat.digitChar (n % 10)] :=
  Nat.toDigits_of_base_le (by decide) h

theorem natural_ne_nil (n : Nat) : natural n ≠ [] := Nat.toDigits_ne_nil

theorem natural_hundreds {n : Nat} (h : 100 ≤ n) :
    natural n = natural (n / 100) ++ Amount.cents (n % 100) := by
  have htens : 10 ≤ n / 10 := by omega
  have hdiv : n / 10 / 10 = n / 100 := Nat.div_div_eq_div_mul n 10 10
  have hones : n % 100 % 10 = n % 10 := by omega
  have hmod : n % 100 / 10 = n / 10 % 10 := by omega
  rw [natural_tens (by omega), natural_tens htens, hdiv, Amount.cents, hones, hmod, List.append_assoc]
  rfl

theorem natural_of_lt_hundred {n : Nat} (h : n < 100) :
    natural n = if n < 10 then [Nat.digitChar n] else Amount.cents n := by
  split
  · rename_i hn
    exact natural_of_lt hn
  · rename_i hn
    rw [natural_tens (by omega), natural_of_lt (by omega)]
    rfl

theorem no_point {n : Nat} : '.' ∉ natural n := fun h => absurd (natural_digit h) (by decide)

end Numeral

namespace Decimal

def value (d : Decimal) : ℚ :=
  (if d.negative then -(d.coefficient : ℚ) else d.coefficient) * 10 ^ d.exponent

def ofMinor (minor : Int) : Decimal := ⟨decide (minor < 0), minor.natAbs, -2⟩

theorem value_ofMinor (minor : Int) : (ofMinor minor).value * 100 = minor := by
  have hpower : (10 : ℚ) ^ (-2 : Int) * 100 = 1 := by norm_num
  have hsigned : (if decide (minor < 0) then -(minor.natAbs : ℚ) else (minor.natAbs : ℚ)) = minor := by
    by_cases h : minor < 0
    · have habs : (minor.natAbs : Int) = -minor := Int.ofNat_natAbs_of_nonpos (by omega)
      have hcast : (minor.natAbs : ℚ) = -minor := by rw [← Int.cast_natCast, habs, Int.cast_neg]
      simp [h, hcast]
    · have habs : (minor.natAbs : Int) = minor := Int.natAbs_of_nonneg (by omega)
      have hcast : (minor.natAbs : ℚ) = minor := by rw [← Int.cast_natCast, habs]
      simp [h, hcast]
  rw [value, ofMinor, mul_assoc, hpower, mul_one]
  exact hsigned

theorem readUnsigned?_amount (negative : Bool) (n : Nat) :
    readUnsigned? negative (Numeral.natural (n / 100) ++ '.' :: Amount.cents (n % 100)) =
      some ⟨negative, n, -2⟩ := by
  have hlt : n % 100 < Amount.minorPerMajor := Nat.mod_lt _ (by decide)
  have hne : Numeral.natural (n / 100) ++ Amount.cents (n % 100) ≠ [] := by
    simp [Numeral.natural_ne_nil]
  have hall : (Numeral.natural (n / 100) ++ Amount.cents (n % 100)).all Char.isDigit = true := by
    rw [List.all_eq_true]
    intro c hc
    rcases List.mem_append.mp hc with hc | hc
    · exact Numeral.natural_digit hc
    · exact Amount.cents_digit hlt hc
  have hvalue : Nat.ofDigitChars 10 (Numeral.natural (n / 100) ++ Amount.cents (n % 100)) 0 = n := by
    have hcents := Amount.ofDigitChars_cents hlt
    rw [Amount.cents] at hcents ⊢
    simp only [Nat.ofDigitChars_append, Numeral.ofDigitChars_natural, Nat.ofDigitChars_cons,
      Nat.ofDigitChars_nil] at hcents ⊢
    omega
  rw [readUnsigned?, Text.splitFirst_append Numeral.no_point]
  simp only [Option.getD_some, if_pos (And.intro hne hall), hvalue]
  rfl

theorem read?_minus (t : Text) : read? ('-' :: t) = readUnsigned? true t := rfl

theorem read?_digit {c : Char} (h : c.isDigit) (t : Text) :
    read? (c :: t) = readUnsigned? false (c :: t) := by
  rw [read?]
  · rintro u hu
    cases hu
    cases h
  · rintro u hu
    cases hu
    cases h

theorem read?_amount (minor : Int) :
    read? (Amount.sign minor ++ Numeral.natural (minor.natAbs / 100) ++
      '.' :: Amount.cents (minor.natAbs % 100)) = some (ofMinor minor) := by
  have hread := readUnsigned?_amount (decide (minor < 0)) minor.natAbs
  by_cases hneg : minor < 0
  · rw [Amount.sign, if_pos hneg, List.singleton_append, List.cons_append, read?_minus, ofMinor,
      ← hread, decide_eq_true hneg]
  · rw [Amount.sign, if_neg hneg, List.nil_append]
    cases hd : Numeral.natural (minor.natAbs / 100) with
    | nil => exact absurd hd (Numeral.natural_ne_nil _)
    | cons d ds =>
        have hdigit : d.isDigit := Numeral.natural_digit (hd ▸ List.mem_cons_self)
        rw [hd, decide_eq_false hneg] at hread
        rw [List.cons_append, read?_digit hdigit, ofMinor, decide_eq_false hneg, ← hread,
          List.cons_append]

theorem placed_hundredths (n : Nat) :
    placed (Numeral.natural n) ((Numeral.natural n).length + -2) =
      Numeral.natural (n / 100) ++ '.' :: Amount.cents (n % 100) := by
  by_cases hn : n < 100
  · have hzero : Numeral.natural (n / 100) = ['0'] := by rw [Nat.div_eq_of_lt hn]; rfl
    rw [Numeral.natural_of_lt_hundred hn, hzero, Nat.mod_eq_of_lt hn]
    by_cases hten : n < 10
    · rw [if_pos hten, Amount.cents, Nat.div_eq_of_lt hten, Nat.mod_eq_of_lt hten]
      rfl
    · rw [if_neg hten]
      rfl
  · have hlen : 0 < (Numeral.natural (n / 100)).length :=
      List.length_pos_iff.mpr (Numeral.natural_ne_nil _)
    have hpoint (L : Nat) : ((L + 2 : Nat) : Int) + -2 = L := by omega
    rw [Numeral.natural_hundreds (by omega), List.length_append]
    simp only [Amount.cents, List.length_cons, List.length_nil, hpoint]
    rw [placed, if_neg (by omega), if_neg (by simp), Int.toNat_natCast, List.take_left,
      List.drop_left]

/-- The text of a number with two places. It never has a power of ten. -/
theorem text_ofMinor (minor : Int) :
    (ofMinor minor).text = Amount.sign minor ++ Numeral.natural (minor.natAbs / 100) ++
      '.' :: Amount.cents (minor.natAbs % 100) := by
  have hlen : 0 < (Numeral.natural minor.natAbs).length :=
    List.length_pos_iff.mpr (Numeral.natural_ne_nil _)
  have hplain : (-2 : Int) ≤ 0 ∧ -6 < ((Numeral.natural minor.natAbs).length : Int) + -2 := by omega
  simp only [text, ofMinor, if_pos hplain, placed_hundredths, Amount.sign, decide_eq_true_eq,
    List.append_assoc]

end Decimal

end Checkout
