import Checkout.Amount

namespace Checkout

theorem Text.splitLast_append {c : Char} {tail : Text} (h : c ∉ tail) (front : Text) :
    Text.splitLast c (front ++ c :: tail) = some (front, tail) := by
  have hall : ∀ d ∈ tail.reverse, (d != c) = true := by
    intro d hd
    have hmem := List.mem_reverse.mp hd
    simp only [bne_iff_ne]
    rintro rfl
    exact h hmem
  have hrev : (front ++ c :: tail).reverse = tail.reverse ++ c :: front.reverse := by simp
  rw [Text.splitLast, hrev, List.takeWhile_append_of_pos hall, List.dropWhile_append_of_pos hall]
  simp

namespace Numeral

theorem natural_digit {n : Nat} {c : Char} (h : c ∈ natural n) : c.isDigit :=
  Nat.isDigit_of_mem_toDigits (by decide) (by decide) h

theorem ofDigitChars_natural (n : Nat) : Nat.ofDigitChars 10 (natural n) 0 = n :=
  Nat.ofDigitChars_toDigits (by decide) (by decide)

theorem write?_natCast {n : Nat} {t : Text} (h : write? n = some t) : t = natural n := by
  rw [write?] at h
  split at h
  · cases h
    rw [text, if_neg (Int.not_lt.mpr (Int.natCast_nonneg n)), Int.natAbs_natCast]
  · cases h

end Numeral

namespace Amount

def readUnsigned? (t : Text) : Option Nat :=
  match Text.splitLast '.' t with
  | some (major, [a, b]) =>
      if major ≠ [] ∧ (major ++ [a, b]).all Char.isDigit then
        some (minorPerMajor * Nat.ofDigitChars 10 major 0 + Nat.ofDigitChars 10 [a, b] 0)
      else none
  | _ => none

def read? : Text → Option Int
  | '-' :: t => (readUnsigned? t).map fun n => -Int.ofNat n
  | t => (readUnsigned? t).map Int.ofNat

theorem cents_digit {n : Nat} (h : n < minorPerMajor) {c : Char} (hc : c ∈ cents n) :
    c.isDigit := by
  rw [minorPerMajor] at h
  rw [cents, List.mem_cons, List.mem_singleton] at hc
  rcases hc with rfl | rfl
  · rw [Nat.isDigit_digitChar, decide_eq_true_eq]
    omega
  · rw [Nat.isDigit_digitChar, decide_eq_true_eq]
    omega

theorem ofDigitChars_cents {n : Nat} (h : n < minorPerMajor) :
    Nat.ofDigitChars 10 (cents n) 0 = n := by
  rw [minorPerMajor] at h
  have htens : (Nat.digitChar (n / 10)).toNat = 48 + n / 10 :=
    Nat.toNat_digitChar_of_lt_ten (by omega)
  have hones : (Nat.digitChar (n % 10)).toNat = 48 + n % 10 :=
    Nat.toNat_digitChar_of_lt_ten (by omega)
  have hzero : '0'.toNat = 48 := rfl
  simp only [cents, Nat.ofDigitChars, List.foldl_cons, List.foldl_nil, htens, hones, hzero]
  omega

theorem readUnsigned?_text (major : Nat) {n : Nat} (h : n < minorPerMajor) :
    readUnsigned? (Numeral.natural major ++ '.' :: cents n) = some (minorPerMajor * major + n) := by
  have hdot : '.' ∉ cents n := fun hc => absurd (cents_digit h hc) (by decide)
  have hne : Numeral.natural major ≠ [] := Nat.toDigits_ne_nil
  have hall : (Numeral.natural major ++ cents n).all Char.isDigit := by
    rw [List.all_eq_true]
    intro c hc
    rcases List.mem_append.mp hc with hc | hc
    · exact Numeral.natural_digit hc
    · exact cents_digit h hc
  have hcents := ofDigitChars_cents h
  rw [readUnsigned?, Text.splitLast_append hdot]
  rw [cents] at hall hcents ⊢
  simp only [hne, hall, hcents, Numeral.ofDigitChars_natural, ne_eq, not_false_eq_true, and_self,
    if_true]

theorem read?_minus (t : Text) : read? ('-' :: t) = (readUnsigned? t).map fun n => -Int.ofNat n := rfl

theorem read?_digit {c : Char} (h : c.isDigit) (t : Text) :
    read? (c :: t) = (readUnsigned? (c :: t)).map Int.ofNat := by
  rw [read?]
  rintro u hu
  cases hu
  cases h

theorem read?_text {minor : Int} {t : Text} (h : text? minor = some t) : read? t = some minor := by
  rw [text?, Option.map_eq_some_iff] at h
  obtain ⟨major, hmajor, rfl⟩ := h
  obtain rfl := Numeral.write?_natCast hmajor
  have hlt : minor.natAbs % minorPerMajor < minorPerMajor := Nat.mod_lt _ (by decide)
  have hunsigned := readUnsigned?_text (minor.natAbs / minorPerMajor) hlt
  rw [Nat.div_add_mod] at hunsigned
  by_cases hneg : minor < 0
  · rw [sign, if_pos hneg, List.singleton_append, List.cons_append, read?_minus, hunsigned,
      Option.map_some, Int.ofNat_eq_natCast, Int.ofNat_natAbs_of_nonpos (by omega), Int.neg_neg]
  · rw [sign, if_neg hneg, List.nil_append]
    cases hd : Numeral.natural (minor.natAbs / minorPerMajor) with
    | nil => exact absurd hd Nat.toDigits_ne_nil
    | cons d ds =>
        have hdigit : d.isDigit := Numeral.natural_digit (hd ▸ List.mem_cons_self)
        rw [hd, List.cons_append] at hunsigned
        rw [List.cons_append, read?_digit hdigit, hunsigned, Option.map_some, Int.ofNat_eq_natCast,
          Int.natAbs_of_nonneg (by omega)]

end Amount

end Checkout
