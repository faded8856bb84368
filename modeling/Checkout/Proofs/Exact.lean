import Checkout.Proofs.Decimal
import Checkout.Proofs.Totals
import Mathlib.Algebra.BigOperators.Ring.List
import Mathlib.Computability.RegularExpressions

namespace Checkout

namespace Amount

def anyOf (chars : Text) : RegularExpression Char := chars.foldr (fun c r => .char c + r) 0

def digit : RegularExpression Char := anyOf "0123456789"

/-- Major units without a zero in front, a point and two places, perhaps after a minus sign. -/
def shape : RegularExpression Char :=
  (1 + .char '-') * ((.char '0' + anyOf "123456789" * digit.star) * (.char '.' * (digit * digit)))

theorem mem_anyOf {chars t : Text} : t ∈ (anyOf chars).matches' ↔ ∃ c ∈ chars, t = [c] := by
  induction chars with
  | nil => simp [anyOf]
  | cons c chars ih =>
      have hcons : (anyOf (c :: chars)).matches' = {[c]} + (anyOf chars).matches' := rfl
      rw [hcons, Language.mem_add, ih, List.exists_mem_cons_iff]
      rfl

theorem mem_digit {c : Char} (h : c.isDigit) : [c] ∈ digit.matches' := by
  have hall : ∀ n < 10, Char.ofNat (48 + n) ∈ "0123456789".toList := by decide
  have hrange : 48 ≤ c.toNat ∧ c.toNat ≤ 57 := by
    rw [Char.isDigit, Bool.and_eq_true, decide_eq_true_eq, decide_eq_true_eq] at h
    exact h
  have hc : c = Char.ofNat (48 + (c.toNat - 48)) := by
    rw [Nat.add_sub_of_le hrange.1, Char.ofNat_toNat]
  rw [digit, mem_anyOf]
  exact ⟨c, hc ▸ hall (c.toNat - 48) (by omega), rfl⟩

theorem mem_digits {t : Text} (h : ∀ c ∈ t, c.isDigit) : t ∈ digit.star.matches' := by
  rw [RegularExpression.matches'_star, Language.mem_kstar]
  refine ⟨t.map fun c => [c], (List.flatMap_singleton' t).symm, ?_⟩
  intro s hs
  obtain ⟨c, hc, rfl⟩ := List.mem_map.mp hs
  exact mem_digit (h c hc)

theorem natural_leads {n : Nat} (h : 0 < n) :
    ∃ c t, Numeral.natural n = c :: t ∧ c ∈ "123456789".toList := by
  have hall : ∀ n < 10, 0 < n → Nat.digitChar n ∈ "123456789".toList := by decide
  induction n using Nat.strong_induction_on with
  | _ n ih =>
      by_cases hten : n < 10
      · exact ⟨_, [], Numeral.natural_of_lt hten, hall n hten h⟩
      · obtain ⟨c, t, ht, hc⟩ := ih (n / 10) (by omega) (by omega)
        refine ⟨c, t ++ [Nat.digitChar (n % 10)], ?_, hc⟩
        rw [Numeral.natural_tens (by omega), ht, List.cons_append]

theorem mem_natural (n : Nat) :
    Numeral.natural n ∈ (.char '0' + anyOf "123456789" * digit.star :
      RegularExpression Char).matches' := by
  rw [RegularExpression.matches'_add, Language.mem_add]
  by_cases h : n = 0
  · exact .inl (h ▸ rfl)
  · obtain ⟨c, t, ht, hc⟩ := natural_leads (Nat.pos_of_ne_zero h)
    have hdigits : ∀ d ∈ t, d.isDigit := fun d hd =>
      Numeral.natural_digit (ht ▸ List.mem_cons_of_mem c hd)
    rw [RegularExpression.matches'_mul, Language.mem_mul, ht]
    exact .inr ⟨[c], mem_anyOf.mpr ⟨c, hc, rfl⟩, t, mem_digits hdigits, rfl⟩

theorem mem_shape (minor : Int) :
    sign minor ++ Numeral.natural (minor.natAbs / 100) ++ '.' :: cents (minor.natAbs % 100) ∈
      shape.matches' := by
  have hlt : minor.natAbs % 100 < minorPerMajor := Nat.mod_lt _ (by decide)
  have hsign : sign minor ∈ (1 + .char '-' : RegularExpression Char).matches' := by
    rw [RegularExpression.matches'_add, Language.mem_add, sign]
    split
    · exact .inr rfl
    · exact .inl rfl
  have hcents : cents (minor.natAbs % 100) ∈ (digit * digit).matches' := by
    rw [RegularExpression.matches'_mul, Language.mem_mul]
    exact ⟨_, mem_digit (cents_digit hlt List.mem_cons_self), _,
      mem_digit (cents_digit hlt (List.mem_cons_of_mem _ List.mem_cons_self)), rfl⟩
  have hplaces : '.' :: cents (minor.natAbs % 100) ∈
      (.char '.' * (digit * digit) : RegularExpression Char).matches' := by
    rw [RegularExpression.matches'_mul, Language.mem_mul]
    exact ⟨['.'], rfl, _, hcents, rfl⟩
  rw [shape, RegularExpression.matches'_mul, Language.mem_mul]
  refine ⟨_, hsign, _, ?_, (List.append_assoc _ _ _).symm⟩
  rw [RegularExpression.matches'_mul, Language.mem_mul]
  exact ⟨_, mem_natural _, _, hplaces, rfl⟩

theorem minus_mem_iff (minor : Int) :
    '-' ∈ sign minor ++ Numeral.natural (minor.natAbs / 100) ++ '.' :: cents (minor.natAbs % 100) ↔
      minor < 0 := by
  have hlt : minor.natAbs % 100 < minorPerMajor := Nat.mod_lt _ (by decide)
  have hmajor : '-' ∉ Numeral.natural (minor.natAbs / 100) := fun h =>
    absurd (Numeral.natural_digit h) (by decide)
  have hcents : '-' ∉ cents (minor.natAbs % 100) := fun h => absurd (cents_digit hlt h) (by decide)
  simp [sign, hmajor, hcents]

theorem exists_text {minor : Int} (h : minor.natAbs / 100 < Numeral.bound) :
    text? minor = some (sign minor ++ Numeral.natural (minor.natAbs / 100) ++
      '.' :: cents (minor.natAbs % 100)) := by
  have hwrite : Numeral.write? ((minor.natAbs / 100 : Nat) : Int) =
      some (Numeral.natural (minor.natAbs / 100)) := by
    have hbound : (((minor.natAbs / 100 : Nat) : Int)).natAbs < Numeral.bound := by
      rwa [Int.natAbs_natCast]
    rw [Numeral.write?, if_pos hbound, Numeral.text, if_neg (by omega), Int.natAbs_natCast]
  rw [text?, minorPerMajor, Int.ofNat_ediv_ofNat, hwrite]
  rfl

/-- The number that is read in the text of an amount is the amount, and it is written as it was. -/
theorem decimal_of_text {minor : Int} {t : Text} (h : text? minor = some t) :
    Decimal.read? t = some (.ofMinor minor) ∧ (Decimal.ofMinor minor).text = t := by
  rw [exists_text (lt_bound_of_text h)] at h
  cases h
  exact ⟨Decimal.read?_amount minor, Decimal.text_ofMinor minor⟩

theorem decimal?_eq {minor : Int} {t : Text} (h : text? minor = some t) :
    decimal? minor = some (.ofMinor minor) := by
  rw [decimal?, h, Option.bind_some, (decimal_of_text h).1]

theorem format?_inj {symbol t : Text} {minor other : Int} (h : format? symbol minor = some t)
    (ho : format? symbol other = some t) : minor = other := by
  obtain ⟨u, hu, rfl⟩ := Option.map_eq_some_iff.mp h
  obtain ⟨v, hv, huv⟩ := Option.map_eq_some_iff.mp ho
  cases List.append_cancel_left huv
  exact Option.some.inj ((read?_text hu).symm.trans (read?_text hv))

end Amount

theorem LineFormat.render_price {symbol name t : Text} {quantity price : Int}
    (h : render symbol (some "<pc>") quantity name price = .ok t) :
    Amount.format? symbol price = some t := by
  have hfill (v : Template.Values) : Template.fill v (some "<pc>") = .ok v.price :=
    congrArg Except.ok (List.append_nil v.price)
  cases hv : values? symbol quantity name price with
  | none =>
      rw [render, hv] at h
      cases h
  | some v =>
      obtain ⟨_, amount, _, hamount, rfl⟩ := values?_eq_some hv
      rw [render_eq_ok hv, hfill] at h
      rw [Amount.format?, hamount, Option.map_some]
      exact congrArg some (Except.ok.inj h)

namespace Cart

variable {c : Cart} {prices : PriceTable}

/-- With lines that show their prices alone, all that is printed are amounts: those of the lines and
that of the total. -/
theorem printed_amounts (hformat : c.lineFormat = some ("<pc>" : Text)) {r : Receipt}
    (h : (c.receipt prices).2 = some r) :
    ∃ amounts total, r.printed? = some (amounts.map (r.symbol ++ ·) ++
        [Receipt.label ++ (r.symbol ++ total)]) ∧
      List.Forall₂ (fun (l : Receipt.Line) t => Amount.text? l.total = some t) r.lines amounts ∧
      Amount.text? r.total = some total := by
  obtain ⟨total, htotal, hprinted⟩ := c.receipt_printed prices h
  have hsymbol := c.receipt_symbol prices h
  have hline (l : Receipt.Line) (hl : l ∈ r.lines) :
      ∃ t, Amount.text? l.total = some t ∧ l.text = r.symbol ++ t := by
    rcases receipt_line_cases h hl with ⟨⟨u, hu⟩, _⟩ | ⟨_, _, hrender⟩
    · rw [hformat] at hu
      cases hu
    · rw [hformat] at hrender
      obtain ⟨t, ht, htext⟩ := Option.map_eq_some_iff.mp (LineFormat.render_price hrender)
      exact ⟨t, ht, by rw [hsymbol, htext]⟩
  refine ⟨r.lines.map fun l => (Amount.text? l.total).getD [], total, ?_, ?_, htotal⟩
  · rw [hprinted, List.map_map]
    refine congrArg (fun texts => some (texts ++ _)) (List.map_congr_left fun l hl => ?_)
    obtain ⟨t, ht, htext⟩ := hline l hl
    rw [htext, Function.comp_apply, ht, Option.getD_some]
  · rw [List.forall₂_map_right_iff, List.forall₂_same]
    intro l hl
    obtain ⟨t, ht, _⟩ := hline l hl
    rw [ht, Option.getD_some]

end Cart

theorem Decimal.sum_ofMinor (amounts : List Int) :
    ((amounts.map fun minor => (ofMinor minor).value).sum) = (ofMinor amounts.sum).value := by
  have hhundred : (100 : ℚ) ≠ 0 := by norm_num
  apply mul_right_cancel₀ hhundred
  induction amounts with
  | nil => simp [value_ofMinor]
  | cons minor amounts ih =>
      rw [List.map_cons, List.sum_cons, List.sum_cons, add_mul, ih, value_ofMinor, value_ofMinor,
        value_ofMinor, Int.cast_add]

/-- An amount is written exactly and in one way only, unless its major part is too long for a
numeral: its text is that of the decimal number it is read as, which is worth the amount, and it has
a minus sign where the amount is below nothing and nowhere else. So different amounts look
different, and lines that show their prices alone add up to the total that is printed below them. -/
theorem amounts_exact :
    (∀ symbol (minor : Int), minor.natAbs / 100 < Numeral.bound →
      ∃ t d, Amount.format? symbol minor = some (symbol ++ t) ∧
        Amount.decimal? minor = some d ∧ d.text = t ∧ t ∈ Amount.shape.matches' ∧
        Decimal.read? t = some d ∧ d.value * 100 = minor ∧ ('-' ∈ t ↔ minor < 0) ∧
        t ≠ "-0.00".toList) ∧
    (∀ symbol minor other t, Amount.format? symbol minor = some t →
      Amount.format? symbol other = some t → minor = other) ∧
    (∀ symbol (minor : Int), Numeral.bound ≤ minor.natAbs / 100 →
      Amount.format? symbol minor = none ∧ Amount.decimal? minor = none) ∧
    ∀ (c : Cart) prices r, c.lineFormat = some ("<pc>" : Text) → (c.receipt prices).2 = some r →
      ∃ amounts total ds d, r.printed? = some (amounts.map (r.symbol ++ ·) ++
          ["TOTAL PRICE: " ++ (r.symbol ++ total)]) ∧
        List.Forall₂ (fun t d => Decimal.read? t = some d) amounts ds ∧
        Decimal.read? total = some d ∧ (ds.map Decimal.value).sum = d.value := by
  refine ⟨?_, fun _ _ _ _ => Amount.format?_inj, ?_, ?_⟩
  · intro symbol minor hlt
    have ht := Amount.exists_text hlt
    obtain ⟨hread, htext⟩ := Amount.decimal_of_text ht
    refine ⟨_, _, by rw [Amount.format?, ht, Option.map_some], Amount.decimal?_eq ht, htext,
      Amount.mem_shape minor, hread, Decimal.value_ofMinor minor, Amount.minus_mem_iff minor, ?_⟩
    intro hzero
    have hnothing : Decimal.read? "-0.00" = some ⟨true, 0, -2⟩ := by decide
    rw [hzero, hnothing, Option.some.injEq, Decimal.ofMinor, Decimal.mk.injEq] at hread
    obtain ⟨hneg, habs, _⟩ := hread
    have hminor : minor < 0 := of_decide_eq_true hneg.symm
    omega
  · intro symbol minor hlong
    have hnone := (Amount.text?_eq_none minor).mpr hlong
    exact ⟨by rw [Amount.format?, hnone]; rfl, by rw [Amount.decimal?, hnone]; rfl⟩
  · intro c prices r hformat hr
    obtain ⟨amounts, total, hprinted, hamounts, htotal⟩ := Cart.printed_amounts hformat hr
    refine ⟨amounts, total, r.lines.map fun l => .ofMinor l.total, _, hprinted, ?_,
      (Amount.decimal_of_text htotal).1, ?_⟩
    · rw [List.forall₂_map_right_iff]
      exact hamounts.flip.imp fun t l ht => (Amount.decimal_of_text ht).1
    · rw [List.map_map, Cart.receipt_total_lines hr, ← Decimal.sum_ofMinor, List.map_map]
      rfl

def cupCart : Cart := ⟨⟨[("cup", 3), ("tea", 1)], ["cup", "tea"]⟩, "€", some "<pc>".toList, false⟩

def cupReceipt : Receipt :=
  ⟨"€", [⟨"cup", 3, -5, "€-0.15", true⟩, ⟨"tea", 1, 1999, "€19.99", true⟩], 1984⟩

theorem amounts_exact_cups :
    (-15 : Int).natAbs / 100 < Numeral.bound ∧
      (∃ d, Amount.decimal? (-15) = some d ∧ d.text = "-0.15".toList ∧
        d.value * 100 = ((-15 : Int) : ℚ)) ∧
      (cupCart.receipt [("cup", some (-5)), ("tea", some 1999)]).2 = some cupReceipt ∧
      ∃ amounts total ds d,
        cupReceipt.printed? = some (amounts.map ("€".toList ++ ·) ++
          ["TOTAL PRICE: " ++ ("€".toList ++ total)]) ∧
        List.Forall₂ (fun t d => Decimal.read? t = some d) amounts ds ∧
        Decimal.read? total = some d ∧ (ds.map Decimal.value).sum = d.value := by
  have hlt : (-15 : Int).natAbs / 100 < Numeral.bound := by decide +kernel
  have hformat : Amount.format? "€" (-15) = some ("€".toList ++ "-0.15".toList) := by
    decide +kernel
  have hreceipt : (cupCart.receipt [("cup", some (-5)), ("tea", some 1999)]).2 =
      some cupReceipt := by decide +kernel
  obtain ⟨hexact, _, _, hsums⟩ := amounts_exact
  obtain ⟨t, d, ht, hd, htext, _, _, hvalue, _⟩ := hexact "€" (-15) hlt
  obtain rfl : t = "-0.15".toList := List.append_cancel_left (Option.some.inj (ht.symm.trans hformat))
  exact ⟨hlt, ⟨d, hd, htext, hvalue⟩, hreceipt, hsums cupCart _ cupReceipt rfl hreceipt⟩

end Checkout
