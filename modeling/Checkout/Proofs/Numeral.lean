import Checkout.Proofs.Amount
import Checkout.Proofs.Capitals

namespace Checkout

namespace Text

theorem digit?_of_isDigit {c : Char} (h : c.isDigit) : digit? c = some (c.toNat - '0'.toNat) := by
  have hrange : 0x30 ≤ c.toNat ∧ c.toNat ≤ 0x30 + 9 := by
    rw [Char.isDigit, Bool.and_eq_true, decide_eq_true_eq, decide_eq_true_eq] at h
    exact h
  rw [digit?, zeros, List.find?_cons_of_pos (by simpa using hrange)]
  rfl

theorem solid_of_digit? {c : Char} {n : Nat} (h : digit? c = some n) : isBlank c = false := by
  rw [digit?, Option.map_eq_some_iff] at h
  obtain ⟨z, hz, _⟩ := h
  have hrange := List.find?_some hz
  rw [Bool.and_eq_true, decide_eq_true_eq, decide_eq_true_eq] at hrange
  have hfar : ∀ z ∈ zeros, ∀ b ∈ blanks, ¬ (z ≤ b ∧ b ≤ z + 9) := by decide +kernel
  by_contra hblank
  rw [Bool.not_eq_false] at hblank
  exact hfar z (List.mem_of_find?_eq_some hz) _ (mem_blanks hblank) hrange

end Text

namespace Numeral

theorem solid_of_not_blank {c : Char} (h : Text.isBlank c = false) : isPadding c = false := by
  rw [isPadding, h, Bool.false_and]

theorem readDigits_of_isDigit {t : Text} (hne : t ≠ []) (h : ∀ c ∈ t, c.isDigit) (read : List Nat) :
    readDigits read t = some ((t.map fun c => c.toNat - '0'.toNat).reverse ++ read) := by
  induction t generalizing read with
  | nil => exact absurd rfl hne
  | cons c t ih =>
      obtain ⟨hc, ht⟩ := List.forall_mem_cons.mp h
      cases t with
      | nil => simp [readDigits, Text.digit?_of_isDigit hc]
      | cons d t =>
          have hd : d ≠ '_' := by
            rintro rfl
            exact absurd (ht '_' List.mem_cons_self) (by decide)
          rw [readDigits]
          simp only [Text.digit?_of_isDigit hc, if_neg hd]
          rw [ih (List.cons_ne_nil d t) ht]
          simp

theorem length_natural_le (n : Nat) : (natural n).length ≤ maxDigits ↔ n < bound := by
  -- The power is never written out, so the law is taken for any number of digits first.
  have hlength (k : Nat) (hk : 0 < k) : (natural n).length ≤ k ↔ n < Nat.pow 10 k :=
    Nat.length_toDigits_le_iff (by decide) hk
  delta bound
  exact hlength maxDigits (by decide)

theorem readNatural?_natural {n : Nat} (h : n < bound) : readNatural? (natural n) = some n := by
  have hne : natural n ≠ [] := Nat.toDigits_ne_nil
  have hlen : (natural n).length ≤ maxDigits := (length_natural_le n).mpr h
  rw [readNatural?, readDigits_of_isDigit hne (fun _ => natural_digit), Option.bind_some,
    List.append_nil, List.length_reverse, List.length_map, if_pos hlen, List.reverse_reverse, value,
    List.foldl_map]
  have hvalue := ofDigitChars_natural n
  rw [Nat.ofDigitChars_eq_foldl] at hvalue
  exact congrArg some hvalue

theorem readSigned?_digit {c : Char} (h : c.isDigit) (t : Text) :
    readSigned? (c :: t) = (readNatural? (c :: t)).map Int.ofNat := by
  rw [readSigned?]
  · rintro u hu
    cases hu
    cases h
  · rintro u hu
    cases hu
    cases h

theorem readSigned?_text {n : Int} (h : n.natAbs < bound) : readSigned? (text n) = some n := by
  have hread := readNatural?_natural h
  rw [text]
  by_cases hn : n < 0
  · rw [if_pos hn, readSigned?, hread, Option.map_some, Int.ofNat_eq_natCast,
      Int.ofNat_natAbs_of_nonpos (by omega), Int.neg_neg]
  · rw [if_neg hn]
    cases hd : natural n.natAbs with
    | nil => exact absurd hd Nat.toDigits_ne_nil
    | cons d ds =>
        have hdigit : d.isDigit := natural_digit (hd ▸ List.mem_cons_self)
        rw [readSigned?_digit hdigit, ← hd, hread, Option.map_some, Int.ofNat_eq_natCast,
          Int.natAbs_of_nonneg (by omega)]

theorem text_solid {n : Int} {c : Char} (h : c ∈ text n) : Text.isBlank c = false := by
  have hdigit {c : Char} (h : c ∈ natural n.natAbs) : Text.isBlank c = false :=
    Text.solid_of_digit? (Text.digit?_of_isDigit (natural_digit h))
  rw [text] at h
  split at h
  · rcases List.mem_cons.mp h with rfl | h
    · rfl
    · exact hdigit h
  · exact hdigit h

/-- A numeral that is written reads back. -/
theorem read?_write? {n : Int} {t : Text} (h : write? n = some t) : read? t = some n := by
  rw [write?] at h
  split at h
  · rename_i hlt
    cases h
    have hbare : Text.Bare isPadding (text n) :=
      Text.bare_of_forall fun _ hc => solid_of_not_blank (text_solid hc)
    rw [read?, Text.trim_of_bare hbare, readSigned?_text hlt]
  · cases h

/-- Digits begin and end what they are read from, whatever stands between them. -/
theorem readDigits_ends {read ds : List Nat} {t : Text} (h : readDigits read t = some ds) :
    t ≠ [] ∧ Text.Bare Text.isBlank t := by
  fun_induction readDigits read t with
  | case1 => cases h
  | case2 read c =>
      obtain ⟨n, hn, _⟩ := Option.map_eq_some_iff.mp h
      refine ⟨List.cons_ne_nil c [], Text.bare_of_forall ?_⟩
      intro d hd
      rw [List.mem_singleton.mp hd]
      exact Text.solid_of_digit? hn
  | case3 => cases h
  | case4 read c t n hn ih =>
      obtain ⟨hne, hbare⟩ := ih h
      refine ⟨List.cons_ne_nil _ _, ?_, ?_⟩
      · rintro e he
        cases he
        exact Text.solid_of_digit? hn
      · intro e he
        rw [List.getLast?_cons_cons] at he
        cases t with
        | nil => exact absurd rfl hne
        | cons f t =>
            rw [List.getLast?_cons_cons] at he
            exact hbare.last e he
  | case5 read c d t n hn hd ih =>
      obtain ⟨_, hbare⟩ := ih h
      refine ⟨List.cons_ne_nil _ _, ?_, ?_⟩
      · rintro e he
        cases he
        exact Text.solid_of_digit? hn
      · intro e he
        rw [List.getLast?_cons_cons] at he
        exact hbare.last e he

theorem readNatural?_ends {t : Text} {n : Nat} (h : readNatural? t = some n) :
    t ≠ [] ∧ Text.Bare Text.isBlank t := by
  rw [readNatural?, Option.bind_eq_some_iff] at h
  obtain ⟨ds, hds, _⟩ := h
  exact readDigits_ends hds

theorem readSigned?_bare {t : Text} {n : Int} (h : readSigned? t = some n) :
    Text.Bare Text.isBlank t := by
  have hsigned {c : Char} {t : Text} {n : Nat} (hc : Text.isBlank c = false)
      (h : readNatural? t = some n) : Text.Bare Text.isBlank (c :: t) := by
    obtain ⟨hne, hbare⟩ := readNatural?_ends h
    refine ⟨?_, ?_⟩
    · rintro d hd
      cases hd
      exact hc
    · intro d hd
      cases t with
      | nil => exact absurd rfl hne
      | cons e t =>
          rw [List.getLast?_cons_cons] at hd
          exact hbare.last d hd
  unfold readSigned? at h
  split at h
  · obtain ⟨m, hm, _⟩ := Option.map_eq_some_iff.mp h
    exact hsigned rfl hm
  · obtain ⟨m, hm, _⟩ := Option.map_eq_some_iff.mp h
    exact hsigned rfl hm
  · obtain ⟨m, hm, _⟩ := Option.map_eq_some_iff.mp h
    exact (readNatural?_ends hm).2

/-- A text that is read as a number is read as the same one without the white space around it. -/
theorem read?_strip {t : Text} {n : Int} (h : read? t = some n) :
    read? (Text.strip t) = some n := by
  rw [read?] at h
  have hbare := readSigned?_bare h
  obtain ⟨front, back, ht, hfront, hpadding, hback⟩ := Text.trim_spec isPadding t
  have hblank {c : Char} (hc : isPadding c = true) : Text.isBlank c = true := by
    rw [isPadding, Bool.and_eq_true] at hc
    exact hc.1
  have hstrip : Text.strip t = Text.trim isPadding t := by
    conv_lhs => rw [ht]
    exact Text.trim_append (fun c hc => hblank (hfront c hc)) hbare
      (fun c hc => hblank (hback c hc))
  rw [hstrip, read?, Text.trim_of_bare hpadding, h]

end Numeral

end Checkout
