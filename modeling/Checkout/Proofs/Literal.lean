import Checkout.Proofs.Numeral

namespace Checkout.Numeral

/-- Digits of any script, perhaps with single underscores between them, and their values. -/
inductive Digits : Text → List Nat → Prop
  | last {c : Char} {n : Nat} (h : Text.digit? c = some n) : Digits [c] [n]
  | next {c : Char} {n : Nat} {t : Text} {ns : List Nat} (h : Text.digit? c = some n)
      (hrest : Digits t ns) : Digits (c :: t) (n :: ns)
  | underscore {c : Char} {n : Nat} {t : Text} {ns : List Nat} (h : Text.digit? c = some n)
      (hrest : Digits t ns) : Digits (c :: '_' :: t) (n :: ns)

inductive Sign : Text → Int → Prop
  | none : Sign [] 1
  | plus : Sign ['+'] 1
  | minus : Sign ['-'] (-1)

def Literal (t : Text) (n : Int) : Prop :=
  ∃ sign factor digits ns, t = sign ++ digits ∧ Sign sign factor ∧ Digits digits ns ∧
    ns.length ≤ maxDigits ∧ n = factor * value ns

def StandsFor (t : Text) (n : Int) : Prop :=
  ∃ front literal back, t = front ++ literal ++ back ∧ (∀ c ∈ front, isPadding c = true) ∧
    Literal literal n ∧ ∀ c ∈ back, isPadding c = true

theorem digit?_underscore : Text.digit? '_' = none := by decide +kernel

theorem digit?_plus : Text.digit? '+' = none := by decide +kernel

theorem digit?_minus : Text.digit? '-' = none := by decide +kernel

theorem Digits.exists_cons {t : Text} {ns : List Nat} (h : Digits t ns) :
    ∃ c u n, t = c :: u ∧ Text.digit? c = some n := by
  cases h with
  | last h => exact ⟨_, _, _, rfl, h⟩
  | next h _ => exact ⟨_, _, _, rfl, h⟩
  | underscore h _ => exact ⟨_, _, _, rfl, h⟩

theorem Digits.readDigits {t : Text} {ns : List Nat} (h : Digits t ns) (read : List Nat) :
    readDigits read t = some (ns.reverse ++ read) := by
  induction h generalizing read with
  | last h => simp [Numeral.readDigits, h]
  | @next c n t ns h hrest ih =>
      obtain ⟨d, u, m, rfl, hd⟩ := hrest.exists_cons
      have hne : d ≠ '_' := by
        rintro rfl
        rw [digit?_underscore] at hd
        cases hd
      rw [Numeral.readDigits]
      simp only [h, if_neg hne]
      rw [ih, List.reverse_cons, List.append_assoc, List.singleton_append]
  | underscore h _ ih =>
      rw [Numeral.readDigits]
      simp only [h, if_true]
      rw [ih, List.reverse_cons, List.append_assoc, List.singleton_append]

theorem exists_digits {read ds : List Nat} {t : Text} (h : readDigits read t = some ds) :
    ∃ ns, Digits t ns ∧ ds = ns.reverse ++ read := by
  fun_induction readDigits read t with
  | case1 => cases h
  | case2 read c =>
      obtain ⟨n, hn, rfl⟩ := Option.map_eq_some_iff.mp h
      exact ⟨[n], .last hn, rfl⟩
  | case3 => cases h
  | case4 read c t n hn ih =>
      obtain ⟨ns, hns, rfl⟩ := ih h
      exact ⟨n :: ns, .underscore hn hns, by simp⟩
  | case5 read c d t n hn hd ih =>
      obtain ⟨ns, hns, rfl⟩ := ih h
      exact ⟨n :: ns, .next hn hns, by simp⟩

theorem readNatural?_eq_some {t : Text} {n : Nat} :
    readNatural? t = some n ↔ ∃ ns, Digits t ns ∧ ns.length ≤ maxDigits ∧ n = value ns := by
  rw [readNatural?, Option.bind_eq_some_iff]
  constructor
  · rintro ⟨ds, hds, h⟩
    obtain ⟨ns, hns, rfl⟩ := exists_digits hds
    rw [List.append_nil, List.length_reverse, List.reverse_reverse] at h
    split at h
    · rename_i hlen
      cases h
      exact ⟨ns, hns, hlen, rfl⟩
    · cases h
  · rintro ⟨ns, hns, hlen, rfl⟩
    refine ⟨ns.reverse ++ [], hns.readDigits [], ?_⟩
    rw [List.append_nil, List.length_reverse, List.reverse_reverse, if_pos hlen]

/-- No digit is a sign, so what begins with a digit is read as it is. -/
theorem Digits.readSigned? {t : Text} {ns : List Nat} (h : Digits t ns) :
    readSigned? t = (readNatural? t).map Int.ofNat := by
  obtain ⟨c, u, n, rfl, hc⟩ := h.exists_cons
  rw [Numeral.readSigned?]
  · rintro v hv
    cases hv
    rw [digit?_plus] at hc
    cases hc
  · rintro v hv
    cases hv
    rw [digit?_minus] at hc
    cases hc

theorem readSigned?_eq_some {t : Text} {n : Int} : readSigned? t = some n ↔ Literal t n := by
  constructor
  · intro h
    unfold readSigned? at h
    split at h
    · obtain ⟨m, hm, rfl⟩ := Option.map_eq_some_iff.mp h
      obtain ⟨ns, hns, hlen, rfl⟩ := readNatural?_eq_some.mp hm
      exact ⟨['+'], 1, _, ns, rfl, .plus, hns, hlen, by simp⟩
    · obtain ⟨m, hm, rfl⟩ := Option.map_eq_some_iff.mp h
      obtain ⟨ns, hns, hlen, rfl⟩ := readNatural?_eq_some.mp hm
      exact ⟨['-'], -1, _, ns, rfl, .minus, hns, hlen, by simp⟩
    · obtain ⟨m, hm, rfl⟩ := Option.map_eq_some_iff.mp h
      obtain ⟨ns, hns, hlen, rfl⟩ := readNatural?_eq_some.mp hm
      exact ⟨[], 1, _, ns, rfl, .none, hns, hlen, by simp⟩
  · rintro ⟨sign, factor, digits, ns, rfl, hsign, hns, hlen, rfl⟩
    have hread : readNatural? digits = some (value ns) := readNatural?_eq_some.mpr ⟨ns, hns, hlen, rfl⟩
    cases hsign with
    | none => rw [List.nil_append, hns.readSigned?, hread]; simp
    | plus => rw [List.singleton_append, readSigned?, hread]; simp
    | minus => rw [List.singleton_append, readSigned?, hread]; simp

/-- A text is read as the integer that it stands for, and nothing else is read. -/
theorem read?_eq_some {t : Text} {n : Int} : read? t = some n ↔ StandsFor t n := by
  rw [read?, readSigned?_eq_some]
  constructor
  · intro h
    obtain ⟨front, back, ht, hfront, _, hback⟩ := Text.trim_spec isPadding t
    exact ⟨front, _, back, ht, hfront, h, hback⟩
  · rintro ⟨front, literal, back, rfl, hfront, h, hback⟩
    have hblank := readSigned?_bare (readSigned?_eq_some.mpr h)
    have hbare : Text.Bare isPadding literal :=
      ⟨fun c hc => solid_of_not_blank (hblank.head c hc),
        fun c hc => solid_of_not_blank (hblank.last c hc)⟩
    rwa [Text.trim_append hfront hbare hback]

end Checkout.Numeral
