import Checkout.CommandLine.Scan
import Checkout.Proofs.Literal

namespace Checkout.Text

theorem splitLast_eq_none {c : Char} {t : Text} : splitLast c t = none ↔ c ∉ t := by
  have hdrop : t.reverse.dropWhile (· != c) = [] ↔ c ∉ t := by
    rw [List.dropWhile_eq_nil_iff]
    simp only [List.mem_reverse, bne_iff_ne]
    exact ⟨fun h hc => h c hc rfl, fun h d hd hdc => h (hdc ▸ hd)⟩
  rw [splitLast, ← hdrop]
  cases t.reverse.dropWhile (· != c) <;> simp

theorem splitLast_eq_some {c : Char} {t front tail : Text} :
    splitLast c t = some (front, tail) ↔ t = front ++ c :: tail ∧ c ∉ tail := by
  constructor
  · intro h
    have hmem : c ∈ t := by
      by_contra hn
      rw [splitLast_eq_none.mpr hn] at h
      cases h
    obtain ⟨after, before, hreverse, hafter⟩ :=
      List.eq_append_cons_of_mem (List.mem_reverse.mpr hmem)
    have ht : t = before.reverse ++ c :: after.reverse := by
      rw [← List.reverse_reverse t, hreverse]
      simp
    rw [ht, splitLast_append (by simpa using hafter)] at h
    cases h
    exact ⟨ht, by simpa using hafter⟩
  · rintro ⟨rfl, htail⟩
    exact splitLast_append htail front

end Checkout.Text

namespace Checkout.CommandLine.Scan

/-- The words for a scan: the item alone for one unit, or the item, a colon and what stands for the
quantity. An item may hold colons of its own where the quantity is given. -/
inductive Means : Text → Scan → Prop
  | bare {item : Text} (h : ':' ∉ item) : Means item ⟨item, 1⟩
  | counted {item t : Text} {q : Int} (hitem : item ≠ []) (ht : ':' ∉ t)
      (hq : Numeral.StandsFor t q) : Means (item ++ ':' :: t) ⟨item, q⟩

theorem parse_bare {word : Text} (h : ':' ∉ word) : parse word = .ok ⟨word, 1⟩ := by
  rw [parse, Text.splitLast_eq_none.mpr h]

theorem parse_unnamed {t : Text} (ht : ':' ∉ t) :
    parse (':' :: t) = .error ⟨':' :: t, .missingName⟩ := by
  have hsplit := Text.splitLast_append ht []
  rw [List.nil_append] at hsplit
  rw [parse, hsplit]

theorem parse_counted {item t : Text} (hitem : item ≠ []) (ht : ':' ∉ t) {q : Int}
    (hq : Numeral.read? t = some q) : parse (item ++ ':' :: t) = .ok ⟨item, q⟩ := by
  obtain ⟨c, u, rfl⟩ := List.exists_cons_of_ne_nil hitem
  simp only [parse, Text.splitLast_append ht, hq]

theorem parse_miscounted {item t : Text} (hitem : item ≠ []) (ht : ':' ∉ t)
    (hq : Numeral.read? t = none) :
    parse (item ++ ':' :: t) = .error ⟨item ++ ':' :: t, .badQuantity⟩ := by
  obtain ⟨c, u, rfl⟩ := List.exists_cons_of_ne_nil hitem
  simp only [parse, Text.splitLast_append ht, hq]

/-- A word is a name, or has a last colon with a name in front of it or without one. -/
theorem word_cases (word : Text) :
    ':' ∉ word ∨ (∃ t, word = ':' :: t ∧ ':' ∉ t) ∨
      ∃ item t, word = item ++ ':' :: t ∧ item ≠ [] ∧ ':' ∉ t := by
  cases h : Text.splitLast ':' word with
  | none => exact .inl (Text.splitLast_eq_none.mp h)
  | some parts =>
      obtain ⟨item, t⟩ := parts
      obtain ⟨rfl, ht⟩ := Text.splitLast_eq_some.mp h
      cases item with
      | nil => exact .inr (.inl ⟨t, rfl, ht⟩)
      | cons c item => exact .inr (.inr ⟨c :: item, t, rfl, List.cons_ne_nil c item, ht⟩)

theorem parse_eq_ok {word : Text} {s : Scan} : parse word = .ok s ↔ Means word s := by
  constructor
  · intro h
    rcases word_cases word with hword | ⟨t, rfl, ht⟩ | ⟨item, t, rfl, hitem, ht⟩
    · rw [parse_bare hword] at h
      cases h
      exact .bare hword
    · rw [parse_unnamed ht] at h
      cases h
    · cases hq : Numeral.read? t with
      | none =>
          rw [parse_miscounted hitem ht hq] at h
          cases h
      | some q =>
          rw [parse_counted hitem ht hq] at h
          cases h
          exact .counted hitem ht (Numeral.read?_eq_some.mp hq)
  · intro h
    cases h with
    | bare h => exact parse_bare h
    | counted hitem ht hq => exact parse_counted hitem ht (Numeral.read?_eq_some.mpr hq)

theorem parse_error_word {word : Text} {e : Error} (h : parse word = .error e) : e.word = word := by
  rcases word_cases word with hword | ⟨t, rfl, ht⟩ | ⟨item, t, rfl, hitem, ht⟩
  · rw [parse_bare hword] at h
    cases h
  · rw [parse_unnamed ht] at h
    cases h
    rfl
  · cases hq : Numeral.read? t with
    | none =>
        rw [parse_miscounted hitem ht hq] at h
        cases h
        rfl
    | some q =>
        rw [parse_counted hitem ht hq] at h
        cases h

theorem no_colon_text {q : Int} : ':' ∉ Numeral.text q := by
  intro h
  have hdigit (h : ':' ∈ Numeral.natural q.natAbs) : False :=
    absurd (Numeral.natural_digit h) (by decide)
  rw [Numeral.text] at h
  split at h
  · rcases List.mem_cons.mp h with h | h
    · cases h
    · exact hdigit h
  · exact hdigit h

/-- Words are read as the scans they mean: a name with a quantity written after it reads back, any
name without a colon is one unit of it, and every word that means no scan is refused. -/
theorem parse_exact :
    (∀ item q, item ≠ [] → (Numeral.natural q.natAbs).length ≤ 4300 →
      parse (item ++ ':' :: Numeral.text q) = .ok ⟨item, q⟩) ∧
    (∀ item, ':' ∉ item → parse item = .ok ⟨item, 1⟩) ∧
    (∀ word s, parse word = .ok s ↔ Means word s) ∧
    ∀ word, (∀ s, ¬ Means word s) → ∃ fault, parse word = .error ⟨word, fault⟩ := by
  refine ⟨?_, fun item => parse_bare, fun word s => parse_eq_ok, ?_⟩
  · intro item q hitem hlen
    have hbound : q.natAbs < Numeral.bound := (Numeral.length_natural_le _).mp hlen
    have hwrite : Numeral.write? q = some (Numeral.text q) := by rw [Numeral.write?, if_pos hbound]
    exact parse_counted hitem no_colon_text (Numeral.read?_write? hwrite)
  · intro word h
    cases hparse : parse word with
    | ok s => exact absurd (parse_eq_ok.mp hparse) (h s)
    | error e =>
        obtain rfl := parse_error_word hparse
        exact ⟨e.fault, rfl⟩

/-- A name with a colon, and digits of two scripts with an underscore between them, after a sign and
white space. -/
theorem parse_exact_colons :
    "a:b".toList ≠ [] ∧ (Numeral.natural 30).length ≤ 4300 ∧
      parse ("a:b".toList ++ ':' :: Numeral.text (-30)) = .ok ⟨"a:b", -30⟩ ∧
      Means "a:b:\u2003-٣_0 " ⟨"a:b", -30⟩ := by
  have hitem : "a:b".toList ≠ [] := by decide
  have hlen : (Numeral.natural 30).length ≤ 4300 := by decide +kernel
  have hparse : parse "a:b:\u2003-٣_0 " = .ok ⟨"a:b", -30⟩ := by decide +kernel
  obtain ⟨hcounted, _, hmeans, _⟩ := parse_exact
  exact ⟨hitem, hlen, hcounted "a:b" (-30) hitem hlen, (hmeans _ _).mp hparse⟩

end Checkout.CommandLine.Scan
