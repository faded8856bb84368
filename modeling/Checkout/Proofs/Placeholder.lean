import Checkout.Template
import Mathlib.Data.List.Infix
import Mathlib.Data.List.TakeWhile

namespace Checkout.Template

inductive Shaped : Text → Prop
  | short (a b : Char) (ha : a.isAlpha) (hb : b.isAlpha) : Shaped ['<', a, b, '>']
  | long (c : Char) (name : Text) (hc : isNameStart c) (hname : ∀ d ∈ name, isNameChar d) :
      Shaped ('\x7b' :: c :: (name ++ ['\x7d']))

def isOpener (c : Char) : Bool := c == '<' || c == '\x7b'

theorem not_isOpener_of_isAlphanum {c : Char} (h : c.isAlphanum) : isOpener c = false := by
  rw [isOpener, Bool.or_eq_false_iff, beq_eq_false_iff_ne, beq_eq_false_iff_ne]
  constructor <;> rintro rfl <;> exact absurd h (by decide)

theorem not_isOpener_of_isNameChar {c : Char} (h : isNameChar c) : isOpener c = false := by
  rw [isNameChar, Bool.or_eq_true] at h
  rcases h with h | h
  · exact not_isOpener_of_isAlphanum h
  · rw [beq_iff_eq] at h
    subst h
    rfl

theorem isAlphanum_of_isAlpha {c : Char} (h : c.isAlpha) : c.isAlphanum := by
  rw [Char.isAlphanum, h]
  rfl

theorem isNameChar_of_isNameStart {c : Char} (h : isNameStart c) : isNameChar c := by
  rw [isNameStart, Bool.or_eq_true] at h
  rw [isNameChar, Bool.or_eq_true]
  exact h.imp_left isAlphanum_of_isAlpha

/-- A placeholder begins where a bracket opens, and none opens inside it. So two of them in one
text lie apart or are the same. -/
theorem Shaped.cases_opener {s : Text} (h : Shaped s) :
    ∃ c t, s = c :: t ∧ isOpener c ∧ ∀ d ∈ t, isOpener d = false := by
  cases h with
  | short a b ha hb =>
      refine ⟨'<', [a, b, '>'], rfl, rfl, ?_⟩
      simp only [List.forall_mem_cons]
      exact ⟨not_isOpener_of_isAlphanum (isAlphanum_of_isAlpha ha),
        not_isOpener_of_isAlphanum (isAlphanum_of_isAlpha hb), rfl, List.forall_mem_nil _⟩
  | long c name hc hname =>
      refine ⟨'\x7b', c :: (name ++ ['\x7d']), rfl, rfl, ?_⟩
      rw [List.forall_mem_cons, List.forall_mem_append]
      exact ⟨not_isOpener_of_isNameChar (isNameChar_of_isNameStart hc),
        fun d hd => not_isOpener_of_isNameChar (hname d hd), by simp [isOpener]⟩

theorem Shaped.length_pos {s : Text} (h : Shaped s) : 0 < s.length := by
  obtain ⟨c, k, rfl, _⟩ := h.cases_opener
  exact Nat.zero_lt_succ _

theorem Shaped.ends_before {s s' t : Text} {i j : Nat} (h : Shaped s) (h' : Shaped s')
    (hs : s <+: t.drop i) (hs' : s' <+: t.drop j) (hij : i < j) : i + s.length ≤ j := by
  by_contra hinside
  obtain ⟨c, k, rfl, _, hclosed⟩ := h.cases_opener
  obtain ⟨d, k', rfl, hopen, _⟩ := h'.cases_opener
  obtain ⟨n, rfl⟩ := Nat.exists_eq_add_of_lt hij
  obtain ⟨rest, hrest⟩ := hs
  have hn : n < k.length := by
    rw [List.length_cons] at hinside
    omega
  have hdrop : t.drop (i + n + 1) = k[n] :: (k.drop (n + 1) ++ rest) := by
    rw [Nat.add_assoc, ← List.drop_drop, ← hrest, List.cons_append, List.drop_succ_cons,
      List.drop_append_of_le_length hn.le, List.drop_eq_getElem_cons hn]
    rfl
  rw [hdrop, List.cons_prefix_cons] at hs'
  rw [hs'.1, hclosed _ (List.getElem_mem hn)] at hopen
  cases hopen

theorem takeWhile_name {name : Text} (h : ∀ d ∈ name, isNameChar d) (t : Text) :
    (name ++ '\x7d' :: t).takeWhile isNameChar = name ∧
      (name ++ '\x7d' :: t).dropWhile isNameChar = '\x7d' :: t := by
  constructor
  · rw [List.takeWhile_append_of_pos h, List.takeWhile_cons_of_neg (by decide), List.append_nil]
  · rw [List.dropWhile_append_of_pos h, List.dropWhile_cons_of_neg (by decide)]

theorem shaped?_eq_some {t s : Text} : shaped? t = some s ↔ s <+: t ∧ Shaped s := by
  constructor
  · intro h
    rw [shaped?.eq_def] at h
    split at h
    · rename_i a b t
      split at h
      · rename_i hab
        rw [Bool.and_eq_true] at hab
        cases h
        exact ⟨⟨t, rfl⟩, .short a b hab.1 hab.2⟩
      · cases h
    · rename_i c t
      split at h
      · rename_i hc
        rw [Bool.and_eq_true, beq_iff_eq, List.head?_eq_some_iff] at hc
        obtain ⟨hc, rest, hrest⟩ := hc
        cases h
        refine ⟨⟨rest, ?_⟩, .long c _ hc fun d hd => List.mem_takeWhile_imp hd⟩
        have ht : t = t.takeWhile isNameChar ++ '\x7d' :: rest := by
          rw [← hrest, List.takeWhile_append_dropWhile]
        conv_rhs => rw [ht]
        simp
      · cases h
    · cases h
  · rintro ⟨⟨rest, rfl⟩, hs⟩
    cases hs with
    | short a b ha hb => simp [shaped?, ha, hb]
    | long c name hc hname =>
        obtain ⟨htake, hdrop⟩ := takeWhile_name hname rest
        simp [shaped?, hc, htake, hdrop]

theorem Shaped.unique {s s' t : Text} (h : Shaped s) (h' : Shaped s') (hs : s <+: t)
    (hs' : s' <+: t) : s = s' := by
  have hfound := shaped?_eq_some.mpr ⟨hs, h⟩
  rw [shaped?_eq_some.mpr ⟨hs', h'⟩] at hfound
  exact (Option.some.inj hfound).symm

theorem token_shaped (p : Placeholder) : Shaped p.token := by
  rcases p with ⟨_ | _ | _, _ | _⟩
  · exact .short 'q' 't' rfl rfl
  · exact .long 'q' "uantity" rfl (List.all_eq_true.mp rfl)
  · exact .short 'p' 'n' rfl rfl
  · exact .long 'n' "ame" rfl (List.all_eq_true.mp rfl)
  · exact .short 'p' 'c' rfl rfl
  · exact .long 'p' "rice" rfl (List.all_eq_true.mp rfl)

theorem ofToken?_eq_some {t : Text} {p : Placeholder} :
    Placeholder.ofToken? t = some p ↔ p.token = t := by
  constructor
  · intro h
    rw [Placeholder.ofToken?] at h
    simpa using List.find?_some h
  · rintro rfl
    rcases p with ⟨_ | _ | _, _ | _⟩ <;> decide

theorem token_injective {p q : Placeholder} (h : p.token = q.token) : p = q := by
  have hknown := ofToken?_eq_some.mpr h
  rw [ofToken?_eq_some.mpr rfl] at hknown
  exact (Option.some.inj hknown).symm

end Checkout.Template
