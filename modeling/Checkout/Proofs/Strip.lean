import Checkout.Text
import Mathlib.Data.List.TakeWhile

namespace Checkout.Text

structure Bare (p : Char → Bool) (t : Text) : Prop where
  head : ∀ c, t.head? = some c → p c = false
  last : ∀ c, t.getLast? = some c → p c = false

theorem bare_of_forall {p : Char → Bool} {t : Text} (h : ∀ c ∈ t, p c = false) : Bare p t :=
  ⟨fun c hc => h c (List.mem_of_head? hc), fun c hc => h c (List.mem_of_getLast? hc)⟩

theorem dropWhile_append_bare {p : Char → Bool} {front u : Text} (hfront : ∀ c ∈ front, p c = true)
    (hu : ∀ c, u.head? = some c → p c = false) (hne : u ≠ []) (back : Text) :
    (front ++ (u ++ back)).dropWhile p = u ++ back := by
  rw [List.dropWhile_append_of_pos hfront]
  cases u with
  | nil => exact absurd rfl hne
  | cons c u => rw [List.cons_append, List.dropWhile_cons_of_neg (by simp [hu c rfl])]

/-- What does not begin with a character of a kind stays, and what is before it is cut alone. -/
theorem dropWhile_append_left {p : Char → Bool} (t : Text) {u : Text}
    (hu : ∀ c, u.head? = some c → p c = false) :
    (t ++ u).dropWhile p = t.dropWhile p ++ u := by
  induction t with
  | nil =>
      cases u with
      | nil => rfl
      | cons c u => rw [List.nil_append, List.dropWhile_cons_of_neg (by simp [hu c rfl])]; rfl
  | cons d t ih =>
      rw [List.cons_append, List.dropWhile_cons, List.dropWhile_cons, ih]
      split <;> rfl

/-- What stands between characters of a kind is what trimming leaves. -/
theorem trim_append {p : Char → Bool} {front u back : Text} (hfront : ∀ c ∈ front, p c = true)
    (hu : Bare p u) (hback : ∀ c ∈ back, p c = true) : trim p (front ++ u ++ back) = u := by
  by_cases hne : u = []
  · have hall : ∀ c ∈ front ++ u ++ back, p c = true := by
      intro c hc
      simp only [hne, List.append_nil, List.mem_append] at hc
      exact hc.elim (hfront c) (hback c)
    rw [trim, List.dropWhile_eq_nil_iff.mpr hall, hne]
    rfl
  · have hlast : ∀ c, u.reverse.head? = some c → p c = false := by
      intro c hc
      rw [List.head?_reverse] at hc
      exact hu.last c hc
    have hreverse : ∀ c ∈ back.reverse, p c = true := by simpa using hback
    have hrest := dropWhile_append_bare hreverse hlast (by simpa using hne) []
    rw [List.append_nil] at hrest
    rw [trim, List.append_assoc, dropWhile_append_bare hfront hu.head hne, List.reverse_append,
      hrest, List.reverse_reverse]

theorem trim_of_bare {p : Char → Bool} {u : Text} (hu : Bare p u) : trim p u = u := by
  have h : trim p ([] ++ u ++ []) = u := trim_append nofun hu nofun
  rwa [List.nil_append, List.append_nil] at h

theorem trim_spec (p : Char → Bool) (t : Text) :
    ∃ front back, t = front ++ trim p t ++ back ∧ (∀ c ∈ front, p c = true) ∧ Bare p (trim p t) ∧
      ∀ c ∈ back, p c = true := by
  have hmem {u : Text} : ∀ c ∈ u.takeWhile p, p c = true := fun _ hc => List.mem_takeWhile_imp hc
  have hback : t.dropWhile p = trim p t ++ ((t.dropWhile p).reverse.takeWhile p).reverse := by
    rw [trim, ← List.reverse_append, List.takeWhile_append_dropWhile, List.reverse_reverse]
  refine ⟨t.takeWhile p, ((t.dropWhile p).reverse.takeWhile p).reverse, ?_, hmem, ⟨?_, ?_⟩, ?_⟩
  · rw [List.append_assoc, ← hback, List.takeWhile_append_dropWhile]
  · intro c hc
    have hhead : (t.dropWhile p).head? = some c := by
      rw [hback, List.head?_append, hc]
      rfl
    have h := List.head?_dropWhile_not p t
    rwa [hhead] at h
  · intro c hc
    have h := List.head?_dropWhile_not p (t.dropWhile p).reverse
    rw [trim, List.getLast?_reverse] at hc
    rwa [hc] at h
  · intro c hc
    exact hmem c (List.mem_reverse.mp hc)

theorem mem_of_mem_trim {p : Char → Bool} {t : Text} {c : Char} (hc : c ∈ trim p t) : c ∈ t := by
  obtain ⟨front, back, ht, _⟩ := trim_spec p t
  rw [ht]
  exact List.mem_append_left _ (List.mem_append_right _ hc)

theorem mem_trim {p : Char → Bool} {t : Text} {c : Char} (hc : c ∈ t) (hp : p c = false) :
    c ∈ trim p t := by
  obtain ⟨front, back, ht, hfront, _, hback⟩ := trim_spec p t
  have hnot {u : Text} (hu : ∀ d ∈ u, p d = true) : c ∉ u := by
    intro hmem
    rw [hu c hmem] at hp
    cases hp
  rw [ht, List.mem_append, List.mem_append] at hc
  exact (hc.resolve_right (hnot hback)).resolve_left (hnot hfront)

theorem bare_trim (p : Char → Bool) (t : Text) : Bare p (trim p t) := by
  obtain ⟨_, _, _, _, h, _⟩ := trim_spec p t
  exact h

theorem trim_between {p : Char → Bool} {front back : Text} (hfront : ∀ c ∈ front, p c = true)
    (hback : ∀ c ∈ back, p c = true) (t : Text) : trim p (front ++ t ++ back) = trim p t := by
  obtain ⟨f, b, ht, hf, hbare, hb⟩ := trim_spec p t
  have happend : front ++ t ++ back = (front ++ f) ++ trim p t ++ (b ++ back) := by
    conv =>
      lhs
      rw [ht]
    simp only [List.append_assoc]
  rw [happend, trim_append (List.forall_mem_append.mpr ⟨hfront, hf⟩) hbare
    (List.forall_mem_append.mpr ⟨hb, hback⟩)]

end Checkout.Text
