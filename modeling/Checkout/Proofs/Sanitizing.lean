import Checkout.Proofs.Controls
import Mathlib.Data.List.Basic

namespace Checkout.Log

def spelling : Char → Text
  | '\n' => "\\n"
  | '\r' => "\\r"
  | '\t' => "\\t"
  | '\x00' => []
  | c => [c]

def Clean (t : Text) : Prop := ∀ c ∈ escaped, c ∉ t

theorem clean_append {a b : Text} : Clean (a ++ b) ↔ Clean a ∧ Clean b := by
  simp only [Clean, List.mem_append, not_or]
  exact forall₂_and

theorem Clean.take {t : Text} (h : Clean t) (n : Nat) : Clean (t.take n) :=
  fun c hc hmem => h c hc (List.mem_of_mem_take hmem)

theorem clean_dots : Clean "..." := by
  simp [Clean, escaped]

theorem clean_escape (t : Text) : Clean (escape t) := by
  intro c hc hmem
  have hcontrol : ∀ d ∈ escaped, Text.isControl d = true := List.all_eq_true.mp rfl
  exact (controls_escape t c hmem (hcontrol c hc)).2 hc

theorem substitute_of_not_mem {k : Char} {t : Text} (h : k ∉ t) (w : Text) :
    substitute k w t = t := by
  have hkept : ∀ d ∈ t, (if d = k then w else [d]) = [d] := by
    intro d hd
    rw [if_neg]
    rintro rfl
    exact h hd
  rw [substitute, List.flatMap_congr hkept, List.flatMap_singleton']

theorem Clean.escape_eq {t : Text} (h : Clean t) : escape t = t := by
  simp only [Clean, escaped, List.forall_mem_cons] at h
  obtain ⟨hfeed, hreturn, htab, hnul, _⟩ := h
  rw [escape, substitute_of_not_mem hfeed, substitute_of_not_mem hreturn,
    substitute_of_not_mem htab, substitute_of_not_mem hnul]

/-- Nothing that one replacement puts in is found by a later one. -/
theorem escape_singleton (c : Char) : escape [c] = spelling c := by
  rw [spelling.eq_def]
  split
  · rfl
  · rfl
  · rfl
  · rfl
  · rename_i hfeed hreturn htab hnul
    apply Clean.escape_eq
    simp only [Clean, escaped, List.mem_singleton, List.forall_mem_cons, forall_eq]
    exact ⟨Ne.symm hfeed, Ne.symm hreturn, Ne.symm htab, Ne.symm hnul⟩

theorem escape_cons (c : Char) (t : Text) : escape (c :: t) = escape [c] ++ escape t := by
  simp only [escape, substitute, ← List.flatMap_append]
  rfl

theorem escape_eq_flatMap (t : Text) : escape t = t.flatMap spelling := by
  induction t with
  | nil => rfl
  | cons c t ih => rw [escape_cons, escape_singleton, ih, List.flatMap_cons]

theorem truncate_natCast (m : Nat) (t : Text) :
    truncate m t = if t.length ≤ m then t else t.take m ++ "..." := by
  simp [truncate, firstChars]

theorem length_truncate_le (m : Nat) (t : Text) : (truncate m t).length ≤ m + 3 := by
  rw [truncate_natCast]
  split
  · omega
  · have hdots : ("..." : Text).length = 3 := rfl
    rw [List.length_append, List.length_take, hdots]
    omega

theorem Clean.truncate {t : Text} (h : Clean t) (m : Nat) : Clean (truncate m t) := by
  rw [truncate_natCast]
  split
  · exact h
  · exact clean_append.mpr ⟨h.take m, clean_dots⟩

theorem truncate_eq_nil {m : Nat} {t : Text} : truncate m t = [] ↔ t = [] := by
  rw [truncate_natCast]
  split
  · exact Iff.rfl
  · rename_i hlong
    constructor
    · intro h
      exact absurd (List.append_eq_nil_iff.mp h).2 (by decide)
    · rintro rfl
      exact absurd (Nat.zero_le m) hlong

/-- A text that was cut is cut at the same place again, and ends in the same dots. -/
theorem truncate_truncate (m : Nat) (t : Text) : truncate m (truncate m t) = truncate m t := by
  rw [truncate_natCast m t]
  split
  · rw [truncate_natCast, if_pos (by assumption)]
  · have hfront : (t.take m).length = m := by
      rw [List.length_take]
      omega
    have hlong : ¬ (t.take m ++ ("..." : Text)).length ≤ m := by
      rw [List.length_append, hfront]
      exact Nat.not_le.mpr (Nat.lt_add_of_pos_right (by decide))
    rw [truncate_natCast, if_neg hlong, List.take_left' hfront]

theorem sanitize_eq {t : Text} (ht : t ≠ []) (limit : Int) :
    sanitize limit (some t) = truncate limit (escape t) := by
  cases t with
  | nil => exact absurd rfl ht
  | cons c t => rfl

/-- Sanitizing spells out each character by itself and then cuts. However a spelling is cut in two,
nothing is left to escape, and a second sanitizing finds nothing to do, unless there is no text left
at all. -/
theorem sanitize_by_character {t : Text} (ht : t ≠ []) (m : Nat) :
    let e := t.flatMap spelling
    let s := sanitize m (some t)
    s = (if e.length ≤ m then e else e.take m ++ "...") ∧
    (∀ c ∈ ['\n', '\r', '\t', '\x00'], c ∉ s) ∧
    s.length ≤ m + 3 ∧
    sanitize m (some s) = (if e = [] then ("N/A" : Text) else s) := by
  intro e s
  have he : escape t = e := escape_eq_flatMap t
  have hs : s = truncate m e := by
    rw [← he]
    exact sanitize_eq ht m
  have hclean : Clean s := by
    rw [hs, ← he]
    exact (clean_escape t).truncate m
  refine ⟨hs.trans (truncate_natCast m e), hclean, ?_, ?_⟩
  · rw [hs]
    exact length_truncate_le m e
  · by_cases hnil : e = []
    · rw [if_pos hnil, hs, truncate_eq_nil.mpr hnil]
      rfl
    · have hne : s ≠ [] := by rwa [hs, Ne, truncate_eq_nil]
      rw [if_neg hnil, sanitize_eq hne, hclean.escape_eq, hs, truncate_truncate]

/-- The cut falls between the backslash and the letter of a spelled out line feed. -/
theorem sanitize_by_character_cut :
    let t : Text := "\\cup\x00\npen"
    t ≠ [] ∧ t.flatMap spelling = "\\cup\\npen".toList ∧
      sanitize 5 (some t) = "\\cup\\..." ∧ sanitize 5 (some "\\cup\\...") = "\\cup\\..." := by
  intro t
  have ht : t ≠ [] := by decide
  obtain ⟨hs, _, _, hagain⟩ := sanitize_by_character ht 5
  have hcut : sanitize 5 (some t) = "\\cup\\..." := hs.trans (by decide)
  exact ⟨ht, by decide, hcut, by rw [← hcut]; exact hagain⟩

end Checkout.Log
