import Checkout.Proofs.LineFormat

namespace Checkout

namespace Template

theorem shaped_iff {s : Text} : Shaped s ↔ shaped? s = some s := by
  rw [shaped?_eq_some]
  exact ⟨fun h => ⟨List.prefix_rfl, h⟩, fun h => h.2⟩

instance (a b : Text) : Decidable (Apart a b) :=
  decidable_of_iff
    (∀ u ∈ a.tails, ∀ v ∈ b.inits, shaped? (u ++ v) = some (u ++ v) → u = [] ∨ v = []) (by
      simp only [List.mem_tails, List.mem_inits, ← shaped_iff]
      exact ⟨fun h u v hu hv => h u hu v hv, fun h u hu v hv => h u v hu hv⟩)

def Unknown.shift (n : Nat) (u : Unknown) : Unknown := ⟨u.token, n + u.position⟩

theorem scan_shift (n position skip : Nat) (t : Text) :
    scan (n + position) skip t = (scan position skip t).mapError (Unknown.shift n) := by
  induction t generalizing position skip with
  | nil => cases skip <;> rfl
  | cons c t ih =>
      have hmap (p : Piece) (r : Except Unknown (List Piece)) :
          (r.mapError (Unknown.shift n)).map (p :: ·) =
            (r.map (p :: ·)).mapError (Unknown.shift n) := by
        cases r <;> rfl
      cases skip with
      | succ skip => exact ih (position + 1) skip
      | zero =>
          cases hs : shaped? (c :: t) with
          | none => rw [scan_char hs, scan_char hs, Nat.add_assoc, ih, hmap]
          | some token =>
              cases hknown : Placeholder.ofToken? token with
              | none =>
                  rw [scan_unknown hs hknown, scan_unknown hs hknown]
                  rfl
              | some p => rw [scan_known hs hknown, scan_known hs hknown, Nat.add_assoc, ih, hmap]

theorem pieces_append {a b : Text} (h : Apart a b) :
    pieces (a ++ b) = (pieces a).bind fun ps =>
      ((pieces b).mapError (Unknown.shift a.length)).map (ps ++ ·) := by
  have hb := scan_shift a.length 0 0 b
  rw [Nat.add_zero] at hb
  rw [pieces, scan_append h (Nat.zero_le _), Nat.zero_add, hb]
  rfl

theorem fill_append {a b : Text} (h : Apart a b) (ha : a ≠ []) (hb : b ≠ []) (v : Values) :
    fill v (some (a ++ b)) = (fill v (some a)).bind fun x =>
      ((fill v (some b)).mapError (Unknown.shift a.length)).map (x ++ ·) := by
  have hab : a ++ b ≠ [] := List.append_ne_nil_of_left_ne_nil ha b
  rw [fill_eq_filled hab, fill_eq_filled ha, fill_eq_filled hb, filled, filled, filled,
    pieces_append h]
  cases pieces a with
  | error u => rfl
  | ok ps =>
      cases pieces b with
      | error u => rfl
      | ok qs => simp [Except.bind, Except.map, Except.mapError]

end Template

open Template (Apart)

/-- Two templates one after the other make one line of the two that they make, unless a placeholder
lies across the seam. The first one that is refused decides how both together are refused. -/
theorem LineFormat.render_append {a b : Text} (ha : a ≠ []) (hb : b ≠ []) (h : Apart a b)
    {symbol : Text} {quantity : Int} (name : Text) {price : Int}
    (hq : Numeral.write? quantity ≠ none) (hp : Amount.format? symbol price ≠ none) :
    let line := fun template => render symbol (some template) quantity name price
    (∀ text, line (a ++ b) = .ok text ↔
      ∃ x y, line a = .ok x ∧ line b = .ok y ∧ text = x ++ y) ∧
    (∀ u, line a = .error (.unknown u) → line (a ++ b) = .error (.unknown u)) ∧
    (∀ x u, line a = .ok x → line b = .error (.unknown u) →
      line (a ++ b) = .error (.unknown ⟨u.token, a.length + u.position⟩)) := by
  intro line
  obtain ⟨q, hq⟩ := Option.ne_none_iff_exists'.mp hq
  obtain ⟨p, hp⟩ := Option.ne_none_iff_exists'.mp hp
  have hline (t : Text) :
      line t = (Template.fill ⟨q, name, p⟩ (some t)).mapError .unknown := by
    simp only [line, render, values?, hq, hp]
    cases Template.fill ⟨q, name, p⟩ (some t) <;> rfl
  simp only [hline, Template.fill_append h ha hb]
  cases Template.fill ⟨q, name, p⟩ (some a) with
  | error u => simp [Except.bind, Except.mapError]
  | ok x =>
      cases Template.fill ⟨q, name, p⟩ (some b) with
      | error u => simp [Except.bind, Except.map, Except.mapError, Template.Unknown.shift]
      | ok y => simp [Except.bind, Except.map, Except.mapError, eq_comm]

/-- The brace that opens at the end of the first template and the one that closes in the second
have no identifier between them. -/
theorem LineFormat.render_append_braces :
    let line := fun template => render "€" (some template) 2 "tea" 300
    Apart "<pn> \x7bna" "-me\x7d <qt>" ∧
      line ("<pn> \x7bna".toList ++ "-me\x7d <qt>".toList) = .ok "tea \x7bna-me\x7d 2" := by
  intro line
  have hapart : Apart "<pn> \x7bna" "-me\x7d <qt>" := by decide +kernel
  refine ⟨hapart, ?_⟩
  refine ((render_append (by decide) (by decide) hapart "tea" ?_ ?_).1 _).mpr
    ⟨"tea \x7bna", "-me\x7d 2", ?_, ?_, ?_⟩
  all_goals decide +kernel

end Checkout
