import Checkout.Proofs.Placeholder

namespace Checkout.Template

def Piece.text : Piece → Text
  | .char c => [c]
  | .place p => p.token

def written (ps : List Piece) : Text := ps.flatMap Piece.text

theorem map_eq_ok {ε α β : Type} {x : Except ε α} {f : α → β} {b : β} :
    x.map f = .ok b ↔ ∃ a, x = .ok a ∧ f a = b := by
  cases x with
  | error e => simp [Except.map]
  | ok a => simp [Except.map]

theorem scan_skip (u t : Text) (position : Nat) :
    scan position u.length (u ++ t) = scan (position + u.length) 0 t := by
  induction u generalizing position with
  | nil => rfl
  | cons c u ih =>
      rw [List.length_cons, List.cons_append, scan, ih, Nat.add_assoc, Nat.add_comm 1]

theorem scan_char {c : Char} {t : Text} (h : shaped? (c :: t) = none) (position : Nat) :
    scan position 0 (c :: t) = (scan (position + 1) 0 t).map (.char c :: ·) := by
  rw [scan, h]

theorem scan_known {c : Char} {t token : Text} {p : Placeholder}
    (h : shaped? (c :: t) = some token) (hp : Placeholder.ofToken? token = some p)
    (position : Nat) :
    scan position 0 (c :: t) =
      (scan (position + 1) (token.length - 1) t).map (.place p :: ·) := by
  rw [scan, h]
  simp only [hp]

theorem scan_unknown {c : Char} {t token : Text} (h : shaped? (c :: t) = some token)
    (hu : Placeholder.ofToken? token = none) (position : Nat) :
    scan position 0 (c :: t) = .error ⟨token, position⟩ := by
  rw [scan, h]
  simp only [hu]

theorem scan_place (p : Placeholder) (t : Text) (position : Nat) :
    scan position 0 (p.token ++ t) =
      (scan (position + p.token.length) 0 t).map (.place p :: ·) := by
  have hshape : shaped? (p.token ++ t) = some p.token :=
    shaped?_eq_some.mpr ⟨List.prefix_append _ _, token_shaped p⟩
  have hknown : Placeholder.ofToken? p.token = some p := ofToken?_eq_some.mpr rfl
  obtain ⟨c, u, hu, _⟩ := (token_shaped p).cases_opener
  rw [hu] at hshape hknown ⊢
  rw [List.cons_append] at hshape ⊢
  rw [scan_known hshape hknown, List.length_cons, Nat.add_sub_cancel, scan_skip, Nat.add_assoc,
    Nat.add_comm 1]

/-- What is read is what is there, and a character is read as such only where no placeholder
begins. -/
theorem scan_sound {position skip : Nat} {t : Text} {ps : List Piece}
    (h : scan position skip t = .ok ps) :
    written ps = t.drop skip ∧
      ∀ c qs, .char c :: qs <:+ ps → shaped? (c :: written qs) = none := by
  induction t generalizing position skip ps with
  | nil =>
      cases h
      exact ⟨by simp [written], fun c qs hs => by simp at hs⟩
  | cons c t ih =>
      cases skip with
      | succ skip => exact ih h
      | zero =>
          cases hshape : shaped? (c :: t) with
          | none =>
              rw [scan_char hshape, map_eq_ok] at h
              obtain ⟨rest, hrest, rfl⟩ := h
              obtain ⟨hw, hplain⟩ := ih hrest
              rw [List.drop_zero] at hw ⊢
              refine ⟨congrArg (c :: ·) hw, ?_⟩
              intro d qs hs
              rcases List.suffix_cons_iff.mp hs with he | hs
              · cases he
                rwa [hw]
              · exact hplain d qs hs
          | some token =>
              cases hknown : Placeholder.ofToken? token with
              | none =>
                  rw [scan_unknown hshape hknown] at h
                  cases h
              | some p =>
                  rw [scan_known hshape hknown, map_eq_ok] at h
                  obtain ⟨rest, hrest, rfl⟩ := h
                  obtain ⟨hw, hplain⟩ := ih hrest
                  rw [ofToken?_eq_some] at hknown
                  obtain ⟨⟨u, hu⟩, hs⟩ := shaped?_eq_some.mp hshape
                  obtain ⟨_, tail, rfl, _⟩ := hs.cases_opener
                  cases hu
                  refine ⟨?_, ?_⟩
                  · have hcons : written (.place p :: rest) = p.token ++ written rest := rfl
                    rw [hcons, hw, hknown]
                    simp
                  · intro d qs hs
                    apply hplain d qs
                    rcases List.suffix_cons_iff.mp hs with he | hs
                    · cases he
                    · exact hs

/-- No placeholder, known or not, begins in the first text and ends in the second. -/
def Apart (a b : Text) : Prop :=
  ∀ u v, u <:+ a → v <+: b → Shaped (u ++ v) → u = [] ∨ v = []

theorem Apart.of_cons {c : Char} {a b : Text} (h : Apart (c :: a) b) : Apart a b :=
  fun u v hu hv => h u v (hu.trans (List.suffix_cons c a)) hv

/-- Where a bracket opens no placeholder goes on: none stands inside another one. -/
theorem apart_of_opener {a b : Text} (hb : ∀ c ∈ b.head?, isOpener c) : Apart a b := by
  rintro u v _ ⟨rest, rfl⟩ hs
  obtain ⟨c, k, hk, _, hclosed⟩ := hs.cases_opener
  cases u with
  | nil => exact .inl rfl
  | cons e u =>
      cases v with
      | nil => exact .inr rfl
      | cons d v =>
          cases hk
          have hopen := hb d rfl
          rw [hclosed d (by simp)] at hopen
          cases hopen

/-- What begins in the first text is over before the second. -/
theorem Apart.shaped?_append {a b : Text} (h : Apart a b) (ha : a ≠ []) :
    shaped? (a ++ b) = shaped? a := by
  apply Option.ext
  intro s
  rw [shaped?_eq_some, shaped?_eq_some]
  refine and_congr_left fun hs =>
    ⟨fun hfront => ?_, fun hfront => hfront.trans (List.prefix_append a b)⟩
  rcases List.prefix_or_prefix_of_prefix hfront (List.prefix_append a b) with hin | ⟨v, rfl⟩
  · exact hin
  · rw [List.prefix_append_right_inj] at hfront
    rcases h a v List.suffix_rfl hfront hs with rfl | rfl
    · exact absurd rfl ha
    · rw [List.append_nil]

theorem scan_append {a b : Text} (h : Apart a b) {skip : Nat} (hskip : skip ≤ a.length)
    (position : Nat) :
    scan position skip (a ++ b) = (scan position skip a).bind fun ps =>
      (scan (position + a.length) 0 b).map (ps ++ ·) := by
  induction a generalizing skip position with
  | nil =>
      cases Nat.le_zero.mp hskip
      cases hb : scan position 0 b <;> simp [scan, hb, Except.bind, Except.map]
  | cons c a ih =>
      have hlength : position + (c :: a).length = position + 1 + a.length := by
        rw [List.length_cons, Nat.add_assoc, Nat.add_comm 1]
      rw [hlength, List.cons_append]
      cases skip with
      | succ skip => exact ih h.of_cons (Nat.le_of_succ_le_succ hskip) (position + 1)
      | zero =>
          have hshaped : shaped? (c :: (a ++ b)) = shaped? (c :: a) :=
            h.shaped?_append (List.cons_ne_nil c a)
          have hmap (p : Piece) (r : Except Unknown (List Piece)) :
              (r.bind fun ps => (scan (position + 1 + a.length) 0 b).map (ps ++ ·)).map (p :: ·) =
                (r.map (p :: ·)).bind fun ps =>
                  (scan (position + 1 + a.length) 0 b).map (ps ++ ·) := by
            cases r with
            | error u => rfl
            | ok ps =>
                cases scan (position + 1 + a.length) 0 b <;> simp [Except.bind, Except.map]
          cases hs : shaped? (c :: a) with
          | none =>
              rw [scan_char (hshaped.trans hs), scan_char hs, ih h.of_cons (Nat.zero_le _), hmap]
          | some token =>
              cases hknown : Placeholder.ofToken? token with
              | none =>
                  rw [scan_unknown (hshaped.trans hs) hknown, scan_unknown hs hknown]
                  rfl
              | some p =>
                  have hinside : token.length - 1 ≤ a.length :=
                    Nat.sub_le_of_le_add (shaped?_eq_some.mp hs).1.length_le
                  rw [scan_known (hshaped.trans hs) hknown, scan_known hs hknown,
                    ih h.of_cons hinside, hmap]

theorem eq_map_char {ps : List Piece} (h : ∀ p : Placeholder, ¬ p.token <:+: written ps) :
    ps = (written ps).map .char := by
  induction ps with
  | nil => rfl
  | cons piece ps ih =>
      have hwritten : written (piece :: ps) = piece.text ++ written ps := rfl
      rw [hwritten] at h ⊢
      cases piece with
      | char c =>
          have hrest (p : Placeholder) : ¬ p.token <:+: written ps :=
            fun hp => h p (hp.trans (List.suffix_cons c _).isInfix)
          exact congrArg (.char c :: ·) (ih hrest)
      | place p => exact absurd (List.prefix_append _ _).isInfix (h p)

theorem scan_literal {l t : Text} (hl : ∀ p : Placeholder, ¬ p.token <:+: l)
    (ht : ∀ c ∈ t.head?, isOpener c) {position : Nat} {ps : List Piece}
    (h : scan position 0 (l ++ t) = .ok ps) :
    ∃ rest, scan (position + l.length) 0 t = .ok rest ∧ ps = l.map .char ++ rest := by
  rw [scan_append (apart_of_opener ht) (Nat.zero_le _)] at h
  cases hs : scan position 0 l with
  | error u =>
      rw [hs] at h
      cases h
  | ok front =>
      rw [hs, Except.bind, map_eq_ok] at h
      obtain ⟨rest, hrest, rfl⟩ := h
      have hfront := (scan_sound hs).1
      rw [List.drop_zero] at hfront
      have hplain : front = (written front).map .char := eq_map_char (by rwa [hfront])
      rw [hfront] at hplain
      exact ⟨rest, hrest, by rw [hplain]⟩

end Checkout.Template
