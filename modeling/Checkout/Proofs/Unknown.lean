import Checkout.Proofs.Scanning

namespace Checkout.Template

theorem ofToken?_eq_none {t : Text} :
    Placeholder.ofToken? t = none ↔ ∀ p : Placeholder, p.token ≠ t := by
  rw [Option.eq_none_iff_forall_ne_some]
  apply forall_congr'
  intro p
  rw [Ne, ofToken?_eq_some]

namespace Unknown

/-- An unknown placeholder is there, whether or not a reader from the left comes past its first
character. -/
structure StandsIn (u : Unknown) (t : Text) : Prop where
  front : u.token <+: t.drop u.position
  shaped : Shaped u.token
  unknown : ∀ p : Placeholder, p.token ≠ u.token

structure LeftmostIn (u : Unknown) (t : Text) : Prop where
  stands : u.StandsIn t
  least : ∀ v : Unknown, v.StandsIn t → u.position ≤ v.position

theorem standsIn_zero {s t : Text} :
    (⟨s, 0⟩ : Unknown).StandsIn t ↔ shaped? t = some s ∧ Placeholder.ofToken? s = none := by
  rw [shaped?_eq_some, ofToken?_eq_none]
  exact ⟨fun h => ⟨⟨h.front, h.shaped⟩, h.unknown⟩, fun h => ⟨h.1.1, h.1.2, h.2⟩⟩

theorem standsIn_succ {s t : Text} {c : Char} {i : Nat} :
    (⟨s, i + 1⟩ : Unknown).StandsIn (c :: t) ↔ (⟨s, i⟩ : Unknown).StandsIn t :=
  ⟨fun h => ⟨h.front, h.shaped, h.unknown⟩, fun h => ⟨h.front, h.shaped, h.unknown⟩⟩

theorem not_standsIn_cons {c : Char} {t : Text}
    (h : ∀ s, ¬ (⟨s, 0⟩ : Unknown).StandsIn (c :: t)) (ht : ∀ u : Unknown, ¬ u.StandsIn t) :
    ∀ u : Unknown, ¬ u.StandsIn (c :: t) := by
  rintro ⟨s, _ | i⟩ hu
  · exact h s hu
  · exact ht _ (standsIn_succ.mp hu)

theorem LeftmostIn.cons {c : Char} {s t : Text} {i : Nat}
    (h : ∀ s, ¬ (⟨s, 0⟩ : Unknown).StandsIn (c :: t))
    (hl : (⟨s, i⟩ : Unknown).LeftmostIn t) : (⟨s, i + 1⟩ : Unknown).LeftmostIn (c :: t) := by
  refine ⟨standsIn_succ.mpr hl.stands, ?_⟩
  rintro ⟨s', _ | j⟩ hv
  · exact absurd hv (h s')
  · exact Nat.succ_le_succ (hl.least _ (standsIn_succ.mp hv))

theorem LeftmostIn.unique {u v : Unknown} {t : Text} (hu : u.LeftmostIn t) (hv : v.LeftmostIn t) :
    u = v := by
  have hp : u.position = v.position :=
    Nat.le_antisymm (hu.least v hv.stands) (hv.least u hu.stands)
  have hfront : v.token <+: t.drop u.position := by
    rw [hp]
    exact hv.stands.front
  have hs : u.token = v.token :=
    hu.stands.shaped.unique hv.stands.shaped hu.stands.front hfront
  rcases u with ⟨token, position⟩
  cases hp
  cases hs
  rfl

theorem LeftmostIn.slice {u : Unknown} {t : Text} (h : u.LeftmostIn t) :
    (t.drop u.position).take u.token.length = u.token :=
  (List.prefix_iff_eq_take.mp h.stands.front).symm

theorem exists_standsIn {t : Text} :
    (∃ u : Unknown, u.StandsIn t) ↔
      ∃ s, s <:+: t ∧ Shaped s ∧ ∀ p : Placeholder, p.token ≠ s := by
  constructor
  · rintro ⟨u, hu⟩
    exact ⟨u.token, hu.front.isInfix.trans (List.drop_suffix _ _).isInfix, hu.shaped, hu.unknown⟩
  · rintro ⟨s, ⟨a, b, rfl⟩, hs, hp⟩
    exact ⟨⟨s, a.length⟩, ⟨⟨b, by simp⟩, hs, hp⟩⟩

end Unknown

open Unknown

theorem not_standsIn_of_not_opener {c : Char} (hc : isOpener c = false) (s t : Text) :
    ¬ (⟨s, 0⟩ : Unknown).StandsIn (c :: t) := by
  rintro ⟨⟨rest, hs⟩, hshape, _⟩
  obtain ⟨d, k, rfl, hd, _⟩ := hshape.cases_opener
  cases hs
  rw [hc] at hd
  cases hd

def Finds (position : Nat) (t : Text) (r : Except Unknown (List Piece)) : Prop :=
  (∃ ps, r = .ok ps ∧ ∀ u : Unknown, ¬ u.StandsIn t) ∨
    ∃ s i, r = .error ⟨s, position + i⟩ ∧ (⟨s, i⟩ : Unknown).LeftmostIn t

theorem Finds.cons {position : Nat} {c : Char} {t : Text} {r : Except Unknown (List Piece)}
    (h : Finds (position + 1) t r) (hc : ∀ s, ¬ (⟨s, 0⟩ : Unknown).StandsIn (c :: t)) :
    Finds position (c :: t) r := by
  rcases h with ⟨ps, hr, hn⟩ | ⟨s, i, hr, hl⟩
  · exact .inl ⟨ps, hr, not_standsIn_cons hc hn⟩
  · rw [Nat.add_assoc, Nat.add_comm 1] at hr
    exact .inr ⟨s, i + 1, hr, hl.cons hc⟩

theorem Finds.map {position : Nat} {t : Text} {r : Except Unknown (List Piece)}
    (h : Finds position t r) (f : List Piece → List Piece) : Finds position t (r.map f) := by
  rcases h with ⟨ps, rfl, hn⟩ | ⟨s, i, rfl, hl⟩
  · exact .inl ⟨f ps, rfl, hn⟩
  · exact .inr ⟨s, i, rfl, hl⟩

/-- What is skipped is the inside of a placeholder. No bracket opens there, so nothing that the
reader jumps over can begin an unknown one. -/
theorem scan_finds {skip : Nat} {t : Text} (hskip : ∀ c ∈ t.take skip, isOpener c = false)
    (position : Nat) : Finds position t (scan position skip t) := by
  induction t generalizing skip position with
  | nil =>
      refine .inl ⟨[], by cases skip <;> rfl, ?_⟩
      rintro u ⟨hu, hs, _⟩
      obtain ⟨c, k, hk, _⟩ := hs.cases_opener
      simp [hk] at hu
  | cons c t ih =>
      cases skip with
      | succ skip =>
          rw [List.take_succ_cons, List.forall_mem_cons] at hskip
          exact (ih hskip.2 (position + 1)).cons fun s => not_standsIn_of_not_opener hskip.1 s t
      | zero =>
          cases hshape : shaped? (c :: t) with
          | none =>
              rw [scan_char hshape]
              have hnothing : ∀ d ∈ t.take 0, isOpener d = false := by simp
              apply ((ih hnothing (position + 1)).map _).cons
              intro s hs
              rw [standsIn_zero, hshape] at hs
              cases hs.1
          | some token =>
              cases hknown : Placeholder.ofToken? token with
              | none =>
                  refine .inr ⟨token, 0, scan_unknown hshape hknown position, ?_, ?_⟩
                  · exact standsIn_zero.mpr ⟨hshape, hknown⟩
                  · exact fun v _ => Nat.zero_le _
              | some p =>
                  rw [scan_known hshape hknown]
                  have hinside : ∀ d ∈ t.take (token.length - 1), isOpener d = false := by
                    obtain ⟨⟨rest, hrest⟩, hs⟩ := shaped?_eq_some.mp hshape
                    obtain ⟨d, k, rfl, _, hclosed⟩ := hs.cases_opener
                    rw [List.cons_append, List.cons.injEq] at hrest
                    rw [← hrest.2, List.length_cons, Nat.add_sub_cancel, List.take_left]
                    exact hclosed
                  apply ((ih hinside (position + 1)).map _).cons
                  intro s hs
                  rw [standsIn_zero, hshape, Option.some_inj] at hs
                  rw [← hs.1, hknown] at hs
                  cases hs.2

theorem pieces_finds (t : Text) : Finds 0 t (pieces t) := by
  have hnothing : ∀ d ∈ t.take 0, isOpener d = false := by simp
  exact scan_finds hnothing 0

theorem pieces_eq_error {t : Text} {u : Unknown} : pieces t = .error u ↔ u.LeftmostIn t := by
  rcases pieces_finds t with ⟨ps, h, hn⟩ | ⟨s, i, h, hl⟩
  · rw [h]
    exact ⟨nofun, fun hu => absurd hu.stands (hn u)⟩
  · rw [Nat.zero_add] at h
    rw [h, Except.error.injEq]
    constructor
    · rintro rfl
      exact hl
    · exact hl.unique

theorem exists_leftmostIn {t : Text} :
    (∃ u : Unknown, u.LeftmostIn t) ↔
      ∃ s, s <:+: t ∧ Shaped s ∧ ∀ p : Placeholder, p.token ≠ s := by
  rw [← exists_standsIn]
  constructor
  · rintro ⟨u, hu⟩
    exact ⟨u, hu.stands⟩
  · rintro ⟨v, hv⟩
    rcases pieces_finds t with ⟨_, _, hn⟩ | ⟨s, i, _, hl⟩
    · exact absurd hv (hn v)
    · exact ⟨_, hl⟩

end Checkout.Template
