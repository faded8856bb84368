import Checkout.Basket
import Checkout.Proofs.Table
import Mathlib.Data.List.Perm.Basic

namespace Checkout.Basket

/-- The two tables agree: what is held is held in a positive number and has a place in the order,
and neither table names an item twice. -/
structure Consistent (b : Basket) : Prop where
  positive : ∀ item q, b.quantities.get? item = some q → 0 < q
  placed : ∀ item, b.holds item → item ∈ b.order
  names_nodup : b.quantities.names.Nodup
  order_nodup : b.order.Nodup

theorem consistent_empty : empty.Consistent where
  positive _ _ h := by cases h
  placed _ h := by cases h
  names_nodup := List.nodup_nil
  order_nodup := List.nodup_nil

theorem Consistent.get?_eq {b : Basket} (hb : b.Consistent) (item : Text) :
    b.quantities.get? item = if 0 < b.units item then some (b.units item) else none := by
  cases h : b.quantities.get? item with
  | none => simp [units, h]
  | some q => simp [units, h, hb.positive item q h]

theorem Consistent.holds_iff {b : Basket} (hb : b.Consistent) (item : Text) :
    b.holds item ↔ 0 < b.units item := by
  rw [holds, hb.get?_eq]
  by_cases h : 0 < b.units item <;> simp [h]

theorem Consistent.units_nonneg {b : Basket} (hb : b.Consistent) (item : Text) :
    0 ≤ b.units item := by
  cases h : b.quantities.get? item with
  | none => simp [units, h]
  | some q =>
      have hq := hb.positive item q h
      simp only [units, h, Option.getD_some]
      omega

theorem mem_place (item other : Text) (order : List Text) :
    other ∈ place item order ↔ other = item ∨ other ∈ order := by
  by_cases h : item ∈ order
  · rw [place, if_pos h]
    exact ⟨Or.inr, fun ho => ho.elim (fun he => he ▸ h) id⟩
  · rw [place, if_neg h]
    simp [or_comm]

theorem nodup_place {order : List Text} (h : order.Nodup) (item : Text) :
    (place item order).Nodup := by
  by_cases hi : item ∈ order
  · rw [place, if_pos hi]
    exact h
  · rw [place, if_neg hi]
    simpa using List.Nodup.concat hi h

/-- What an accepted scan does: it puts a new item in, changes the units of one that is held, or
takes the last of them out. -/
theorem add_cases {b b' : Basket} {item : Text} {d : Int} (h : b.add item d = .ok b') :
    (b.quantities.get? item = none ∧ 0 < d ∧
      b' = ⟨b.quantities.insert item d, place item b.order⟩) ∨
    (∃ held, b.quantities.get? item = some held ∧ 0 < held + d ∧
      b' = { b with quantities := b.quantities.insert item (held + d) }) ∨
    (∃ held, b.quantities.get? item = some held ∧ held + d = 0 ∧
      b' = { b with quantities := b.quantities.erase item }) := by
  rw [add] at h
  cases hg : b.quantities.get? item with
  | none =>
      simp only [hg] at h
      split at h
      · cases h
      · cases h
        exact .inl ⟨rfl, by omega, rfl⟩
  | some held =>
      simp only [hg] at h
      split at h
      · cases h
      · split at h
        · cases h
          exact .inr (.inr ⟨held, rfl, by assumption, rfl⟩)
        · cases h
          exact .inr (.inl ⟨held, rfl, by omega, rfl⟩)

theorem units_add {b b' : Basket} {item : Text} {d : Int} (h : b.add item d = .ok b')
    (other : Text) : b'.units other = b.units other + if other = item then d else 0 := by
  rcases add_cases h with ⟨hg, _, rfl⟩ | ⟨held, hg, _, rfl⟩ | ⟨held, hg, hz, rfl⟩
  · rw [units, units, Table.get?_insert]
    by_cases ho : other = item
    · simp [ho, hg]
    · simp [ho]
  · rw [units, units, Table.get?_insert]
    by_cases ho : other = item
    · simp [ho, hg]
    · simp [ho]
  · rw [units, units, Table.get?_erase]
    by_cases ho : other = item
    · simp [ho, hg, hz]
    · simp [ho]

theorem Consistent.order_add {b b' : Basket} (hb : b.Consistent) {item : Text} {d : Int}
    (h : b.add item d = .ok b') : b'.order = place item b.order := by
  have hplaced (held : Int) (hg : b.quantities.get? item = some held) :
      b.order = place item b.order := by
    rw [place, if_pos (hb.placed item (by simp [holds, hg]))]
  rcases add_cases h with ⟨_, _, rfl⟩ | ⟨held, hg, _, rfl⟩ | ⟨held, hg, _, rfl⟩
  · rfl
  · exact hplaced held hg
  · exact hplaced held hg

theorem Consistent.add {b b' : Basket} (hb : b.Consistent) {item : Text} {d : Int}
    (h : b.add item d = .ok b') : b'.Consistent where
  positive other q hq := by
    rcases add_cases h with ⟨_, hd, rfl⟩ | ⟨held, _, hd, rfl⟩ | ⟨held, _, _, rfl⟩
    · rw [Table.get?_insert] at hq
      split at hq
      · cases hq; exact hd
      · exact hb.positive other q hq
    · rw [Table.get?_insert] at hq
      split at hq
      · cases hq; exact hd
      · exact hb.positive other q hq
    · rw [Table.get?_erase] at hq
      split at hq
      · cases hq
      · exact hb.positive other q hq
  placed other ho := by
    rw [hb.order_add h, mem_place]
    by_cases he : other = item
    · exact .inl he
    · refine .inr (hb.placed other ?_)
      rcases add_cases h with ⟨_, _, rfl⟩ | ⟨held, _, _, rfl⟩ | ⟨held, _, _, rfl⟩
      · rwa [holds, Table.get?_insert, if_neg he] at ho
      · rwa [holds, Table.get?_insert, if_neg he] at ho
      · rwa [holds, Table.get?_erase, if_neg he] at ho
  names_nodup := by
    rcases add_cases h with ⟨_, _, rfl⟩ | ⟨held, _, _, rfl⟩ | ⟨held, _, _, rfl⟩
    · exact Table.nodup_insert hb.names_nodup _ _
    · exact Table.nodup_insert hb.names_nodup _ _
    · exact Table.nodup_erase hb.names_nodup _
  order_nodup := by
    rw [hb.order_add h]
    exact nodup_place hb.order_nodup item

theorem Consistent.add_isOk_iff {b : Basket} (hb : b.Consistent) (item : Text) (d : Int) :
    (∃ b', b.add item d = .ok b') ↔
      0 < b.units item ∧ 0 ≤ b.units item + d ∨ b.units item = 0 ∧ 0 < d := by
  constructor
  · rintro ⟨b', h⟩
    rcases add_cases h with ⟨hg, hd, _⟩ | ⟨held, hg, hd, _⟩ | ⟨held, hg, hd, _⟩
    · exact .inr ⟨by simp [units, hg], hd⟩
    · have hh := hb.positive item held hg
      exact .inl (by simp only [units, hg, Option.getD_some]; omega)
    · have hh := hb.positive item held hg
      exact .inl (by simp only [units, hg, Option.getD_some]; omega)
  · intro h
    cases hg : b.quantities.get? item with
    | none =>
        have hu : b.units item = 0 := by simp [units, hg]
        have hd : ¬ d ≤ 0 := by rcases h with h | h <;> omega
        simp only [Basket.add, hg, if_neg hd]
        exact ⟨_, rfl⟩
    | some held =>
        have hu : b.units item = held := by simp [units, hg]
        have hh := hb.positive item held hg
        have hd : ¬ held + d < 0 := by rcases h with h | h <;> omega
        simp only [Basket.add, hg, if_neg hd]
        split <;> exact ⟨_, rfl⟩

theorem remove_eq_ok {b b' : Basket} {item : Text} {n : Int} :
    b.remove item n = .ok b' ↔ 0 < n ∧ b.add item (-n) = .ok b' := by
  rw [remove]
  by_cases h : n ≤ 0
  · rw [if_pos h]
    exact ⟨nofun, fun hr => absurd hr.1 (by omega)⟩
  · rw [if_neg h]
    exact ⟨fun hr => ⟨by omega, hr⟩, And.right⟩

theorem billed_names (b : Basket) : b.billed.names = b.order.filter (b.holds ·) := by
  rw [billed, Table.names]
  induction b.order with
  | nil => rfl
  | cons item order ih =>
      cases h : b.quantities.get? item with
      | none => simp [holds, h, ih]
      | some q => simp [holds, h, ih]

theorem Consistent.billed_eq {b : Basket} (hb : b.Consistent) :
    b.billed = (b.order.filter (0 < b.units ·)).map fun item => (item, b.units item) := by
  rw [billed]
  induction b.order with
  | nil => rfl
  | cons item order ih =>
      rw [List.filterMap_cons, hb.get?_eq, ih]
      by_cases h : 0 < b.units item <;> simp [h]

theorem Consistent.mem_billed_names {b : Basket} (hb : b.Consistent) (item : Text) :
    item ∈ b.billed.names ↔ b.holds item := by
  rw [billed_names, List.mem_filter]
  exact ⟨And.right, fun h => ⟨hb.placed item h, h⟩⟩

theorem Consistent.billed_nodup {b : Basket} (hb : b.Consistent) : b.billed.names.Nodup := by
  rw [billed_names]
  exact hb.order_nodup.filter _

theorem Consistent.mem_billed {b : Basket} (hb : b.Consistent) (item : Text) (q : Int) :
    (item, q) ∈ b.billed ↔ b.quantities.get? item = some q := by
  rw [billed, List.mem_filterMap]
  constructor
  · rintro ⟨item', _, h⟩
    rw [Option.map_eq_some_iff] at h
    obtain ⟨q', hq, he⟩ := h
    cases he
    exact hq
  · intro h
    exact ⟨item, hb.placed item (by simp [holds, h]), by simp [h]⟩

theorem Consistent.billed_positive {b : Basket} (hb : b.Consistent) {e : Text × Int}
    (he : e ∈ b.billed) : 0 < e.2 :=
  hb.positive e.1 e.2 ((hb.mem_billed e.1 e.2).mp he)

theorem Consistent.billed_perm {b b' : Basket} (hb : b.Consistent) (hb' : b'.Consistent)
    (h : ∀ item, b.quantities.get? item = b'.quantities.get? item) : b.billed.Perm b'.billed := by
  rw [List.perm_ext_iff_of_nodup hb.billed_nodup.of_map hb'.billed_nodup.of_map]
  rintro ⟨item, q⟩
  rw [hb.mem_billed, hb'.mem_billed, h]

theorem Consistent.size_eq {b : Basket} (hb : b.Consistent) : b.size = b.billed.length := by
  have hp : b.quantities.names.Perm b.billed.names := by
    rw [List.perm_ext_iff_of_nodup hb.names_nodup hb.billed_nodup]
    intro item
    rw [hb.mem_billed_names, Table.mem_names]
    rfl
  simpa [size, Table.names] using hp.length_eq

end Checkout.Basket
