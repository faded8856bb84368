import Checkout.Proofs.LineFormat
import Checkout.Proofs.Run

namespace Checkout

namespace Basket

/-- A scan of an item comes to the same in two baskets: the same refusal, or baskets that hold the
same of the item. -/
inductive Alike (item : Text) : Except Refused Basket → Except Refused Basket → Prop
  | refused (f : Refused) (h : f.item = item) : Alike item (.error f) (.error f)
  | accepted {b b' : Basket} (h : b.quantities.get? item = b'.quantities.get? item) :
      Alike item (.ok b) (.ok b')

variable {b b' : Basket} {item : Text}

theorem add_alike (h : b.quantities.get? item = b'.quantities.get? item) (d : Int) :
    Alike item (b.add item d) (b'.add item d) := by
  cases hg : b'.quantities.get? item with
  | none =>
      simp only [add, h, hg]
      split
      · exact .refused _ rfl
      · exact .accepted (by rw [Table.get?_insert, Table.get?_insert, if_pos rfl, if_pos rfl])
  | some held =>
      simp only [add, h, hg]
      split
      · exact .refused _ rfl
      · split
        · exact .accepted (by rw [Table.get?_erase, Table.get?_erase, if_pos rfl, if_pos rfl])
        · exact .accepted (by rw [Table.get?_insert, Table.get?_insert, if_pos rfl, if_pos rfl])

theorem remove_alike (h : b.quantities.get? item = b'.quantities.get? item) (n : Int) :
    Alike item (b.remove item n) (b'.remove item n) := by
  rw [remove, remove]
  split
  · exact .refused _ rfl
  · exact add_alike h (-n)

theorem get?_add_of_ne {d : Int} (h : b.add item d = .ok b') {other : Text} (ho : other ≠ item) :
    b'.quantities.get? other = b.quantities.get? other := by
  rcases add_cases h with ⟨_, _, rfl⟩ | ⟨held, _, _, rfl⟩ | ⟨held, _, _, rfl⟩
  · rw [Table.get?_insert, if_neg ho]
  · rw [Table.get?_insert, if_neg ho]
  · rw [Table.get?_erase, if_neg ho]

theorem warning?_congr {f : Refused} (h : b.units f.item = b'.units f.item) :
    b.warning? f = b'.warning? f := by
  rw [warning?, warning?, h]

end Basket

namespace Cart

theorem lines?_eq_filterMap {c : Cart} {prices : PriceTable} {entries : List (Text × Int)}
    {lines : List Receipt.Line} (h : (c.lines? prices entries).2 = some lines) :
    lines = entries.filterMap fun e => (c.line? prices e.1 e.2).map (·.2) := by
  have hall := lines?_forall₂ h
  clear h
  induction hall with
  | nil => rfl
  | cons hl _ ih =>
      obtain ⟨log, hl⟩ := hl
      rw [List.filterMap_cons, hl, ← ih]
      rfl

theorem receipt_perm {c : Cart} {b b' : Basket} (hb : b.Consistent) (hb' : b'.Consistent)
    (h : b.billed.Perm b'.billed) (prices : PriceTable) :
    ((receipt { c with basket := b } prices).2 = none ∧
      (receipt { c with basket := b' } prices).2 = none) ∨
    ∃ r lines, (receipt { c with basket := b } prices).2 = some r ∧
      (receipt { c with basket := b' } prices).2 = some { r with lines := lines } ∧
      lines.Perm r.lines := by
  have hworth : b.worth prices = b'.worth prices := (h.map _).sum_eq
  have hunwritable : b.Unwritable prices ↔ b'.Unwritable prices := by
    simp only [Basket.Unwritable, hworth, h.mem_iff]
  have hnone := receipt_eq_none { c with basket := b } prices hb
  have hnone' := receipt_eq_none { c with basket := b' } prices hb'
  -- Whether a receipt fails is decided by the set of what is billed, and by its sum.
  by_cases hu : b.Unwritable prices
  · exact .inl ⟨hnone.mpr hu, hnone'.mpr (hunwritable.mp hu)⟩
  · obtain ⟨r, hr⟩ := Option.ne_none_iff_exists'.mp (mt hnone.mp hu)
    obtain ⟨r', hr'⟩ := Option.ne_none_iff_exists'.mp (mt hnone'.mp (mt hunwritable.mpr hu))
    have htotal := (receipt_bill _ prices hr).2
    have htotal' := (receipt_bill _ prices hr').2
    obtain ⟨lines, hl, rfl, _⟩ := (receipt_eq_some _ prices).mp hr
    obtain ⟨lines', hl', rfl, _⟩ := (receipt_eq_some _ prices).mp hr'
    refine .inr ⟨_, lines', hr, ?_, ?_⟩
    · rw [hr']
      congr 1
      exact congrArg (Receipt.mk c.symbol lines') (htotal'.trans (hworth.symm.trans htotal.symm))
    · rw [lines?_eq_filterMap hl']
      exact (h.symm.filterMap _).trans (.of_eq (lines?_eq_filterMap hl).symm)

end Cart

namespace Register

variable {r r' : Register} {item : Text}

def AgreeOn (item : Text) (r r' : Register) : Prop :=
  r.cart.basket.quantities.get? item = r'.cart.basket.quantities.get? item

theorem scanned_alike (h : AgreeOn item r r') {found found' : Except Basket.Refused Basket}
    (hf : Basket.Alike item found found') :
    (r.scanned item (r.cart.settle found)).2 = (r'.scanned item (r'.cart.settle found')).2 ∧
      AgreeOn item (r.scanned item (r.cart.settle found)).1
        (r'.scanned item (r'.cart.settle found')).1 := by
  cases hf with
  | accepted hb =>
      refine ⟨?_, hb⟩
      simp only [Cart.settle, scanned, Basket.units, hb]
  | refused f hitem =>
      have hunits : r.cart.basket.units f.item = r'.cart.basket.units f.item := by
        rw [Basket.units, Basket.units, hitem, h]
      simp only [Cart.settle, Cart.refuse, Basket.warning?_congr hunits]
      cases r'.cart.basket.warning? f with
      | none => exact ⟨rfl, h⟩
      | some log => exact ⟨rfl, h⟩

theorem step_alike (h : AgreeOn item r r') {s : Step} (hs : s.item? = some item) :
    (r.step s).2 = (r'.step s).2 ∧ AgreeOn item (r.step s).1 (r'.step s).1 := by
  cases s with
  | add _ d =>
      cases hs
      exact scanned_alike h (Basket.add_alike h d)
  | remove _ n =>
      cases hs
      exact scanned_alike h (Basket.remove_alike h n)
  | _ => cases hs

theorem step_elsewhere {s : Step} {other : Text} (hs : s.item? = some other) (ho : item ≠ other) :
    AgreeOn item (r.step s).1 r := by
  have hscan (found : Except Basket.Refused Basket)
      (hf : ∀ b, found = .ok b → b.quantities.get? item = r.cart.basket.quantities.get? item) :
      AgreeOn item (r.scanned other (r.cart.settle found)).1 r := by
    rcases r.scanned_cases other found with ⟨b, hb, h⟩ | ⟨_, log, f, h⟩
    · rw [h]
      exact hf b hb
    · rw [h]
      exact rfl
  cases s with
  | add _ d =>
      cases hs
      exact hscan _ fun b hb => Basket.get?_add_of_ne hb ho
  | remove _ n =>
      cases hs
      exact hscan _ fun b hb => Basket.get?_add_of_ne (Basket.remove_eq_ok.mp hb).2 ho
  | _ => cases hs

def Step.scans (item : Text) (s : Step) : Bool := s.item? = some item

def about (item : Text) (events : List Event) : List (Step × Reply) :=
  (events.filter (·.step.scans item)).map fun e => (e.step, e.reply)

theorem about_cons (r : Register) (s : Step) (steps : List Step) :
    about item (r.run (s :: steps)) =
      if s.scans item then (s, (r.step s).2) :: about item ((r.step s).1.run steps)
      else about item ((r.step s).1.run steps) := by
  rw [about, run, List.filter_cons, event_step]
  by_cases h : s.scans item
  · rw [if_pos h, if_pos h]
    rfl
  · rw [if_neg h, if_neg h]
    rfl

/-- The scans of other items can be left out of a run as far as one item is concerned. -/
theorem about_run (item : Text) {steps : List Step} (hs : ∀ s ∈ steps, s.item? ≠ none)
    (h : AgreeOn item r r') :
    about item (r.run steps) = about item (r'.run (steps.filter (Step.scans item))) ∧
      AgreeOn item (r.after steps) (r'.after (steps.filter (Step.scans item))) := by
  -- The second run stands still while the first scans another item; that they agree carries over.
  induction steps generalizing r r' with
  | nil => exact ⟨rfl, h⟩
  | cons s steps ih =>
      obtain ⟨hhead, htail⟩ := List.forall_mem_cons.mp hs
      rw [about_cons, List.filter_cons]
      by_cases hi : s.item? = some item
      · have hscans : s.scans item := decide_eq_true hi
        obtain ⟨hreply, hnext⟩ := step_alike h hi
        obtain ⟨habout, hafter⟩ := ih htail hnext
        rw [if_pos hscans, if_pos hscans, about_cons, if_pos hscans, hreply, habout]
        exact ⟨rfl, hafter⟩
      · have hscans : ¬ s.scans item := mt of_decide_eq_true hi
        obtain ⟨other, ho⟩ := Option.ne_none_iff_exists'.mp hhead
        have hne : item ≠ other := by
          rintro rfl
          exact hi ho
        rw [if_neg hscans, if_neg hscans]
        exact ih htail ((step_elsewhere ho hne).trans h)

theorem after_scans (r : Register) {steps : List Step} (hs : ∀ s ∈ steps, s.item? ≠ none) :
    ∃ b, r.after steps = { r with cart := { r.cart with basket := b } } := by
  induction steps generalizing r with
  | nil => exact ⟨r.cart.basket, rfl⟩
  | cons s steps ih =>
      obtain ⟨hhead, htail⟩ := List.forall_mem_cons.mp hs
      obtain ⟨b, hb⟩ := step_scan (r := r) hhead
      obtain ⟨b', hb'⟩ := ih (r.step s).1 htail
      refine ⟨b', ?_⟩
      rw [after, List.foldl_cons, ← after, hb', hb]

theorem bills_perm {b b' : Basket} (hb : b.Consistent) (hb' : b'.Consistent)
    (h : b.billed.Perm b'.billed) (r : Register) {s : Step} (hs : s.bills) :
    let left : Register := { r with cart := { r.cart with basket := b } }
    let right : Register := { r with cart := { r.cart with basket := b' } }
    ((left.step s).2.result = .error .longNumeral ∧ (right.step s).2.result = .error .longNumeral) ∨
    ∃ receipt lines, (left.event s).receipt? = some receipt ∧
      (right.event s).receipt? = some { receipt with lines := lines } ∧
      lines.Perm receipt.lines := by
  intro left right
  rw [event_receipt?, if_pos hs, event_receipt?, if_pos hs]
  rcases Cart.receipt_perm (c := r.cart) hb hb' h r.prices with ⟨hl, hr⟩ | hboth
  · rw [step_unbilled (r := left) hl hs, step_unbilled (r := right) hr hs]
    exact .inl ⟨rfl, rfl⟩
  · exact .inr hboth

/-- Two runs of scans that take the scans of each item in the same order. -/
structure Interleaved (steps steps' : List Step) : Prop where
  scans : ∀ s ∈ steps, s.item? ≠ none
  scans' : ∀ s ∈ steps', s.item? ≠ none
  same : ∀ item, steps.filter (Step.scans item) = steps'.filter (Step.scans item)

/-- Items do not influence each other: where two runs of scans differ only in how the scans of
different items follow one another, each scan answers and logs the same in both, and what is held
in the end is the same. The next receipts, at any prices and in any line format, differ in the order
of their lines at most, or both fail. -/
theorem interleaved_alike (symbol : Text) (lineFormat : Option Text) (consume : Bool)
    (prices : PriceTable) (before : List Step) {steps steps' : List Step}
    (h : Interleaved steps steps') :
    let start := (fresh symbol lineFormat consume prices).after before
    let r := start.after steps
    let r' := start.after steps'
    (∀ item, about item (start.run steps) = about item (start.run steps')) ∧
    (∀ item, r.cart.basket.units item = r'.cart.basket.units item) ∧
    r.cart.basket.size = r'.cart.basket.size ∧
    ∀ (table : PriceTable) (format : Option Text) s, s.bills →
      let r : Register := { r with cart := { r.cart with lineFormat := format }, prices := table }
      let r' : Register := { r' with cart := { r'.cart with lineFormat := format }, prices := table }
      ((r.step s).2.result = .error .longNumeral ∧ (r'.step s).2.result = .error .longNumeral) ∨
      ∃ receipt lines, (r.event s).receipt? = some receipt ∧
        (r'.event s).receipt? = some { receipt with lines := lines } ∧
        lines.Perm receipt.lines := by
  intro start r r'
  have hstart : start.cart.basket.Consistent := consistent_after Basket.consistent_empty before
  have hr : r.cart.basket.Consistent := consistent_after hstart steps
  have hr' : r'.cart.basket.Consistent := consistent_after hstart steps'
  have hitem (item : Text) : about item (start.run steps) = about item (start.run steps') ∧
      AgreeOn item r r' := by
    obtain ⟨habout, hafter⟩ := about_run (r := start) item h.scans rfl
    obtain ⟨habout', hafter'⟩ := about_run (r := start) item h.scans' rfl
    rw [h.same] at habout hafter
    exact ⟨habout.trans habout'.symm, hafter.trans hafter'.symm⟩
  have hperm : r.cart.basket.billed.Perm r'.cart.basket.billed :=
    hr.billed_perm hr' fun item => (hitem item).2
  refine ⟨fun item => (hitem item).1, ?_, ?_, ?_⟩
  · intro item
    have hagree := (hitem item).2
    rw [AgreeOn] at hagree
    rw [Basket.units, Basket.units, hagree]
  · rw [hr.size_eq, hr'.size_eq, hperm.length_eq]
  · intro table format s hs
    obtain ⟨b, hb⟩ : ∃ b, r = _ := after_scans start h.scans
    obtain ⟨b', hb'⟩ : ∃ b, r' = _ := after_scans start h.scans'
    clear_value r r'
    subst hb hb'
    exact bills_perm hr hr' hperm
      { start with cart := { start.cart with lineFormat := format }, prices := table } hs

def teaFirst : List Step :=
  [.add "tea" 2, .add "cup" 1, .remove "tea" 3, .add "tea" (-2), .add "cup" 2, .add "tea" 1]

def cupsFirst : List Step :=
  [.add "cup" 1, .add "cup" 2, .add "tea" 2, .remove "tea" 3, .add "tea" (-2), .add "tea" 1]

theorem interleaved_alike_cups :
    let start := (fresh "€" none false []).after [.add "pen" 1]
    let r := start.after teaFirst
    let r' := start.after cupsFirst
    Interleaved teaFirst cupsFirst ∧ r.cart.basket.billed ≠ r'.cart.basket.billed ∧
      about "tea" (start.run teaFirst) = about "tea" (start.run cupsFirst) ∧
      r.cart.basket.units "cup" = r'.cart.basket.units "cup" ∧
      r.cart.basket.size = r'.cart.basket.size := by
  have hinterleaved : Interleaved teaFirst cupsFirst := by
    refine ⟨by decide, by decide, ?_⟩
    intro item
    by_cases htea : ['t', 'e', 'a'] = item
    · subst htea
      rfl
    · by_cases hcup : ['c', 'u', 'p'] = item
      · subst hcup
        rfl
      · simp [teaFirst, cupsFirst, Step.scans, Step.item?, htea, hcup]
  have hbilled : (((fresh "€" none false []).after [.add "pen" 1]).after teaFirst).cart.basket.billed ≠
      (((fresh "€" none false []).after [.add "pen" 1]).after cupsFirst).cart.basket.billed := by
    decide +kernel
  obtain ⟨habout, hunits, hsize, _⟩ := interleaved_alike "€" none false [] [.add "pen" 1] hinterleaved
  exact ⟨hinterleaved, hbilled, habout "tea", hunits "cup", hsize⟩

end Register

end Checkout
