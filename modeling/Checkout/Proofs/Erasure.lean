import Checkout.Proofs.Run

namespace Checkout.Register

/-- A step that left no trace: it failed, it only asked what the cart holds, or it made a receipt
that neither went on the roll nor emptied the cart. -/
inductive Event.Idle (e : Event) : Prop
  | failed (f : Cart.Failure) (h : e.reply.result = .error f)
  | asked (item : Text) (h : e.step = .unitsOf item ∨ e.step = .contains item)
  | shown (h : e.step = .receipt ∨ e.step = .printToStream) (hc : e.before.cart.consume = false)

inductive Erased : List Event → List Event → Prop
  | nil : Erased [] []
  | keep (e : Event) {events rest : List Event} (h : Erased events rest) :
      Erased (e :: events) (e :: rest)
  | erase (e : Event) (he : e.Idle) {events rest : List Event} (h : Erased events rest) :
      Erased (e :: events) rest

theorem step_failed {r : Register} {s : Step} {f : Cart.Failure}
    (h : (r.step s).2.result = .error f) : (r.step s).1 = r := by
  have hscan (item : Text) (found : Except Basket.Refused Basket)
      (hf : (r.scanned item (r.cart.settle found)).2.result = .error f) :
      (r.scanned item (r.cart.settle found)).1 = r := by
    rcases r.scanned_cases item found with ⟨b, _, hs⟩ | ⟨_, log, f', hs⟩
    · rw [hs] at hf
      cases hf
    · rw [hs]
  cases s with
  | add item d => exact hscan item _ h
  | remove item n => exact hscan item _ h
  | unitsOf | contains | clear | setFormat | setConsume | setPrice => cases h
  | receipt | printToRoll | printToStream =>
      cases hr : (r.cart.receipt r.prices).2 with
      | none => exact (event_unbilled hr rfl).2
      | some receipt =>
          obtain ⟨lines, _, hreceipt, hroll, hstream⟩ := step_billed hr
          simp [hreceipt, hroll, hstream] at h

theorem step_shown {r : Register} {s : Step} (h : s = .receipt ∨ s = .printToStream)
    (hc : r.cart.consume = false) : (r.step s).1 = r := by
  have hafter : r.cart.afterReceipt = r.cart := by rw [Cart.afterReceipt, hc]; rfl
  cases hr : (r.cart.receipt r.prices).2 with
  | none =>
      rcases h with rfl | rfl
      · exact (event_unbilled hr rfl).2
      · exact (event_unbilled hr rfl).2
  | some receipt =>
      obtain ⟨lines, _, hreceipt, _, hstream⟩ := step_billed hr
      rcases h with rfl | rfl
      · rw [hreceipt, hafter]
      · rw [hstream, hafter]

theorem Event.Idle.step_eq {r : Register} {s : Step} (h : (r.event s).Idle) : (r.step s).1 = r := by
  cases h with
  | failed f h => exact step_failed h
  | asked item h =>
      rcases h with rfl | rfl
      · rfl
      · rfl
  | shown h hc => exact step_shown h hc

/-- The idle steps of a run can be left out, any of them: each step that stays finds and leaves the
same register and answers and logs the same. -/
theorem run_erased {r : Register} {steps : List Step} {rest : List Event}
    (h : Erased (r.run steps) rest) :
    r.run (rest.map (·.step)) = rest ∧ r.after (rest.map (·.step)) = r.after steps := by
  induction steps generalizing r rest with
  | nil =>
      cases h
      exact ⟨rfl, rfl⟩
  | cons s steps ih =>
      cases h with
      | keep _ h =>
          obtain ⟨hrun, hafter⟩ := ih h
          exact ⟨congrArg (r.event s :: ·) hrun, hafter⟩
      | erase _ he h =>
          -- The step left the register as it was, so the rest is a run from the same place.
          rw [he.step_eq] at h
          obtain ⟨hrun, hafter⟩ := ih h
          refine ⟨hrun, hafter.trans ?_⟩
          rw [after, after, List.foldl_cons, he.step_eq]

/-- A refused scan, two looks at the cart, a receipt that stays in the hand and one that cannot be
written are left out. -/
theorem run_erased_looks :
    let r := fresh "€" none false [("tea", some 150)]
    let looks : List Step := [.add "tea" 3, .remove "tea" 4, .contains "tea", .receipt,
      .setConsume true, .add "cup" Numeral.bound, .unitsOf "cup", .printToRoll,
      .remove "cup" Numeral.bound, .printToRoll]
    let steps : List Step := [.add "tea" 3, .setConsume true, .add "cup" Numeral.bound,
      .remove "cup" Numeral.bound, .printToRoll]
    ∃ rest, Erased (r.run looks) rest ∧ rest.map (·.step) = steps ∧ r.run steps = rest ∧
      r.after steps = r.after looks ∧
      (r.after looks).roll = ["tea - 3 - €4.50", "TOTAL PRICE: €4.50"].map String.toList := by
  intro r looks steps
  have hrefused : (r.after (looks.take 1)).event (.remove "tea" 4) |>.Idle :=
    .failed (.refused ⟨.exceedsUnits, "tea", -4⟩) (by decide +kernel)
  have hunwritten : (r.after (looks.take 7)).event .printToRoll |>.Idle :=
    .failed .longNumeral (by decide +kernel)
  have hshown : (r.after (looks.take 3)).event .receipt |>.Idle :=
    .shown (.inl rfl) (by decide +kernel)
  have herased : Erased (r.run looks) _ :=
    .keep _ (.erase _ hrefused (.erase _ (.asked "tea" (.inr rfl)) (.erase _ hshown
      (.keep _ (.keep _ (.erase _ (.asked "cup" (.inl rfl)) (.erase _ hunwritten
      (.keep _ (.keep _ .nil)))))))))
  obtain ⟨hrun, hafter⟩ := run_erased herased
  exact ⟨_, herased, rfl, hrun, hafter, by decide +kernel⟩

end Checkout.Register
