import Checkout.CommandLine
import Checkout.Proofs.ClosedForm

namespace Checkout.CommandLine

def net (item : Text) (scans : List Scan) : Int :=
  ((scans.filter (·.item = item)).map (·.quantity)).sum

/-- Whether a scan can follow others: it takes no more units back than are there, and an item that
is not there it brings. -/
def Scan.Legal (before : List Scan) (s : Scan) : Prop :=
  0 < net s.item before ∧ 0 ≤ net s.item before + s.quantity ∨
    net s.item before = 0 ∧ 0 < s.quantity

def LegalAfter (past scans : List Scan) : Prop :=
  ∀ before s after, scans = before ++ s :: after → s.Legal (past ++ before)

def AllLegal (scans : List Scan) : Prop :=
  ∀ before s after, scans = before ++ s :: after → s.Legal before

def bill (scans : List Scan) : Table Int :=
  ((scans.map (·.item)).eraseDups.filter (0 < net · scans)).map fun item => (item, net item scans)

structure Accounts (scans : List Scan) (b : Basket) : Prop where
  consistent : b.Consistent
  units : ∀ item, b.units item = net item scans
  order : b.order = (scans.map (·.item)).eraseDups

theorem accounts_nil : Accounts [] .empty :=
  ⟨Basket.consistent_empty, fun _ => rfl, rfl⟩

theorem net_concat (item : Text) (scans : List Scan) (s : Scan) :
    net item (scans ++ [s]) = net item scans + if item = s.item then s.quantity else 0 := by
  by_cases h : s.item = item
  · simp [net, h]
  · simp [net, h, Ne.symm h]

theorem Accounts.isOk_iff {past : List Scan} {b : Basket} (h : Accounts past b) (s : Scan) :
    (∃ b', b.add s.item s.quantity = .ok b') ↔ s.Legal past := by
  rw [h.consistent.add_isOk_iff, h.units]
  rfl

theorem Accounts.add {past : List Scan} {b b' : Basket} (h : Accounts past b) {s : Scan}
    (hb : b.add s.item s.quantity = .ok b') : Accounts (past ++ [s]) b' := by
  refine ⟨h.consistent.add hb, ?_, ?_⟩
  · intro item
    rw [Basket.units_add hb, h.units, net_concat]
  · rw [h.consistent.order_add hb, h.order, List.map_append, List.map_singleton,
      Register.eraseDups_concat]

theorem Accounts.billed_eq {scans : List Scan} {b : Basket} (h : Accounts scans b) :
    b.billed = bill scans := by
  rw [h.consistent.billed_eq, h.order, bill]
  simp only [h.units]

theorem legalAfter_cons {past scans : List Scan} {s : Scan} :
    LegalAfter past (s :: scans) ↔ s.Legal past ∧ LegalAfter (past ++ [s]) scans := by
  constructor
  · intro h
    refine ⟨?_, ?_⟩
    · have hs := h [] s scans rfl
      rwa [List.append_nil] at hs
    · intro before s' after hscans
      rw [List.append_assoc]
      exact h (s :: before) s' after (congrArg (s :: ·) hscans)
  · rintro ⟨hs, h⟩ before s' after hscans
    cases before with
    | nil =>
        cases hscans
        rwa [List.append_nil]
    | cons s₀ before =>
        cases hscans
        have hrest := h before s' after rfl
        rwa [List.append_assoc] at hrest

/-- Scanning goes through exactly where each scan is legal after those before it, and the cart
then holds what they come to. -/
theorem scanAll_cases {past : List Scan} {c : Cart} (h : Accounts past c.basket)
    (scans : List Scan) :
    (LegalAfter past scans ∧ ∃ b, Accounts (past ++ scans) b ∧
      scanAll c scans = ([], .ok { c with basket := b })) ∨
    (¬ LegalAfter past scans ∧ ∃ log f, scanAll c scans = (log, .error f)) := by
  -- The scans that went through join the past, and the cart keeps account of them.
  induction scans generalizing past c with
  | nil => exact .inl ⟨by simp [LegalAfter], c.basket, by rwa [List.append_nil], rfl⟩
  | cons s scans ih =>
      rw [legalAfter_cons]
      rcases c.settle_cases (c.basket.add s.item s.quantity) with
        ⟨b, hb, hadd⟩ | ⟨hb, log, f, hadd⟩
      · have hs := (h.isOk_iff s).mp ⟨b, hb⟩
        rcases ih (c := { c with basket := b }) (h.add hb) with
          ⟨hl, b', hb', hall⟩ | ⟨hl, log, f, hall⟩
        · rw [List.append_assoc] at hb'
          exact .inl ⟨⟨hs, hl⟩, b', hb', by simp [scanAll, Cart.add, hadd, hall]⟩
        · exact .inr ⟨fun hn => hl hn.2, log, f, by simp [scanAll, Cart.add, hadd, hall]⟩
      · refine .inr ⟨?_, log, f, by simp [scanAll, Cart.add, hadd]⟩
        rintro ⟨hs, _⟩
        obtain ⟨b, hok⟩ := (h.isOk_iff s).mpr hs
        exact hb b hok

end Checkout.CommandLine
