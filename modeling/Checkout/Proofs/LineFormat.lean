import Checkout.Proofs.Billing
import Checkout.Proofs.Settings
import Checkout.Proofs.Unknown

namespace Checkout

open Template (Unknown Shaped Placeholder)

namespace Template

theorem map_eq_error {ε α β : Type} {x : Except ε α} {f : α → β} {e : ε} :
    x.map f = .error e ↔ x = .error e := by
  cases x <;> simp [Except.map]

theorem not_leftmostIn_nil (u : Unknown) : ¬ u.LeftmostIn [] := by
  rw [← pieces_eq_error, pieces, scan]
  intro h
  cases h

theorem check_eq_error {template : Option Text} {u : Unknown} :
    check template = .error u ↔ u.LeftmostIn (template.getD []) := by
  cases template with
  | none => exact ⟨nofun, fun h => absurd h (not_leftmostIn_nil u)⟩
  | some t => rw [check, map_eq_error, pieces_eq_error, Option.getD_some]

theorem check_eq_ok {template : Option Text} :
    check template = .ok () ↔ ∀ u : Unknown, ¬ u.LeftmostIn (template.getD []) := by
  simp only [← check_eq_error]
  cases check template <;> simp

theorem check_congr {a b : Option Text} (h : a.getD [] = b.getD []) : check a = check b := by
  cases hb : check b with
  | error u => rw [check_eq_error, h, ← check_eq_error, hb]
  | ok _ => rw [check_eq_ok, h, ← check_eq_ok, hb]

def filled (v : Values) (t : Text) : Except Unknown Text :=
  (pieces t).map (·.flatMap (Piece.fill v))

theorem filled_eq_error {v : Values} {t : Text} {u : Unknown} :
    filled v t = .error u ↔ u.LeftmostIn t := by
  rw [filled, map_eq_error, pieces_eq_error]

theorem fill_eq_filled {t : Text} (ht : t ≠ []) (v : Values) : fill v (some t) = filled v t := by
  cases t with
  | nil => exact absurd rfl ht
  | cons c t => rfl

theorem fill_eq_error {v : Values} {template : Option Text} {u : Unknown} :
    fill v template = .error u ↔ u.LeftmostIn (template.getD []) := by
  match template with
  | none => exact ⟨nofun, fun h => absurd h (not_leftmostIn_nil u)⟩
  | some [] => exact ⟨nofun, fun h => absurd h (not_leftmostIn_nil u)⟩
  | some (c :: t) => rw [fill_eq_filled (List.cons_ne_nil c t), filled_eq_error, Option.getD_some]

end Template

namespace LineFormat

variable {symbol : Text} {template : Option Text} {quantity : Int} {name : Text} {price : Int}

theorem render_eq_unknown (h : values? symbol quantity name price ≠ none) (u : Unknown) :
    render symbol template quantity name price = .error (.unknown u) ↔
      Template.check template = .error u := by
  obtain ⟨v, hv⟩ := Option.ne_none_iff_exists'.mp h
  rw [Template.check_eq_error, ← Template.fill_eq_error (v := v), render, hv]
  cases hf : Template.fill v template <;> simp [hf]

theorem values?_eq_some {v : Template.Values} (h : values? symbol quantity name price = some v) :
    ∃ q amount, Numeral.write? quantity = some q ∧ Amount.text? price = some amount ∧
      v = ⟨q, name, symbol ++ amount⟩ := by
  rw [values?] at h
  split at h
  · rename_i q p hq hp
    obtain ⟨amount, hamount, rfl⟩ := Option.map_eq_some_iff.mp hp
    cases h
    exact ⟨q, amount, hq, hamount, rfl⟩
  · cases h

theorem render_eq_ok {v : Template.Values} (hv : values? symbol quantity name price = some v)
    {line : Text} : render symbol template quantity name price = .ok line ↔
      Template.fill v template = .ok line := by
  simp only [render, hv]
  cases Template.fill v template <;> simp

theorem exists_render (h : values? symbol quantity name price ≠ none) :
    (∃ line, render symbol template quantity name price = .ok line) ↔
      Template.check template = .ok () := by
  have hlong := mt (render_eq_longNumeral symbol template quantity name price).mp h
  have hu (u : Unknown) : render symbol template quantity name price = .error (.unknown u) ↔
      Template.check template = .error u := render_eq_unknown h u
  rcases hr : render symbol template quantity name price with (_ | u) | line
  · exact absurd hr hlong
  · rw [hr] at hu
    simp [(hu u).mp rfl]
  · rw [hr] at hu
    cases hc : Template.check template with
    | error u => cases (hu u).mpr hc
    | ok _ => simp

end LineFormat

namespace Cart

variable {c : Cart} {prices : PriceTable}

theorem line?_values {item : Text} {units : Int} {found : List Log.Entry × Receipt.Line}
    (h : c.line? prices item units = some found) :
    LineFormat.values? c.symbol units item (prices.price item * units) ≠ none := by
  rw [Ne, LineFormat.values?_eq_none, ← c.line?_eq_none prices, h]
  exact Option.some_ne_none _

theorem line?_cases {item : Text} {units : Int} {log : List Log.Entry} {l : Receipt.Line}
    (h : c.line? prices item units = some (log, l)) :
    (LineFormat.render c.symbol c.lineFormat units item (prices.price item * units) = .ok l.text ∧
      l.rendered = true ∧ log = []) ∨
    ∃ u, LineFormat.render c.symbol c.lineFormat units item (prices.price item * units) =
        .error (.unknown u) ∧
      l.rendered = false ∧ l.text = Receipt.blank ∧ log = [blankWarning item u] := by
  simp only [line?, Amount.product] at h
  split at h
  · cases h
    exact .inl ⟨by assumption, rfl, rfl⟩
  · cases h
    exact .inr ⟨_, by assumption, rfl, rfl, rfl⟩
  · cases h

theorem lines?_forall₂ {entries : List (Text × Int)} {lines : List Receipt.Line}
    (h : (c.lines? prices entries).2 = some lines) :
    List.Forall₂ (fun e l => ∃ log, c.line? prices e.1 e.2 = some (log, l)) entries lines := by
  induction entries generalizing lines with
  | nil =>
      cases h
      exact .nil
  | cons e entries ih =>
      rcases e with ⟨item, units⟩
      cases hl : c.line? prices item units with
      | none => simp [lines?, hl] at h
      | some found =>
          rcases found with ⟨log, l⟩
          simp only [lines?, hl, Option.map_eq_some_iff] at h
          obtain ⟨rest, hrest, rfl⟩ := h
          exact .cons ⟨log, hl⟩ (ih hrest)

theorem receipt_lines {r : Receipt} (h : (c.receipt prices).2 = some r) :
    List.Forall₂ (fun e l => ∃ log, c.line? prices e.1 e.2 = some (log, l)) c.basket.billed
      r.lines := by
  obtain ⟨lines, hl, rfl, _⟩ := (c.receipt_eq_some prices).mp h
  exact lines?_forall₂ hl

theorem receipt_line {r : Receipt} (h : (c.receipt prices).2 = some r) {l : Receipt.Line}
    (hl : l ∈ r.lines) : ∃ log, c.line? prices l.item l.quantity = some (log, l) := by
  obtain ⟨i, hi, rfl⟩ := List.getElem_of_mem hl
  have hb : i < c.basket.billed.length := by
    rw [(receipt_lines h).length_eq]
    exact hi
  obtain ⟨log, hline⟩ := (List.forall₂_iff_get.mp (receipt_lines h)).2 i hb hi
  obtain ⟨hitem, hquantity, _⟩ := c.line?_bill prices hline
  simp only [List.get_eq_getElem] at hitem hquantity hline
  rw [hitem, hquantity]
  exact ⟨log, hline⟩

theorem receipt_line_total {r : Receipt} (h : (c.receipt prices).2 = some r) {l : Receipt.Line}
    (hl : l ∈ r.lines) : l.total = prices.price l.item * l.quantity := by
  rw [Receipt.Line.total, Amount.product, (c.receipt_billed prices h hl).2]

theorem receipt_line_values {r : Receipt} (h : (c.receipt prices).2 = some r) {l : Receipt.Line}
    (hl : l ∈ r.lines) : LineFormat.values? c.symbol l.quantity l.item l.total ≠ none := by
  obtain ⟨log, hline⟩ := receipt_line h hl
  rw [receipt_line_total h hl]
  exact line?_values hline

theorem receipt_line_cases {r : Receipt} (h : (c.receipt prices).2 = some r) {l : Receipt.Line}
    (hl : l ∈ r.lines) :
    ((∃ u, Template.check c.lineFormat = .error u) ∧ l.rendered = false ∧ l.text = Receipt.blank) ∨
      (Template.check c.lineFormat = .ok () ∧ l.rendered = true ∧
        LineFormat.render c.symbol c.lineFormat l.quantity l.item l.total = .ok l.text) := by
  obtain ⟨log, hline⟩ := receipt_line h hl
  have hv := receipt_line_values h hl
  have hcases := line?_cases hline
  rw [← receipt_line_total h hl] at hcases
  rcases hcases with ⟨hrender, hrendered, _⟩ | ⟨u, hrender, hrendered, hblank, _⟩
  · exact .inr ⟨(LineFormat.exists_render hv).mp ⟨_, hrender⟩, hrendered, hrender⟩
  · exact .inl ⟨⟨u, (LineFormat.render_eq_unknown hv u).mp hrender⟩, hrendered, hblank⟩

theorem line?_checked (hcheck : Template.check c.lineFormat = .ok ()) {item : Text} {units : Int}
    {log : List Log.Entry} {l : Receipt.Line} (h : c.line? prices item units = some (log, l)) :
    LineFormat.render c.symbol c.lineFormat units item (prices.price item * units) = .ok l.text ∧
      l.rendered = true ∧ log = [] := by
  rcases line?_cases h with hrendered | ⟨u, hrender, _⟩
  · exact hrendered
  · rw [LineFormat.render_eq_unknown (line?_values h), hcheck] at hrender
    cases hrender

theorem lines?_checked (hcheck : Template.check c.lineFormat = .ok ())
    (entries : List (Text × Int)) : (c.lines? prices entries).1 = [] := by
  induction entries with
  | nil => rfl
  | cons e entries ih =>
      rw [lines?]
      cases h : c.line? prices e.1 e.2 with
      | none => rfl
      | some found => simp [(line?_checked hcheck h).2.2, ih]

theorem receipt_texts (hcheck : Template.check c.lineFormat = .ok ()) {r : Receipt}
    (h : (c.receipt prices).2 = some r) :
    List.Forall₂ (fun e t =>
        LineFormat.render c.symbol c.lineFormat e.2 e.1 (prices.price e.1 * e.2) = .ok t)
      c.basket.billed (r.lines.map (·.text)) := by
  rw [List.forall₂_map_right_iff]
  apply (receipt_lines h).imp
  rintro e l ⟨log, hline⟩
  exact (line?_checked hcheck hline).1

end Cart

/-- Checking a template, rendering with it, giving it as a setting and printing a cart with it all
refuse the same templates: those that hold an unknown placeholder, told at the leftmost one. -/
theorem LineFormat.rejected_alike (template : Option Text) :
    let t := template.getD []
    ((∃ u, Template.check template = .error u) ↔
      ∃ s, s <:+: t ∧ Shaped s ∧ ∀ p : Placeholder, p.token ≠ s) ∧
    (∀ u, Template.check template = .error u ↔ u.LeftmostIn t) ∧
    (∀ u, Template.check template = .error u →
      (t.drop u.position).take u.token.length = u.token ∧
      u.report t = .template "unrecognized placeholder" t u.token u.position) ∧
    (∀ symbol quantity name price, Numeral.write? quantity ≠ none →
      Amount.format? symbol price ≠ none →
        (∀ u, render symbol template quantity name price = .error (.unknown u) ↔
          Template.check template = .error u) ∧
        ((∃ line, render symbol template quantity name price = .ok line) ↔
          Template.check template = .ok ())) ∧
    (∀ (g : Settings.Given) s, Settings.ofGiven { g with lineFormat := none } = .ok s →
      let given := { g with lineFormat := some (Settings.Value.ofOption template) }
      (∀ errors, Settings.ofGiven given = .error errors ↔
        ∃ u, Template.check template = .error u ∧ errors = [⟨"line_format", .template u⟩] ∧
          (Settings.Fault.template u).message = "Value error, " ++ (u.report t).message) ∧
      ((∃ s, Settings.ofGiven given = .ok s) ↔ Template.check template = .ok ())) ∧
    (∀ (c : Cart) prices r, c.lineFormat.getD [] = t → (c.receipt prices).2 = some r →
      ∀ l ∈ r.lines,
        ((∃ u, Template.check template = .error u) ∧ l.rendered = false ∧
          l.text = Receipt.blank) ∨
        (Template.check template = .ok () ∧ l.rendered = true ∧
          render c.symbol c.lineFormat l.quantity l.item l.total = .ok l.text)) := by
  intro t
  refine ⟨?_, fun u => Template.check_eq_error, ?_, ?_, ?_, ?_⟩
  · simp only [Template.check_eq_error]
    exact Template.exists_leftmostIn
  · intro u hu
    exact ⟨(Template.check_eq_error.mp hu).slice, rfl⟩
  · intro symbol quantity name price hq hp
    have hv : values? symbol quantity name price ≠ none := by
      obtain ⟨q, hq⟩ := Option.ne_none_iff_exists'.mp hq
      obtain ⟨p, hp⟩ := Option.ne_none_iff_exists'.mp hp
      simp [values?, hq, hp]
    exact ⟨render_eq_unknown hv, exists_render hv⟩
  · intro g s hs given
    rw [Settings.ofGiven_template hs]
    rcases Template.check template with u | _
    · refine ⟨?_, by simp⟩
      intro errors
      rw [Except.error.injEq]
      constructor
      · rintro rfl
        exact ⟨u, rfl, rfl, rfl⟩
      · rintro ⟨v, hv, rfl, _⟩
        cases hv
        rfl
    · simp
  · intro c prices r hformat hr l hl
    rw [← Template.check_congr hformat]
    exact Cart.receipt_line_cases hr hl

example : Template.check (some "a<b>\x7bx\x7d<zz>") = .error ⟨"\x7bx\x7d", 4⟩ := rfl

end Checkout
