import Checkout.Proofs.JsonReading
import Checkout.Proofs.Numeral
import Checkout.Receipt.Document

namespace Checkout

namespace Json

def member? (name : Text) : Json → Option Json
  | .object members => List.lookup name members
  | _ => none

def text? : Json → Option Text
  | .text t => some t
  | _ => none

def integer? : Json → Option Int
  | .number numeral => Numeral.read? numeral
  | _ => none

def flag? : Json → Option Bool
  | .flag b => some b
  | _ => none

def elements? : Json → Option (List Json)
  | .array elements => some elements
  | _ => none

end Json

namespace Document

structure Line where
  item : Text
  quantity : Int
  unitPrice : Int
  total : Int
  text : Text
  rendered : Bool
  deriving DecidableEq, Repr

def Line.ofJson? (j : Json) : Option Line := do
  let item ← (j.member? "item_id").bind Json.text?
  let quantity ← (j.member? "quantity").bind Json.integer?
  let unitPrice ← (j.member? "unit_price").bind Json.integer?
  let total ← (j.member? "line_total").bind Json.integer?
  let text ← (j.member? "text").bind Json.text?
  let rendered ← (j.member? "rendered").bind Json.flag?
  return ⟨item, quantity, unitPrice, total, text, rendered⟩

def Line.ofLine (l : Receipt.Line) : Line :=
  ⟨l.item, l.quantity, l.unitPrice, l.total, l.text, l.rendered⟩

end Document

structure Document where
  symbol : Text
  lines : List Document.Line
  total : Int
  formatted : Text
  deriving DecidableEq, Repr

namespace Document

def ofReceipt (r : Receipt) (formatted : Text) : Document :=
  ⟨r.symbol, r.lines.map .ofLine, r.total, formatted⟩

def ofJson? (j : Json) : Option Document := do
  let symbol ← (j.member? "currency_symbol").bind Json.text?
  let elements ← (j.member? "lines").bind Json.elements?
  let lines ← elements.mapM Line.ofJson?
  let total ← (j.member? "total").bind Json.integer?
  let formatted ← (j.member? "total_formatted").bind Json.text?
  return ⟨symbol, lines, total, formatted⟩

def read? (t : Text) : Option Document := (Json.read? t).bind ofJson?

end Document

namespace Receipt

theorem number?_eq_some {n : Int} {j : Json} (h : number? n = some j) :
    j.Proper ∧ j.integer? = some n := by
  rw [number?, Option.map_eq_some_iff] at h
  obtain ⟨t, ht, rfl⟩ := h
  refine ⟨.number ?_, Numeral.read?_write? ht⟩
  rw [Numeral.write?] at ht
  split at ht
  · cases ht
    exact Json.isInteger_text n
  · cases ht

theorem Line.document?_eq_some {l : Line} {j : Json} (h : l.document? = some j) :
    j.Proper ∧ Document.Line.ofJson? j = some (.ofLine l) := by
  simp only [document?, Option.bind_eq_bind, Option.bind_eq_some_iff, Option.pure_def] at h
  obtain ⟨quantity, hq, unitPrice, hp, total, ht, hj⟩ := h
  cases hj
  obtain ⟨hq, hquantity⟩ := number?_eq_some hq
  obtain ⟨hp, hunitPrice⟩ := number?_eq_some hp
  obtain ⟨ht, htotal⟩ := number?_eq_some ht
  refine ⟨.object ?_, ?_⟩
  · simp [hq, hp, ht, Json.Proper.text, Json.Proper.flag]
  · have hread : Document.Line.ofJson? (.object [("item_id", .text l.item), ("quantity", quantity),
        ("unit_price", unitPrice), ("line_total", total), ("text", .text l.text),
        ("rendered", .flag l.rendered)]) =
      quantity.integer?.bind fun quantity => unitPrice.integer?.bind fun unitPrice =>
        total.integer?.bind fun total =>
          some ⟨l.item, quantity, unitPrice, total, l.text, l.rendered⟩ := rfl
    rw [hread, hquantity, hunitPrice, htotal]
    rfl

theorem mapM_document? {lines : List Line} {elements : List Json}
    (h : lines.mapM Line.document? = some elements) :
    (∀ j ∈ elements, j.Proper) ∧
      elements.mapM Document.Line.ofJson? = some (lines.map .ofLine) := by
  induction lines generalizing elements with
  | nil =>
      rw [List.mapM_nil, Option.pure_def, Option.some.injEq] at h
      subst h
      exact ⟨nofun, rfl⟩
  | cons l lines ih =>
      simp only [List.mapM_cons, Option.bind_eq_bind, Option.bind_eq_some_iff,
        Option.pure_def] at h
      obtain ⟨j, hj, js, hjs, hcons⟩ := h
      cases hcons
      obtain ⟨hproper, hread⟩ := Line.document?_eq_some hj
      obtain ⟨hrest, hreads⟩ := ih hjs
      refine ⟨List.forall_mem_cons.mpr ⟨hproper, hrest⟩, ?_⟩
      rw [List.mapM_cons, hread, hreads]
      rfl

theorem document?_eq_some {r : Receipt} {j : Json} (h : r.document? = some j) :
    j.Proper ∧ ∃ formatted, r.formatted? = some formatted ∧
      Document.ofJson? j = some (.ofReceipt r formatted) := by
  simp only [document?, Option.bind_eq_bind, Option.bind_eq_some_iff, Option.pure_def] at h
  obtain ⟨elements, helements, total, ht, formatted, hformatted, hj⟩ := h
  cases hj
  obtain ⟨hproper, hlines⟩ := mapM_document? helements
  obtain ⟨ht, htotal⟩ := number?_eq_some ht
  refine ⟨.object ?_, formatted, hformatted, ?_⟩
  · simp [ht, Json.Proper.text, Json.Proper.array hproper]
  · have hread : Document.ofJson? (.object [("currency_symbol", .text r.symbol),
        ("lines", .array elements), ("total", total), ("total_formatted", .text formatted)]) =
      (elements.mapM Document.Line.ofJson?).bind fun lines => total.integer?.bind fun total =>
        some ⟨r.symbol, lines, total, formatted⟩ := rfl
    rw [hread, hlines, htotal]
    rfl

/-- The document of a receipt reads back: it tells all of the receipt, and its formatted total. -/
theorem read?_json? {r : Receipt} {t : Text} (h : r.json? = some t) :
    ∃ formatted, r.formatted? = some formatted ∧
      Document.read? (t ++ ['\n']) = some (.ofReceipt r formatted) := by
  rw [json?, Option.map_eq_some_iff] at h
  obtain ⟨j, hj, rfl⟩ := h
  obtain ⟨hproper, formatted, hformatted, hread⟩ := document?_eq_some hj
  refine ⟨formatted, hformatted, ?_⟩
  rw [Document.read?, Json.read?_render hproper (List.all_eq_true.mp rfl), Option.bind_some, hread]

theorem number?_isSome {n : Int} : (number? n).isSome ↔ n.natAbs < Numeral.bound := by
  rw [number?, Option.isSome_map, Numeral.write?]
  split <;> simp [*]

theorem Line.document?_isSome {l : Line} : l.document?.isSome ↔ l.quantity.natAbs < Numeral.bound ∧
    l.unitPrice.natAbs < Numeral.bound ∧ l.total.natAbs < Numeral.bound := by
  rw [← number?_isSome, ← number?_isSome, ← number?_isSome, document?]
  cases number? l.quantity with
  | none => simp
  | some quantity =>
      cases number? l.unitPrice with
      | none => simp
      | some unitPrice => cases number? l.total <;> simp

theorem mapM_document?_isSome {lines : List Line} :
    (lines.mapM Line.document?).isSome ↔ ∀ l ∈ lines, l.document?.isSome := by
  induction lines with
  | nil => simp
  | cons l lines ih =>
      rw [List.forall_mem_cons, ← ih, List.mapM_cons]
      cases l.document? with
      | none => simp
      | some j => cases lines.mapM Line.document? <;> simp

theorem json?_isSome {r : Receipt} : r.json?.isSome ↔
    (∀ l ∈ r.lines, l.document?.isSome) ∧ r.total.natAbs < Numeral.bound ∧
      r.formatted?.isSome := by
  rw [← mapM_document?_isSome, ← number?_isSome, json?, Option.isSome_map, document?]
  cases r.lines.mapM Line.document? with
  | none => simp
  | some lines =>
      cases number? r.total with
      | none => simp
      | some total => cases r.formatted? <;> simp

end Receipt

end Checkout
