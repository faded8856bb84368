import Checkout.Table
import Mathlib.Data.List.Induction
import Mathlib.Data.List.Nodup

namespace Checkout.Table

variable {α : Type}

theorem get?_nil (name : Text) : get? ([] : Table α) name = none := rfl

theorem get?_cons (e : Text × α) (t : Table α) (name : Text) :
    get? (e :: t) name = if name = e.1 then some e.2 else get? t name := by
  rcases e with ⟨key, v⟩
  rw [get?, List.lookup_cons, get?]
  by_cases h : name = key
  · simp [h]
  · rw [if_neg h, beq_eq_false_iff_ne.mpr h]

theorem get?_insert (t : Table α) (name other : Text) (v : α) :
    (t.insert name v).get? other = if other = name then some v else t.get? other := by
  induction t with
  | nil => rw [insert, get?_cons]
  | cons e t ih =>
      rw [insert]
      by_cases he : e.1 = name
      · rw [if_pos he, get?_cons, get?_cons, he]
        by_cases ho : other = name <;> simp [ho]
      · rw [if_neg he, get?_cons, get?_cons, ih]
        by_cases ho : other = e.1
        · have hn : other ≠ name := by rw [ho]; exact he
          rw [if_pos ho, if_neg hn, if_pos ho]
        · rw [if_neg ho, if_neg ho]

theorem get?_erase (t : Table α) (name other : Text) :
    (t.erase name).get? other = if other = name then none else t.get? other := by
  induction t with
  | nil => simp [erase, get?_nil]
  | cons e t ih =>
      rw [erase] at ih ⊢
      by_cases he : e.1 = name
      · rw [List.filter_cons_of_neg (by simp [he]), ih, get?_cons, he]
        by_cases ho : other = name <;> simp [ho]
      · rw [List.filter_cons_of_pos (by simp [he]), get?_cons, get?_cons, ih]
        by_cases ho : other = e.1
        · have hn : other ≠ name := by rw [ho]; exact he
          rw [if_pos ho, if_neg hn, if_pos ho]
        · rw [if_neg ho, if_neg ho]

theorem mem_names (t : Table α) (name : Text) : name ∈ t.names ↔ (t.get? name).isSome := by
  induction t with
  | nil => simp [names, get?_nil]
  | cons e t ih =>
      rw [names, List.map_cons, List.mem_cons, get?_cons]
      by_cases h : name = e.1
      · simp [h]
      · rw [if_neg h, ← ih]
        simp [h, names]

theorem names_insert (t : Table α) (name : Text) (v : α) :
    (t.insert name v).names = if name ∈ t.names then t.names else t.names ++ [name] := by
  induction t with
  | nil => simp [insert, names]
  | cons e t ih =>
      rw [insert]
      by_cases he : e.1 = name
      · simp [names, he]
      · have hn : name ≠ e.1 := fun h => he h.symm
        rw [if_neg he]
        simp only [names, List.map_cons, List.mem_cons, hn, false_or] at ih ⊢
        rw [ih]
        by_cases ht : name ∈ t.map (·.1) <;> simp [ht]

theorem names_erase (t : Table α) (name : Text) :
    (t.erase name).names = t.names.filter (· ≠ name) := by
  simp [erase, names, List.filter_map, Function.comp_def]

theorem nodup_insert {t : Table α} (h : t.names.Nodup) (name : Text) (v : α) :
    (t.insert name v).names.Nodup := by
  rw [names_insert]
  by_cases hn : name ∈ t.names
  · rw [if_pos hn]
    exact h
  · rw [if_neg hn]
    simpa using List.Nodup.concat hn h

theorem nodup_erase {t : Table α} (h : t.names.Nodup) (name : Text) : (t.erase name).names.Nodup := by
  rw [names_erase]
  exact h.filter _

def last? (entries : List (Text × α)) (name : Text) : Option α :=
  ((entries.filter (·.1 = name)).getLast?).map (·.2)

theorem last?_eq_none {entries : List (Text × α)} {name : Text} (h : ∀ e ∈ entries, e.1 ≠ name) :
    last? entries name = none := by
  have hnone : entries.filter (·.1 = name) = [] := by
    rw [List.filter_eq_nil_iff]
    simpa using h
  rw [last?, hnone]
  rfl

theorem last?_append_cons {after : List (Text × α)} {name : Text}
    (h : ∀ e ∈ after, e.1 ≠ name) (before : List (Text × α)) (v : α) :
    last? (before ++ (name, v) :: after) name = some v := by
  have hafter : after.filter (·.1 = name) = [] := by
    rw [List.filter_eq_nil_iff]
    simpa using h
  rw [last?, List.filter_append, List.filter_cons_of_pos (by simp), hafter, List.getLast?_concat]
  rfl

theorem ofEntries_concat (entries : List (Text × α)) (e : Text × α) :
    ofEntries (entries ++ [e]) = (ofEntries entries).insert e.1 e.2 := by
  rw [ofEntries, List.foldl_append]
  rfl

theorem names_ofEntries (entries : List (Text × α)) :
    (ofEntries entries).names = (entries.map (·.1)).eraseDups := by
  induction entries using List.reverseRecOn with
  | nil => rfl
  | append_singleton entries e ih =>
      rw [ofEntries_concat, names_insert, ih, List.map_append, List.eraseDups_append]
      by_cases h : e.1 ∈ entries.map (·.1) <;>
        simp [h, List.removeAll, List.eraseDups_cons, List.mem_eraseDups]

theorem get?_ofEntries (entries : List (Text × α)) (name : Text) :
    (ofEntries entries).get? name = last? entries name := by
  induction entries using List.reverseRecOn with
  | nil => rfl
  | append_singleton entries e ih =>
      rw [ofEntries_concat, get?_insert, ih, last?, last?, List.filter_append]
      by_cases h : name = e.1
      · simp [h]
      · have hne : ¬ e.1 = name := fun he => h he.symm
        simp [h, hne]

theorem nodup_ofEntries (entries : List (Text × α)) : (ofEntries entries).names.Nodup := by
  induction entries using List.reverseRecOn with
  | nil => exact List.nodup_nil
  | append_singleton entries e ih =>
      rw [ofEntries_concat]
      exact nodup_insert ih e.1 e.2

theorem get?_of_mem {t : Table α} (h : t.names.Nodup) {e : Text × α} (he : e ∈ t) :
    t.get? e.1 = some e.2 := by
  induction t with
  | nil => cases he
  | cons e' t ih =>
      obtain ⟨hfresh, ht⟩ := List.nodup_cons.mp h
      rw [get?_cons]
      rcases List.mem_cons.mp he with rfl | he
      · rw [if_pos rfl]
      · have hne : e.1 ≠ e'.1 := by
          intro heq
          exact hfresh (List.mem_map.mpr ⟨e, he, heq⟩)
        rw [if_neg hne, ih ht he]

theorem filterMap_get? {t : Table α} (h : t.names.Nodup) :
    t.names.filterMap (fun name => (t.get? name).map (name, ·)) = t := by
  induction t with
  | nil => rfl
  | cons e t ih =>
      obtain ⟨hfresh, ht⟩ := List.nodup_cons.mp h
      have hrest (name : Text) (hname : name ∈ names t) : get? (e :: t) name = get? t name := by
        rw [get?_cons, if_neg]
        rintro rfl
        exact hfresh hname
      have hfirst : (get? (e :: t) e.1).map (e.1, ·) = some e := by
        rw [get?_cons, if_pos rfl]
        rfl
      have hnames : names (e :: t) = e.1 :: names t := rfl
      rw [hnames, List.filterMap_cons, hfirst]
      refine congrArg (e :: ·) (Eq.trans ?_ (ih ht))
      exact List.filterMap_congr fun name hname => by rw [hrest name hname]

theorem ofEntries_eq (entries : List (Text × α)) :
    ofEntries entries = (entries.map (·.1)).eraseDups.filterMap fun name =>
      (last? entries name).map (name, ·) := by
  conv_lhs => rw [← filterMap_get? (nodup_ofEntries entries), names_ofEntries]
  simp only [get?_ofEntries]

end Checkout.Table
