import Checkout.Proofs.Reading
import Checkout.Proofs.Seam
import Mathlib.Algebra.BigOperators.Group.Finset.Basic
import Mathlib.Data.Finset.Max

namespace Checkout.Template

def Style.other : Style → Style
  | .short => .long
  | .long => .short

namespace Placeholder

def other (p : Placeholder) : Placeholder := ⟨p.field, p.style.other⟩

def growth (p : Placeholder) : Int := p.other.token.length - p.token.length

theorem token_length_pos (p : Placeholder) : 0 < p.token.length := (token_shaped p).length_pos

end Placeholder

namespace Reading

/-- The reading with its placeholders spelled the other way. Those that stand in its literal texts
stay what they are. -/
def respelled (R : Reading) : Reading := ⟨R.segments.map fun s => (s.1, s.2.other), R.last⟩

def marksFrom (position : Nat) : List (Text × Placeholder) → List (Nat × Placeholder)
  | [] => []
  | (l, p) :: segments =>
      (position + l.length, p) :: marksFrom (position + l.length + p.token.length) segments

def marks (R : Reading) : List (Nat × Placeholder) := marksFrom 0 R.segments

theorem text_cons (l : Text) (p : Placeholder) (segments : List (Text × Placeholder))
    (last : Text) : text ⟨(l, p) :: segments, last⟩ = l ++ (p.token ++ text ⟨segments, last⟩) := by
  simp [text]

theorem text_concat (segments : List (Text × Placeholder)) (l : Text) (p : Placeholder)
    (last : Text) : text ⟨segments ++ [(l, p)], last⟩ = text ⟨segments, l⟩ ++ (p.token ++ last) := by
  simp [text]

theorem marksFrom_concat (position : Nat) (segments : List (Text × Placeholder)) (l : Text)
    (p : Placeholder) : marksFrom position (segments ++ [(l, p)]) =
      marksFrom position segments ++ [(position + (text ⟨segments, l⟩).length, p)] := by
  induction segments generalizing position with
  | nil => simp [marksFrom, text]
  | cons s segments ih =>
      rcases s with ⟨k, q⟩
      rw [List.cons_append, marksFrom, ih, marksFrom, text_cons, List.length_append,
        List.length_append, List.cons_append, Nat.add_assoc, Nat.add_assoc, Nat.add_assoc]

theorem marksFrom_add (n position : Nat) (segments : List (Text × Placeholder)) :
    marksFrom (n + position) segments =
      (marksFrom position segments).map fun o => (n + o.1, o.2) := by
  induction segments generalizing position with
  | nil => rfl
  | cons s segments ih =>
      rcases s with ⟨l, p⟩
      rw [marksFrom, marksFrom, List.map_cons, Nat.add_assoc, Nat.add_assoc, ih, Nat.add_assoc]

theorem le_marksFrom {position : Nat} {segments : List (Text × Placeholder)} :
    ∀ o ∈ marksFrom position segments, position ≤ o.1 := by
  induction segments generalizing position with
  | nil => exact List.forall_mem_nil _
  | cons s segments ih =>
      rw [marksFrom, List.forall_mem_cons]
      refine ⟨Nat.le_add_right _ _, fun o ho => ?_⟩
      have hle := ih o ho
      omega

theorem nodup_marksFrom (position : Nat) (segments : List (Text × Placeholder)) :
    (marksFrom position segments).Nodup := by
  induction segments generalizing position with
  | nil => exact List.nodup_nil
  | cons s segments ih =>
      rw [marksFrom, List.nodup_cons]
      refine ⟨fun hmem => ?_, ih _⟩
      have hle := le_marksFrom _ hmem
      have hpos := s.2.token_length_pos
      omega

/-- Whatever placeholders are chosen in a text, some reading of it has just these. -/
theorem exists_marks {t : Text} {S : Finset (Nat × Placeholder)}
    (hS : ∀ o ∈ S, o.2.token <+: t.drop o.1) : ∃ R : Reading, R.text = t ∧ R.marks.toFinset = S := by
  -- The last one is taken off: all others stand in the text in front of it.
  induction S using Finset.induction_on_max_value (fun o : Nat × Placeholder => o.1)
    generalizing t with
  | empty => exact ⟨⟨[], t⟩, by simp [text], rfl⟩
  | insert o S ho hlast ih =>
      rcases o with ⟨i, p⟩
      have hp : p.token <+: t.drop i := hS (i, p) (Finset.mem_insert_self _ _)
      have hfront : ∀ o ∈ S, o.2.token <+: (t.take i).drop o.1 := by
        rintro ⟨j, q⟩ hmem
        have hq : q.token <+: t.drop j := hS (j, q) (Finset.mem_insert_of_mem hmem)
        have hne : j ≠ i := by
          rintro rfl
          rw [token_injective ((token_shaped q).unique (token_shaped p) hq hp)] at hmem
          exact ho hmem
        have hends := (token_shaped q).ends_before (token_shaped p) hq hp
          (lt_of_le_of_ne (hlast _ hmem) hne)
        rw [List.drop_take, List.prefix_take_iff]
        exact ⟨hq, Nat.le_sub_of_add_le' hends⟩
      obtain ⟨R, htext, hmarks⟩ := ih hfront
      obtain ⟨rest, hrest⟩ := hp
      have hlength : (t.take i).length = i := by
        have hlong := congrArg List.length hrest
        have hpos := p.token_length_pos
        rw [List.length_append, List.length_drop] at hlong
        rw [List.length_take]
        omega
      refine ⟨⟨R.segments ++ [(R.last, p)], rest⟩, ?_, ?_⟩
      · rw [text_concat, htext, hrest, List.take_append_drop]
      · rw [marks, marksFrom_concat, htext, hlength, Nat.zero_add, List.toFinset_append, ← marks,
          hmarks]
        exact Finset.union_comm _ _

def growthBefore (R : Reading) (position : Nat) : Int :=
  ((R.marks.filter (·.1 < position)).map (·.2.growth)).sum

theorem growthBefore_eq_sum {R : Reading} {S : Finset (Nat × Placeholder)}
    (hR : R.marks.toFinset = S) (position : Nat) :
    R.growthBefore position = ∑ o ∈ S with o.1 < position, o.2.growth := by
  have hnodup : (R.marks.filter (·.1 < position)).Nodup := (nodup_marksFrom 0 R.segments).filter _
  rw [growthBefore, ← List.sum_toFinset _ hnodup, List.toFinset_filter, hR]
  simp only [decide_eq_true_eq]

theorem marks_cons (l : Text) (p : Placeholder) (segments : List (Text × Placeholder))
    (last : Text) : marks ⟨(l, p) :: segments, last⟩ =
      (l.length, p) ::
        (marks ⟨segments, last⟩).map fun o => (l.length + p.token.length + o.1, o.2) := by
  have hadd := marksFrom_add (l.length + p.token.length) 0 segments
  rw [Nat.add_zero] at hadd
  rw [marks, marksFrom, Nat.zero_add, hadd]
  rfl

theorem growthBefore_cons (l : Text) (p : Placeholder) (segments : List (Text × Placeholder))
    (last : Text) (position : Nat) :
    growthBefore ⟨(l, p) :: segments, last⟩ (l.length + p.token.length + position) =
      p.growth + growthBefore ⟨segments, last⟩ position := by
  have hfirst : l.length < l.length + p.token.length + position := by
    have hpos := p.token_length_pos
    omega
  rw [growthBefore, marks_cons, List.filter_cons_of_pos (by simpa using hfirst), List.filter_map,
    List.map_cons, List.sum_cons, List.map_map, growthBefore]
  simp [Function.comp_def]

theorem growthBefore_first {l : Text} {position : Nat} (h : position ≤ l.length) (p : Placeholder)
    (segments : List (Text × Placeholder)) (last : Text) :
    growthBefore ⟨(l, p) :: segments, last⟩ position = 0 := by
  have hnone : (marks ⟨(l, p) :: segments, last⟩).filter (·.1 < position) = [] := by
    rw [marks_cons, List.filter_eq_nil_iff]
    intro o ho
    have hle : l.length ≤ o.1 := by
      rcases List.mem_cons.mp ho with rfl | ho
      · exact le_rfl
      · obtain ⟨o, _, rfl⟩ := List.mem_map.mp ho
        exact (Nat.le_add_right _ _).trans (Nat.le_add_right _ _)
    rw [decide_eq_true_eq]
    omega
  rw [growthBefore, hnone]
  rfl

end Reading

theorem check_eq_filled (v : Values) (t : Text) :
    check (some t) = (filled v t).map fun _ => () := by
  rw [check, filled]
  cases pieces t <;> rfl

theorem Unknown.LeftmostIn.position_lt {u : Unknown} {t : Text} (h : u.LeftmostIn t) :
    u.position < t.length := by
  have hpos := h.stands.shaped.length_pos
  have hlength := h.stands.front.length_le
  rw [List.length_drop] at hlength
  omega

theorem pieces_place (p : Placeholder) (t : Text) :
    pieces (p.token ++ t) =
      ((pieces t).mapError (Unknown.shift p.token.length)).map (.place p :: ·) := by
  have hshift := scan_shift p.token.length 0 0 t
  rw [Nat.add_zero] at hshift
  rw [pieces, scan_place, Nat.zero_add, hshift]
  rfl

/-- A placeholder parts a template: what stands in front of it and what comes after it are read
apart from each other. -/
theorem filled_place (v : Values) (l : Text) (p : Placeholder) (t : Text) :
    filled v (l ++ (p.token ++ t)) = (filled v l).bind fun x =>
      ((filled v t).mapError (Unknown.shift (l.length + p.token.length))).map fun y =>
        x ++ (v.of p.field ++ y) := by
  obtain ⟨c, k, hk, hopen, _⟩ := (token_shaped p).cases_opener
  have hapart : Apart l (p.token ++ t) := apart_of_opener (by simp [hk, hopen])
  rw [filled, pieces_append hapart, pieces_place, filled, filled]
  cases pieces l with
  | error u => rfl
  | ok ps =>
      cases pieces t with
      | error u => simp [Except.bind, Except.map, Except.mapError, Unknown.shift, Nat.add_assoc]
      | ok qs => simp [Except.bind, Except.map, Except.mapError, Piece.fill]

/-- Two templates come to the same, or are refused for the same unknown placeholder. Where it begins
in the first one says by how much further on it begins in the second. -/
inductive Moved (δ : Nat → Int) {α : Type} : Except Unknown α → Except Unknown α → Prop
  | ok (a : α) : Moved δ (.ok a) (.ok a)
  | error (u v : Unknown) (token : v.token = u.token)
      (position : (v.position : Int) = u.position + δ u.position) : Moved δ (.error u) (.error v)

section

variable {δ : Nat → Int} {α β : Type} {x y : Except Unknown α}

theorem Moved.map (h : Moved δ x y) (f : α → β) : Moved δ (x.map f) (y.map f) := by
  cases h with
  | ok a => exact .ok (f a)
  | error u v token position => exact .error u v token position

theorem Moved.eq_ok {a : α} (h : Moved δ (.ok a) y) : y = .ok a := by
  cases h
  rfl

theorem Moved.eq_error {u : Unknown} (h : Moved δ (.error u) y) :
    ∃ v, y = .error v ∧ v.token = u.token ∧ (v.position : Int) = u.position + δ u.position := by
  cases h with
  | error _ v token position => exact ⟨v, rfl, token, position⟩

end

theorem Reading.filled_respelled (v : Values) (R : Reading) :
    Moved R.growthBefore (filled v R.text) (filled v R.respelled.text) := by
  rcases R with ⟨segments, last⟩
  induction segments with
  | nil =>
      have htext : (respelled ⟨[], last⟩).text = text ⟨[], last⟩ := rfl
      rw [htext]
      cases filled v (text ⟨[], last⟩) with
      | ok line => exact .ok line
      | error u => exact .error u u rfl (Int.add_zero _).symm
  | cons s segments ih =>
      rcases s with ⟨l, p⟩
      have htext : (respelled ⟨(l, p) :: segments, last⟩).text =
          l ++ (p.other.token ++ (respelled ⟨segments, last⟩).text) := text_cons _ _ _ _
      rw [text_cons, htext, filled_place, filled_place]
      -- What is refused in front of the first placeholder stays where it is.
      cases hl : filled v l with
      | error u =>
          have hbefore := (filled_eq_error.mp hl).position_lt.le
          refine .error u u rfl ?_
          rw [growthBefore_first hbefore, Int.add_zero]
      | ok x =>
          generalize filled v (text ⟨segments, last⟩) = first at ih ⊢
          generalize filled v (respelled ⟨segments, last⟩).text = second at ih ⊢
          cases ih with
          | ok y => exact .ok _
          | error u w token position =>
              refine .error _ _ token ?_
              have hgrowth : (p.other.token.length : Int) = p.token.length + p.growth := by
                rw [Placeholder.growth]
                omega
              simp only [Unknown.shift, growthBefore_cons, Nat.cast_add, position, hgrowth]
              omega

theorem Reading.check_respelled (R : Reading) :
    Moved R.growthBefore (check (some R.text)) (check (some R.respelled.text)) := by
  rw [check_eq_filled ⟨[], [], []⟩, check_eq_filled ⟨[], [], []⟩]
  exact (R.filled_respelled _).map _

theorem Reading.text_eq_nil {R : Reading} : R.text = [] ↔ R.segments = [] ∧ R.last = [] := by
  rcases R with ⟨_ | ⟨⟨l, p⟩, segments⟩, last⟩
  · simp [text]
  · have hp : p.token ≠ [] := List.ne_nil_of_length_pos p.token_length_pos
    simp [text_cons, hp]

theorem Reading.text_respelled_eq_nil {R : Reading} : R.respelled.text = [] ↔ R.text = [] := by
  rw [text_eq_nil, text_eq_nil, respelled, List.map_eq_nil_iff]

theorem Reading.fill_respelled {R : Reading} (h : check (some R.text) = .ok ()) (v : Values) :
    Template.fill v (some R.respelled.text) = Template.fill v (some R.text) := by
  by_cases hnil : R.text = []
  · rw [text_respelled_eq_nil.mpr hnil, hnil]
  · have hne : R.respelled.text ≠ [] := mt text_respelled_eq_nil.mp hnil
    rw [check_eq_filled v, map_eq_ok] at h
    obtain ⟨line, hline, _⟩ := h
    have hmoved := R.filled_respelled v
    rw [hline] at hmoved
    rw [fill_eq_filled hnil, fill_eq_filled hne, hline, hmoved.eq_ok]

def layout (name quantity price : Style) : Text :=
  (⟨.name, name⟩ : Placeholder).token ++ " - " ++ (⟨.quantity, quantity⟩ : Placeholder).token ++
    " - " ++ (⟨.price, price⟩ : Placeholder).token

theorem fill_layout (v : Values) (a b c : Style) : fill v (some (layout a b c)) = .ok (standard v) := by
  have hpieces : pieces (layout a b c) = .ok [.place ⟨.name, a⟩, .char ' ', .char '-', .char ' ',
      .place ⟨.quantity, b⟩, .char ' ', .char '-', .char ' ', .place ⟨.price, c⟩] := by
    cases a <;> cases b <;> cases c <;> rfl
  have hne : layout a b c ≠ [] := by
    cases a <;> cases b <;> cases c <;> decide
  rw [fill_eq_filled hne, filled, hpieces]
  simp [Except.map, Piece.fill, Values.of, standard]

end Checkout.Template

namespace Checkout.LineFormat

open Template

theorem render_congr {a b : Option Text} (h : ∀ v, fill v a = fill v b) (symbol : Text)
    (quantity : Int) (name : Text) (price : Int) :
    render symbol a quantity name price = render symbol b quantity name price := by
  simp only [render, h]

/-- Placeholders may be spelled either way. Whatever placeholders of a template are chosen, with each
of them spelled the other way the template is accepted as before and renders every line as before, or
is refused for the same token as before, which begins further on by what the text before it has grown.
The layout of a line without a template is the documented one, however that is spelled. -/
theorem spellings_interchangeable (t : Text) (S : Finset (Nat × Placeholder))
    (hS : ∀ o ∈ S, o.2.token <+: t.drop o.1) :
    (∃ R : Reading, R.text = t ∧ R.marks.toFinset = S) ∧
    (∀ R : Reading, R.text = t → R.marks.toFinset = S →
      let t' := R.respelled.text
      (check (some t) = .ok () → check (some t') = .ok () ∧
        ∀ symbol quantity name price,
          render symbol (some t') quantity name price =
            render symbol (some t) quantity name price ∧
          ∀ q p, Numeral.write? quantity = some q → Amount.format? symbol price = some p →
            ∃ line, render symbol (some t') quantity name price = .ok line) ∧
      (∀ u, check (some t) = .error u → ∃ u', check (some t') = .error u' ∧ u'.token = u.token ∧
        (u'.position : Int) = u.position + ∑ o ∈ S with o.1 < u.position, o.2.growth ∧
        ∀ symbol quantity name price q p, Numeral.write? quantity = some q →
          Amount.format? symbol price = some p →
            render symbol (some t') quantity name price = .error (.unknown u'))) ∧
    (layout .short .short .short = "<pn> - <qt> - <pc>" ∧
      ∀ a b c symbol quantity name price,
        render symbol (some (layout a b c)) quantity name price =
          render symbol none quantity name price ∧
        render symbol (some []) quantity name price = render symbol none quantity name price ∧
        ∀ q p, Numeral.write? quantity = some q → Amount.format? symbol price = some p →
          render symbol none quantity name price = .ok (name ++ " - " ++ q ++ " - " ++ p)) := by
  have hvalues {symbol : Text} {quantity : Int} (name : Text) {price : Int} {q p : Text}
      (hq : Numeral.write? quantity = some q) (hp : Amount.format? symbol price = some p) :
      values? symbol quantity name price ≠ none := by
    simp [values?, hq, hp]
  refine ⟨Reading.exists_marks hS, ?_, rfl, ?_⟩
  · rintro R rfl hmarks t'
    have hmoved := R.check_respelled
    constructor
    · intro hok
      rw [hok] at hmoved
      refine ⟨hmoved.eq_ok, ?_⟩
      intro symbol quantity name price
      refine ⟨render_congr (R.fill_respelled hok) symbol quantity name price, ?_⟩
      intro q p hq hp
      exact (exists_render (hvalues name hq hp)).mpr hmoved.eq_ok
    · intro u hu
      rw [hu] at hmoved
      obtain ⟨u', hu', htoken, hposition⟩ := hmoved.eq_error
      rw [Reading.growthBefore_eq_sum hmarks] at hposition
      refine ⟨u', hu', htoken, hposition, ?_⟩
      intro symbol quantity name price q p hq hp
      exact (render_eq_unknown (hvalues name hq hp) u').mpr hu'
  · intro a b c symbol quantity name price
    refine ⟨render_congr (fun v => fill_layout v a b c) symbol quantity name price, rfl, ?_⟩
    intro q p hq hp
    have hv : values? symbol quantity name price = some ⟨q, name, p⟩ := by rw [values?, hq, hp]
    exact (render_eq_ok hv).mpr rfl

/-- The brackets around a placeholder do not close around its longer spelling, and a placeholder
that is not chosen stays as it is. An unknown one is told where the text before it has moved it. -/
theorem spellings_interchangeable_brackets :
    let t : Text := "\x7b<qt>\x7d <<pn>> \x7bprice\x7d"
    let S : Finset (Nat × Placeholder) := {(1, ⟨.quantity, .short⟩), (14, ⟨.price, .long⟩)}
    let u : Text := "<qt> <xx> <pc>"
    let T : Finset (Nat × Placeholder) := {(0, ⟨.quantity, .short⟩), (10, ⟨.price, .short⟩)}
    ((∀ o ∈ S, o.2.token <+: t.drop o.1) ∧ check (some t) = .ok () ∧
      render "€" (some "\x7b\x7bquantity\x7d\x7d <<pn>> <pc>") 2 "tea" 300 =
        render "€" (some t) 2 "tea" 300) ∧
    ((∀ o ∈ T, o.2.token <+: u.drop o.1) ∧ check (some u) = .error ⟨"<xx>", 5⟩ ∧
      check (some "\x7bquantity\x7d <xx> \x7bprice\x7d") = .error ⟨"<xx>", 11⟩) := by
  intro t S u T
  constructor
  · have hS : ∀ o ∈ S, o.2.token <+: t.drop o.1 := by decide
    have hok : check (some t) = .ok () := rfl
    obtain ⟨_, hrespelled, _⟩ := spellings_interchangeable t S hS
    let R : Reading :=
      ⟨[("\x7b", ⟨.quantity, .short⟩), ("\x7d <<pn>> ", ⟨.price, .long⟩)], ""⟩
    exact ⟨hS, hok, (((hrespelled R rfl (by decide)).1 hok).2 "€" 2 "tea" 300).1⟩
  · have hT : ∀ o ∈ T, o.2.token <+: u.drop o.1 := by decide
    have hu : check (some u) = .error ⟨"<xx>", 5⟩ := rfl
    obtain ⟨_, hrespelled, _⟩ := spellings_interchangeable u T hT
    let R : Reading := ⟨[("", ⟨.quantity, .short⟩), (" <xx> ", ⟨.price, .short⟩)], ""⟩
    obtain ⟨⟨_, position⟩, hu', rfl, hposition, _⟩ := (hrespelled R rfl (by decide)).2 _ hu
    have hgrowth : ∑ o ∈ T with o.1 < 5, o.2.growth = 6 := by decide
    simp only [hgrowth] at hposition
    obtain rfl : position = 11 := by omega
    exact ⟨hT, hu, hu'⟩

end Checkout.LineFormat
