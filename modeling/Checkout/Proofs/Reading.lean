import Checkout.LineFormat
import Checkout.Proofs.Scanning

namespace Checkout.Template

/-- A template taken apart: literal texts, each but the last with a placeholder after it. -/
structure Reading where
  segments : List (Text × Placeholder)
  last : Text
  deriving DecidableEq, Repr

namespace Reading

def literals (R : Reading) : List Text := R.segments.map (·.1) ++ [R.last]

def text (R : Reading) : Text := R.segments.flatMap (fun s => s.1 ++ s.2.token) ++ R.last

def fill (v : Values) (R : Reading) : Text :=
  R.segments.flatMap (fun s => s.1 ++ v.of s.2.field) ++ R.last

def Plain (R : Reading) : Prop := ∀ l ∈ R.literals, ∀ p : Placeholder, ¬ p.token <:+: l

def pieces (R : Reading) : List Piece :=
  R.segments.flatMap (fun s => s.1.map .char ++ [.place s.2]) ++ R.last.map .char

def extend (l : Text) : Reading → Reading
  | ⟨[], last⟩ => ⟨[], l ++ last⟩
  | ⟨(k, p) :: segments, last⟩ => ⟨(l ++ k, p) :: segments, last⟩

def ofPieces : List Piece → Reading
  | [] => ⟨[], []⟩
  | .char c :: ps => (ofPieces ps).extend [c]
  | .place p :: ps => ⟨([], p) :: (ofPieces ps).segments, (ofPieces ps).last⟩

theorem pieces_extend (l : Text) (R : Reading) : (R.extend l).pieces = l.map .char ++ R.pieces := by
  rcases R with ⟨_ | ⟨⟨k, p⟩, segments⟩, last⟩ <;> simp [extend, pieces]

theorem pieces_ofPieces (ps : List Piece) : (ofPieces ps).pieces = ps := by
  induction ps with
  | nil => rfl
  | cons piece ps ih =>
      cases piece with
      | char c => rw [ofPieces, pieces_extend, ih]; rfl
      | place p => exact congrArg (.place p :: ·) ih

theorem ofPieces_append (l : Text) (ps : List Piece) :
    ofPieces (l.map .char ++ ps) = (ofPieces ps).extend l := by
  induction l with
  | nil => rcases h : ofPieces ps with ⟨_ | _, _⟩ <;> simp [extend, h]
  | cons c l ih =>
      rw [List.map_cons, List.cons_append, ofPieces, ih]
      rcases ofPieces ps with ⟨_ | _, _⟩ <;> rfl

theorem ofPieces_pieces (R : Reading) : ofPieces R.pieces = R := by
  rcases R with ⟨segments, last⟩
  induction segments with
  | nil =>
      have h := ofPieces_append last []
      rw [List.append_nil] at h
      simp [pieces, h, ofPieces, extend]
  | cons s segments ih =>
      rcases s with ⟨l, p⟩
      have h : pieces ⟨(l, p) :: segments, last⟩ =
          l.map .char ++ (.place p :: pieces ⟨segments, last⟩) := by simp [pieces]
      rw [h, ofPieces_append, ofPieces, ih]
      simp [extend]

/-- A reading is written out piece by piece, whatever stands for the placeholders. -/
theorem flatMap_pieces {f : Piece → Text} (hf : ∀ c, f (.char c) = [c]) (R : Reading) :
    R.pieces.flatMap f = R.segments.flatMap (fun s => s.1 ++ f (.place s.2)) ++ R.last := by
  have hl (l : Text) : (l.map Piece.char).flatMap f = l := by
    induction l with
    | nil => rfl
    | cons c l ih => rw [List.map_cons, List.flatMap_cons, hf, ih]; rfl
  rw [pieces, List.flatMap_append, hl, List.flatMap_assoc]
  simp [hl]

theorem written_pieces (R : Reading) : written R.pieces = R.text :=
  flatMap_pieces (fun _ => rfl) R

theorem fill_pieces (v : Values) (R : Reading) : R.pieces.flatMap (Piece.fill v) = R.fill v :=
  flatMap_pieces (fun _ => rfl) R

theorem literal_pieces {R : Reading} {l : Text} (hl : l ∈ R.literals) :
    ∃ ps, l.map Piece.char ++ ps <:+ R.pieces := by
  rcases R with ⟨segments, last⟩
  induction segments with
  | nil =>
      simp only [literals, List.map_nil, List.nil_append, List.mem_singleton] at hl
      exact ⟨[], by simp [pieces, hl]⟩
  | cons s segments ih =>
      rcases s with ⟨k, p⟩
      have h : pieces ⟨(k, p) :: segments, last⟩ =
          k.map .char ++ (.place p :: pieces ⟨segments, last⟩) := by simp [pieces]
      rw [literals, List.map_cons, List.cons_append, List.mem_cons] at hl
      rw [h]
      rcases hl with rfl | hl
      · exact ⟨_, List.suffix_rfl⟩
      · obtain ⟨ps, hps⟩ := ih hl
        exact ⟨ps, hps.trans ((List.suffix_cons _ _).trans (List.suffix_append _ _))⟩

/-- A template is read as any reading of it whose literal texts hold no placeholder. -/
theorem scan_text {R : Reading} (hR : R.Plain) {position : Nat} {ps : List Piece}
    (h : scan position 0 R.text = .ok ps) : ps = R.pieces := by
  rcases R with ⟨segments, last⟩
  induction segments generalizing position ps with
  | nil =>
      have hlast := hR last (by simp [literals])
      have htext : text ⟨[], last⟩ = last ++ [] := by simp [text]
      rw [htext] at h
      obtain ⟨rest, hrest, rfl⟩ := scan_literal hlast (by simp) h
      cases hrest
      simp [pieces]
  | cons s segments ih =>
      rcases s with ⟨l, p⟩
      have hl := hR l (by simp [literals])
      have htail : Plain ⟨segments, last⟩ := fun k hk => hR k (by
        rw [literals, List.map_cons, List.cons_append]
        exact List.mem_cons_of_mem l hk)
      have htext : text ⟨(l, p) :: segments, last⟩ = l ++ (p.token ++ text ⟨segments, last⟩) := by
        simp [text]
      rw [htext] at h
      obtain ⟨c, t, ht, hopen, _⟩ := (token_shaped p).cases_opener
      obtain ⟨rest, hrest, rfl⟩ := scan_literal hl (by simp [ht, hopen]) h
      rw [scan_place, map_eq_ok] at hrest
      obtain ⟨qs, hqs, rfl⟩ := hrest
      rw [ih htail hqs]
      simp [pieces]

theorem not_shaped_of_infix {R : Reading} {position : Nat} {t : Text}
    (h : scan position 0 t = .ok R.pieces) {l s : Text} (hl : l ∈ R.literals) (hs : s <:+: l) :
    ¬ Shaped s := by
  rintro hshaped
  obtain ⟨ps, hps⟩ := literal_pieces hl
  obtain ⟨u, v, rfl⟩ := hs
  obtain ⟨c, k, rfl, _⟩ := hshaped.cases_opener
  have hsuffix : .char c :: ((k ++ v).map .char ++ ps) <:+ R.pieces := by
    apply List.IsSuffix.trans _ hps
    exact ⟨u.map .char, by simp⟩
  have hnone := (scan_sound h).2 c _ hsuffix
  have hwritten : c :: written ((k ++ v).map .char ++ ps) = (c :: k) ++ (v ++ written ps) := by
    have hchars (w : Text) : written (w.map .char ++ ps) = w ++ written ps := by
      induction w with
      | nil => rfl
      | cons d w ih => exact congrArg (d :: ·) ih
    rw [hchars, List.append_assoc]
    rfl
  rw [hwritten, shaped?_eq_some.mpr ⟨List.prefix_append _ _, hshaped⟩] at hnone
  cases hnone

end Reading

/-- A template that is accepted has exactly one reading without placeholders in its literal texts.
These hold no text shaped like a placeholder at all, and a line is rendered by the reading: what
is put in is not read again. -/
theorem unique_reading (t : Text) (ht : t ≠ []) (hok : check (some t) = .ok ()) :
    ∃ R : Reading, R.text = t ∧ R.Plain ∧
      (∀ S : Reading, S.text = t → S.Plain → S = R) ∧
      (∀ l ∈ R.literals, ∀ s, s <:+: l → ¬ Shaped s) ∧
      ∀ symbol quantity name price q p, Numeral.write? quantity = some q →
        Amount.format? symbol price = some p →
          LineFormat.render symbol (some t) quantity name price = .ok (R.fill ⟨q, name, p⟩) := by
  rw [check, map_eq_ok] at hok
  obtain ⟨ps, hps, _⟩ := hok
  have hpieces : (Reading.ofPieces ps).pieces = ps := Reading.pieces_ofPieces ps
  have hscan : scan 0 0 t = .ok (Reading.ofPieces ps).pieces := by rw [hpieces]; exact hps
  have hshape (l : Text) (hl : l ∈ (Reading.ofPieces ps).literals) (s : Text) (hs : s <:+: l) :
      ¬ Shaped s := Reading.not_shaped_of_infix hscan hl hs
  refine ⟨Reading.ofPieces ps, ?_, ?_, ?_, hshape, ?_⟩
  · rw [← Reading.written_pieces, (scan_sound hscan).1, List.drop_zero]
  · intro l hl p hp
    exact hshape l hl _ hp (token_shaped p)
  · intro S hS hplain
    have hscan : scan 0 0 S.text = .ok ps := by rw [hS]; exact hps
    rw [Reading.scan_text hplain hscan, Reading.ofPieces_pieces]
  · intro symbol quantity name price q p hq hp
    obtain ⟨c, u, rfl⟩ := List.exists_cons_of_ne_nil ht
    have hv : LineFormat.values? symbol quantity name price = some ⟨q, name, p⟩ := by
      rw [LineFormat.values?, hq, hp]
    have hfill : fill ⟨q, name, p⟩ (some (c :: u)) =
        .ok ((Reading.ofPieces ps).fill ⟨q, name, p⟩) := by
      rw [← Reading.fill_pieces, hpieces, fill, hps]
      · rfl
      · exact ht
    rw [LineFormat.render, hv]
    simp only [hfill]

def bracketed : Text := "<<qt>> \x7b\x7bname\x7d\x7d <pn<pc>\x7bprice"

theorem unique_reading_bracketed :
    bracketed ≠ [] ∧ check (some bracketed) = .ok () ∧
    ∃ R : Reading, R.text = bracketed ∧ R.Plain ∧
      (∀ S : Reading, S.text = bracketed → S.Plain → S = R) ∧
      LineFormat.render "€" (some bracketed) 2 "<pc>" 350 = .ok (R.fill ⟨"2", "<pc>", "€3.50"⟩) := by
  have hne : bracketed ≠ [] := by decide
  have hok : check (some bracketed) = .ok () := rfl
  obtain ⟨R, htext, hplain, hunique, _, hrender⟩ := unique_reading bracketed hne hok
  exact ⟨hne, hok, R, htext, hplain, hunique,
    hrender "€" 2 "<pc>" 350 "2" "€3.50" (by decide +kernel) (by decide +kernel)⟩

end Checkout.Template
