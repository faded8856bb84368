import Checkout.Proofs.Renditions
import Checkout.Proofs.ScanWord
import Mathlib.Algebra.Order.BigOperators.Group.List

namespace Checkout.CommandLine

def positional : List Word → List Text
  | [] => []
  | .plain t :: words => t :: positional words
  | .flag f none :: .plain value :: words =>
      if f.takesValue then positional words else value :: positional words
  | _ :: words => positional words

def scanWords (words : List Text) : List Text :=
  match classifyAll words with
  | .error _ => []
  | .ok found => positional found

theorem positional_value {f : Flag} (h : f.takesValue = true) (value : Text) (words : List Word) :
    positional (.flag f none :: .plain value :: words) = positional words := by
  rw [positional, if_pos h]

theorem positional_switch {f : Flag} (h : ¬ f.takesValue = true) (words : List Word) :
    positional (.flag f none :: words) = positional words := by
  cases words with
  | nil => rfl
  | cons w words => cases w <;> simp [positional, h]

namespace Progress

/-- Words that are still to come are read as some scans, with those of a run that has begun. Where
words are left over already, or come after the run, nothing is read. -/
inductive Reads : Progress → List Text → List Scan → Prop
  | awaited {o : Settings.Overrides} {json : Bool} {rest : List Text} {scans : List Scan}
      (h : parseAll rest = .ok scans) : Reads ⟨o, json, .awaited, []⟩ rest scans
  | running {o : Settings.Overrides} {json : Bool} {words rest : List Text} {scans : List Scan}
      (h : parseAll (words ++ rest) = .ok scans) : Reads ⟨o, json, .running words, []⟩ rest scans
  | taken {o : Settings.Overrides} {json : Bool} {scans : List Scan} :
      Reads ⟨o, json, .taken scans, []⟩ [] scans

variable {p q : Progress} {rest : List Text} {scans : List Scan}

theorem Reads.left_eq_nil (h : p.Reads rest scans) : p.left = [] := by
  cases h <;> rfl

theorem Reads.of_word {t : Text} (h : (p.word t).Reads rest scans) : p.Reads (t :: rest) scans := by
  rcases p with ⟨o, json, _ | words | found, left⟩
  · cases h with
    | running h => exact .awaited h
  · cases h with
    | running h =>
        rw [List.append_assoc, List.singleton_append] at h
        exact .running h
  · exact absurd h.left_eq_nil (by simp [word])

theorem Reads.of_separator (h : p.separator.Reads rest scans) : p.Reads rest scans := by
  rcases p with ⟨o, json, _ | words | found, left⟩
  · cases h with
    | running h => exact .awaited h
  · exact h
  · exact absurd h.left_eq_nil (by simp [separator])

theorem Reads.of_endRun (hq : p.endRun = .ok q) (h : q.Reads rest scans) :
    p.Reads rest scans := by
  rcases p with ⟨o, json, _ | words | found, left⟩
  · cases hq
    exact h
  · simp only [endRun] at hq
    cases hparse : parseAll words with
    | error e =>
        rw [hparse] at hq
        cases hq
    | ok found =>
        rw [hparse] at hq
        cases hq
        cases h with
        | taken => exact .running (by rw [List.append_nil, hparse])
  · cases hq
    exact h

theorem Reads.of_setValue {f : Flag} {t : Text} (h : (p.setValue f t).Reads rest scans) :
    p.Reads rest scans := by
  rcases p with ⟨o, json, found, left⟩
  cases f <;> cases h <;> constructor <;> assumption

theorem Reads.of_switch {f : Flag} (h : (p.switch f).Reads rest scans) : p.Reads rest scans := by
  rcases p with ⟨o, json, found, left⟩
  cases f <;> cases h <;> constructor <;> assumption

theorem reads_finish {a : Arguments} (h : p.finish = .ok a) : p.Reads [] a.scans := by
  -- Once the run is over, words that are left over are all that can be wrong.
  have hleft {q : Progress} (hq : p.endRun = .ok q) : q.left = [] := by
    rw [finish, hq] at h
    by_contra hne
    change (if q.left = [] then _ else _) = _ at h
    rw [if_neg hne] at h
    cases h
  rcases p with ⟨o, json, _ | words | found, left⟩
  · obtain rfl : left = [] := hleft rfl
    cases h
    exact .awaited rfl
  · cases hparse : parseAll words with
    | error e =>
        simp only [finish, endRun, hparse] at h
        cases h
    | ok found =>
        obtain rfl : left = [] := hleft (by simp only [endRun, hparse]; rfl)
        simp only [finish, endRun, hparse] at h
        cases h
        exact .running (by rw [List.append_nil, hparse])
  · obtain rfl : left = [] := hleft rfl
    cases h
    exact .taken

end Progress

/-- The words that are read as the scans of a receipt are all that are meant as scans, in order. -/
theorem take_reads {p : Progress} {words : List Word} {a : Arguments}
    (h : take p words = .ok (.receipt a)) : p.Reads (positional words) a.scans := by
  fun_induction take p words with
  | case1 p =>
      obtain ⟨a', ha, heq⟩ := Template.map_eq_ok.mp h
      cases heq
      exact Progress.reads_finish ha
  | case2 p t words ih => exact (ih h).of_word
  | case3 p words ih => exact (ih h).of_separator
  | case4 | case6 | case8 | case10 | case11 | case13 | case14 => cases h
  | case5 p t words q hq ih => exact absurd (ih h).left_eq_nil (by simp)
  | case7 p tail words q hq =>
      obtain ⟨_, _, heq⟩ := Template.map_eq_ok.mp h
      cases heq
  | case9 p f value words q hq hf ih => exact (ih h).of_setValue.of_endRun hq
  | case12 p f q hq hf value words ih =>
      rw [positional_value hf]
      exact (ih h).of_setValue.of_endRun hq
  | case15 p f words q hq hf hhelp ih =>
      rw [positional_switch hf]
      exact (ih h).of_switch.of_endRun hq

theorem parse_reads {words : List Text} {a : Arguments} (h : parse words = .ok (.receipt a)) :
    Progress.parseAll (scanWords words) = .ok a.scans := by
  rw [parse] at h
  rw [scanWords]
  cases hfound : classifyAll words with
  | error e =>
      rw [hfound] at h
      cases h
  | ok found =>
      rw [hfound] at h
      cases take_reads h with
      | awaited hreads => exact hreads

theorem mem_parseAll {words : List Text} {scans : List Scan}
    (h : Progress.parseAll words = .ok scans) :
    (∀ word ∈ words, ∃ s ∈ scans, Scan.parse word = .ok s) ∧
      ∀ s ∈ scans, ∃ word ∈ words, Scan.parse word = .ok s := by
  induction words generalizing scans with
  | nil =>
      cases h
      exact ⟨nofun, nofun⟩
  | cons word words ih =>
      rw [Progress.parseAll] at h
      cases hs : Scan.parse word with
      | error e =>
          rw [hs] at h
          cases h
      | ok s =>
          rw [hs] at h
          obtain ⟨rest, hrest, rfl⟩ := Template.map_eq_ok.mp h
          obtain ⟨hwords, hscans⟩ := ih hrest
          refine ⟨List.forall_mem_cons.mpr ⟨⟨s, List.mem_cons_self, hs⟩, ?_⟩,
            List.forall_mem_cons.mpr ⟨⟨word, List.mem_cons_self, hs⟩, ?_⟩⟩
          · intro w hw
            obtain ⟨t, ht, hparse⟩ := hwords w hw
            exact ⟨t, List.mem_cons_of_mem s ht, hparse⟩
          · intro t ht
            obtain ⟨w, hw, hparse⟩ := hscans t ht
            exact ⟨w, List.mem_cons_of_mem word hw, hparse⟩

/-- Only the empty word is a scan of an item without a name. -/
theorem Scan.item_eq_nil {word : Text} {s : Scan} (h : Scan.parse word = .ok s) :
    s.item = [] ↔ word = [] := by
  cases Scan.parse_eq_ok.mp h with
  | bare => rfl
  | counted hitem => simp [hitem]

section

variable {opener : Catalog.Opener} {vars : Environment} {words : List Text} {a : Arguments}
  {s : Settings} {table : PriceTable} {c : Cart} {r : Receipt} {t : Text}

theorem Completes.mem_items (h : Completes opener vars a s table c r t) (item : Text) :
    (∃ l ∈ r.lines, l.item = item) ↔ (∃ s ∈ a.scans, s.item = item) ∧ 0 < net item a.scans := by
  obtain ⟨b, hb, hitems⟩ := h.billed
  rw [← List.mem_map, hitems, hb.billed_eq, bill, Table.names, List.map_map]
  simp [List.mem_eraseDups]

/-- The scans of nothing are of one unit each, so they do not cancel out. -/
theorem net_nil_pos (hparse : parse words = .ok (.receipt a))
    (h : ∃ s ∈ a.scans, s.item = []) : 0 < net [] a.scans := by
  obtain ⟨_, hscans⟩ := mem_parseAll (parse_reads hparse)
  apply List.sum_pos
  · intro q hq
    obtain ⟨s, hs, rfl⟩ := List.mem_map.mp hq
    obtain ⟨hmem, hitem⟩ := List.mem_filter.mp hs
    obtain ⟨word, _, hword⟩ := hscans s hmem
    have hnil : word = [] := (Scan.item_eq_nil hword).mp (by simpa using hitem)
    rw [hnil, Scan.parse_bare (by simp)] at hword
    cases hword
    decide
  · obtain ⟨s, hs, hitem⟩ := h
    have hmem : s ∈ a.scans.filter (·.item = []) := List.mem_filter.mpr ⟨hs, by simpa using hitem⟩
    exact List.ne_nil_of_mem (List.mem_map_of_mem hmem)

theorem Completes.nameless_iff (hparse : parse words = .ok (.receipt a))
    (h : Completes opener vars a s table c r t) :
    (∃ l ∈ r.lines, l.item = []) ↔ [] ∈ scanWords words := by
  obtain ⟨hwords, hscans⟩ := mem_parseAll (parse_reads hparse)
  rw [h.mem_items, and_iff_left_of_imp (net_nil_pos hparse)]
  constructor
  · rintro ⟨s, hs, hitem⟩
    obtain ⟨word, hword, hs⟩ := hscans s hs
    rwa [(Scan.item_eq_nil hs).mp hitem] at hword
  · intro hnil
    obtain ⟨s, hs, hparse⟩ := hwords [] hnil
    exact ⟨s, hs, (Scan.item_eq_nil hparse).mpr rfl⟩

end

/-- A word with nothing before its last colon is refused, and a call with one among its scans prints
no receipt. A receipt that is printed has a line for an item without a name exactly where the empty
word is among the scans, which is the one word without a name that is taken. -/
theorem nameless_lines (opener : Catalog.Opener) (env : Environment) (file : Text)
    (words : List Text) :
    let o := run opener env file words
    (∀ t, ':' ∉ t → Scan.parse (':' :: t) = .error ⟨':' :: t, .missingName⟩) ∧
    (∀ word s, Scan.parse word = .ok s → (s.item = [] ↔ word = [])) ∧
    (∀ t, ':' ∉ t → ':' :: t ∈ scanWords words → parse words = .ok .help ∨
      o.out = [] ∧ (o.ending = .exit 2 ∨ ∃ u, env.withFile file = .error u)) ∧
    (parse words = .ok .help ∨ o.ending ≠ .exit 0 ∧ o.out = [] ∨
      ∃ vars a s table c r, env.withFile file = .ok vars ∧ parse words = .ok (.receipt a) ∧
        Completes opener vars a s table c r o.out ∧ o.ending = .exit 0 ∧
        ((∃ l ∈ r.lines, l.item = []) ↔ [] ∈ scanWords words)) := by
  intro o
  refine ⟨fun t => Scan.parse_unnamed, fun word s => Scan.item_eq_nil, ?_, ?_⟩
  · intro t ht hmem
    cases hvars : env.withFile file with
    | error u =>
        have ho : o = ⟨.crash (.unsettable u), [], [], []⟩ := run_unsettable hvars opener words
        exact .inr ⟨by rw [ho], .inr ⟨u, rfl⟩⟩
    | ok vars =>
        rcases hparse : parse words with e | _ | a
        · have ho := run_unparsed hvars hparse opener
          exact .inr ⟨congrArg Outcome.out ho, .inl (congrArg Outcome.ending ho)⟩
        · exact .inl rfl
        · obtain ⟨hwords, _⟩ := mem_parseAll (parse_reads hparse)
          obtain ⟨s, _, hs⟩ := hwords _ hmem
          rw [Scan.parse_unnamed ht] at hs
          cases hs
  · cases hvars : env.withFile file with
    | error u =>
        have ho : o = ⟨.crash (.unsettable u), [], [], []⟩ := run_unsettable hvars opener words
        exact .inr (.inl (by rw [ho]; exact ⟨nofun, rfl⟩))
    | ok vars =>
        rcases hparse : parse words with e | _ | a
        · have ho := run_unparsed hvars hparse opener
          exact .inr (.inl (by rw [show o = _ from ho]; exact ⟨by simp, rfl⟩))
        · exact .inl rfl
        · have ho : o = printReceipt opener vars a := run_receipt hvars hparse opener
          rw [ho]
          rcases printReceipt_cases opener vars a with ⟨s, table, c, r, t, hdone⟩ | hnone
          · obtain ⟨hexit, hout⟩ := hdone.outcome
            rw [hout]
            exact .inr (.inr ⟨vars, a, s, table, c, r, rfl, rfl, hdone, hexit,
              hdone.nameless_iff hparse⟩)
          · exact .inr (.inl hnone)

def colonWords : List Text := ["tea", ":3"].map String.toList

theorem nameless_lines_colon :
    ':' ∉ "3".toList ∧ ':' :: "3".toList ∈ scanWords colonWords ∧
      Scan.parse (':' :: "3".toList) = .error ⟨':' :: "3".toList, .missingName⟩ ∧
      (run (fun _ => .error .notFound) [] [] colonWords).out = [] := by
  have hcolon : ':' ∉ "3".toList := by decide
  have hmem : ':' :: "3".toList ∈ scanWords colonWords := by decide +kernel
  obtain ⟨hunnamed, _, hrefused, _⟩ :=
    nameless_lines (fun _ => .error .notFound) [] [] colonWords
  refine ⟨hcolon, hmem, hunnamed "3" hcolon, ?_⟩
  rcases hrefused "3" hcolon hmem with hhelp | ⟨hout, _⟩
  · exact absurd hhelp (by decide +kernel)
  · exact hout

/-- The empty word is taken for a scan, and bills an item without a name. -/
theorem empty_word_billed :
    let o := run (fun _ => .error .notFound) [] [] [[]]
    scanWords [[]] = [[]] ∧ Scan.parse [] = .ok ⟨[], 1⟩ ∧
      o = ⟨.exit 0, Text.ofLines [" - 1 - €0.00", "TOTAL PRICE: €0.00"], [], []⟩ := by
  refine ⟨rfl, rfl, ?_⟩
  decide +kernel

end Checkout.CommandLine
