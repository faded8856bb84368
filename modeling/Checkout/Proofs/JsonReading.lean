import Checkout.Json
import Checkout.Proofs.Amount
import Mathlib.Tactic.IntervalCases

namespace Checkout.Json

/-- How far a letter within quotes has been read: not at all, up to its backslash, or up to some
of the digits of its code. -/
inductive Letter
  | begins
  | escaped
  | code (owed value : Nat)
  deriving DecidableEq, Repr

def escapes : List (Char × Char) :=
  [('"', '"'), ('\\', '\\'), ('/', '/'), ('b', '\x08'), ('f', '\x0C'), ('n', '\n'), ('r', '\r'),
    ('t', '\t')]

def hexDigit? (c : Char) : Option Nat :=
  if c.isDigit then some (c.toNat - '0'.toNat)
  else if 'a' ≤ c ∧ c ≤ 'f' then some (c.toNat - 'a'.toNat + 10)
  else if 'A' ≤ c ∧ c ≤ 'F' then some (c.toNat - 'A'.toNat + 10)
  else none

def Letter.step : Letter → Char → Option (Letter × Option Char)
  | .begins, c =>
      if c = '\\' then some (.escaped, none)
      else if c.toNat < 0x20 then none
      else some (.begins, some c)
  | .escaped, c =>
      if c = 'u' then some (.code 4 0, none)
      else (escapes.lookup c).map fun d => (.begins, some d)
  | .code owed value, c =>
      (hexDigit? c).bind fun d =>
        if 1 < owed then some (.code (owed - 1) (16 * value + d), none)
        else if (16 * value + d).isValidChar then
          some (.begins, some (Char.ofNat (16 * value + d)))
        else none

def isSpace (c : Char) : Bool := c = ' ' || c = '\n' || c = '\r' || c = '\t'

def isNatural (t : Text) : Bool :=
  t == ['0'] || (t.all Char.isDigit && (t.head?).any (· != '0'))

def isInteger : Text → Bool
  | '-' :: t => isNatural t
  | t => isNatural t

def ofWord? (t : Text) : Option Json :=
  if t = "true" then some (.flag true)
  else if t = "false" then some (.flag false)
  else if isInteger t then some (.number t)
  else none

/-- An array or object that is open, its parts latest first. -/
inductive Frame
  | array (elements : List Json)
  | object (members : List (Text × Json))
  | member (members : List (Text × Json)) (name : Text)

inductive Mode
  | value
  | name
  | colon
  | text (isName : Bool) (l : Letter) (read : Text)
  | word (read : Text)
  | ended (j : Json)
  | failed

structure Reader where
  mode : Mode
  stack : List Frame

namespace Reader

def failed : Reader := ⟨.failed, []⟩

def begin (stack : List Frame) (c : Char) : Reader :=
  if isSpace c then ⟨.value, stack⟩
  else if c = '"' then ⟨.text false .begins [], stack⟩
  else if c = '[' then ⟨.value, .array [] :: stack⟩
  else if c = '\x7b' then ⟨.name, .object [] :: stack⟩
  else if c = ']' then
    match stack with
    | .array [] :: stack => ⟨.ended (.array []), stack⟩
    | _ => failed
  else ⟨.word [c], stack⟩

def beginName (stack : List Frame) (c : Char) : Reader :=
  if isSpace c then ⟨.name, stack⟩
  else if c = '"' then ⟨.text true .begins [], stack⟩
  else if c = '\x7d' then
    match stack with
    | .object [] :: stack => ⟨.ended (.object []), stack⟩
    | _ => failed
  else failed

def awaitColon (stack : List Frame) (c : Char) : Reader :=
  if isSpace c then ⟨.colon, stack⟩ else if c = ':' then ⟨.value, stack⟩ else failed

def endText (isName : Bool) (t : Text) (stack : List Frame) : Reader :=
  if isName then
    match stack with
    | .object members :: stack => ⟨.colon, .member members t :: stack⟩
    | _ => failed
  else ⟨.ended (.text t), stack⟩

def readText (isName : Bool) (l : Letter) (read : Text) (stack : List Frame) (c : Char) : Reader :=
  if l = .begins ∧ c = '"' then endText isName read.reverse stack
  else
    match l.step c with
    | none => failed
    | some (l, none) => ⟨.text isName l read, stack⟩
    | some (l, some d) => ⟨.text isName l (d :: read), stack⟩

def goOn (j : Json) (stack : List Frame) (c : Char) : Reader :=
  if isSpace c then ⟨.ended j, stack⟩
  else
    match stack with
    | .array elements :: stack =>
        if c = ',' then ⟨.value, .array (j :: elements) :: stack⟩
        else if c = ']' then ⟨.ended (.array (j :: elements).reverse), stack⟩
        else failed
    | .member members name :: stack =>
        if c = ',' then ⟨.name, .object ((name, j) :: members) :: stack⟩
        else if c = '\x7d' then ⟨.ended (.object ((name, j) :: members).reverse), stack⟩
        else failed
    | _ => failed

def endsWord (c : Char) : Bool := isSpace c || c = ',' || c = ']' || c = '\x7d'

def readWord (read : Text) (stack : List Frame) (c : Char) : Reader :=
  if endsWord c then
    match ofWord? read.reverse with
    | some j => goOn j stack c
    | none => failed
  else ⟨.word (c :: read), stack⟩

def feed (r : Reader) (c : Char) : Reader :=
  match r.mode with
  | .value => begin r.stack c
  | .name => beginName r.stack c
  | .colon => awaitColon r.stack c
  | .text isName l read => readText isName l read r.stack c
  | .word read => readWord read r.stack c
  | .ended j => goOn j r.stack c
  | .failed => failed

def finish (r : Reader) : Option Json :=
  match r.mode, r.stack with
  | .ended j, [] => some j
  | .word read, [] => ofWord? read.reverse
  | _, _ => none

end Reader

def read? (t : Text) : Option Json := (t.foldl Reader.feed ⟨.value, []⟩).finish

inductive Proper : Json → Prop
  | text (t : Text) : Proper (.text t)
  | number {numeral : Text} (h : isInteger numeral = true) : Proper (.number numeral)
  | flag (b : Bool) : Proper (.flag b)
  | array {elements : List Json} (h : ∀ j ∈ elements, Proper j) : Proper (.array elements)
  | object {members : List (Text × Json)} (h : ∀ m ∈ members, Proper m.2) :
      Proper (.object members)

namespace Reader

/-- The reader is at the end of a value. A word ends only with the character after it. -/
def Ends (j : Json) (stack : List Frame) (r : Reader) : Prop :=
  r = ⟨.ended j, stack⟩ ∨ ∃ read, r = ⟨.word read, stack⟩ ∧ ofWord? read.reverse = some j

section

variable {j : Json} {stack : List Frame} {r : Reader} {isName : Bool} {read : Text}

theorem Ends.feed (h : r.Ends j stack) {c : Char} (hc : endsWord c = true) :
    r.feed c = goOn j stack c := by
  rcases h with rfl | ⟨read, rfl, hword⟩
  · rfl
  · rw [Reader.feed]
    simp only [readWord, if_pos hc, hword]

theorem Ends.finish (h : r.Ends j []) : r.finish = some j := by
  rcases h with rfl | ⟨read, rfl, hword⟩
  · rfl
  · exact hword

theorem foldl_feed_spaces {t : Text} (ht : ∀ c ∈ t, isSpace c = true)
    (hr : ∀ c, isSpace c = true → r.feed c = r) : t.foldl feed r = r := by
  induction t with
  | nil => rfl
  | cons c t ih =>
      obtain ⟨hc, ht⟩ := List.forall_mem_cons.mp ht
      rw [List.foldl_cons, hr c hc, ih ht]

theorem isSpace_of_mem_newline {depth : Nat} {c : Char} (h : c ∈ newline depth) :
    isSpace c = true := by
  rcases List.mem_cons.mp h with rfl | h
  · rfl
  · rw [List.eq_of_mem_replicate h]
    rfl

theorem foldl_feed_newline_value (depth : Nat) :
    (newline depth).foldl feed ⟨.value, stack⟩ = ⟨.value, stack⟩ :=
  foldl_feed_spaces (fun _ => isSpace_of_mem_newline) fun _ hc => if_pos hc

theorem foldl_feed_newline_name (depth : Nat) :
    (newline depth).foldl feed ⟨.name, stack⟩ = ⟨.name, stack⟩ :=
  foldl_feed_spaces (fun _ => isSpace_of_mem_newline) fun _ hc => if_pos hc

theorem Ends.foldl_feed_newline (h : r.Ends j stack) (depth : Nat) :
    (newline depth).foldl Reader.feed r = ⟨.ended j, stack⟩ := by
  have hfirst : r.feed '\n' = ⟨.ended j, stack⟩ := h.feed rfl
  rw [newline, List.foldl_cons, hfirst]
  refine foldl_feed_spaces (fun c hc => ?_) fun _ hc => if_pos hc
  rw [List.eq_of_mem_replicate hc]
  rfl

theorem foldl_feed_code {n : Nat} (h : n < 0x20) :
    ("\\u".toList ++ Text.hex 4 n).foldl feed ⟨.text isName .begins read, stack⟩ =
      ⟨.text isName .begins (Char.ofNat n :: read), stack⟩ := by
  interval_cases n <;> rfl

theorem foldl_feed_escapeChar (c : Char) :
    (escapeChar c).foldl feed ⟨.text isName .begins read, stack⟩ =
      ⟨.text isName .begins (c :: read), stack⟩ := by
  rw [escapeChar]
  by_cases hquote : c = '"' ∨ c = '\\'
  · rw [if_pos hquote]
    rcases hquote with rfl | rfl <;> rfl
  rw [if_neg hquote]
  by_cases hn : c = '\n'
  · rw [if_pos hn, hn]
    rfl
  by_cases hr : c = '\r'
  · rw [if_neg hn, if_pos hr, hr]
    rfl
  by_cases ht : c = '\t'
  · rw [if_neg hn, if_neg hr, if_pos ht, ht]
    rfl
  by_cases hb : c = '\x08'
  · rw [if_neg hn, if_neg hr, if_neg ht, if_pos hb, hb]
    rfl
  by_cases hf : c = '\x0C'
  · rw [if_neg hn, if_neg hr, if_neg ht, if_neg hb, if_pos hf, hf]
    rfl
  rw [if_neg hn, if_neg hr, if_neg ht, if_neg hb, if_neg hf]
  by_cases hcode : c.toNat < 0x20
  · rw [if_pos hcode, foldl_feed_code hcode, Char.ofNat_toNat]
  · rw [not_or] at hquote
    rw [if_neg hcode, List.foldl_cons, List.foldl_nil]
    simp only [feed, readText, Letter.step, hquote, hcode, and_false, if_false]

theorem foldl_feed_letters (t : Text) :
    (t.flatMap escapeChar).foldl feed ⟨.text isName .begins read, stack⟩ =
      ⟨.text isName .begins (t.reverse ++ read), stack⟩ := by
  induction t generalizing read with
  | nil => rfl
  | cons c t ih =>
      rw [List.flatMap_cons, List.foldl_append, foldl_feed_escapeChar, ih, List.reverse_cons,
        List.append_assoc, List.singleton_append]

theorem foldl_feed_quote (t : Text) (hopen : r.feed '"' = ⟨.text isName .begins [], stack⟩) :
    (quote t).foldl feed r = endText isName t stack := by
  rw [quote, List.foldl_cons, hopen, List.foldl_append, foldl_feed_letters, List.append_nil,
    List.foldl_cons, List.foldl_nil]
  change endText isName t.reverse.reverse stack = _
  rw [List.reverse_reverse]

theorem foldl_feed_word {t : Text} (ht : ∀ c ∈ t, endsWord c = false) :
    t.foldl feed ⟨.word read, stack⟩ = ⟨.word (t.reverse ++ read), stack⟩ := by
  induction t generalizing read with
  | nil => rfl
  | cons c t ih =>
      obtain ⟨hc, ht⟩ := List.forall_mem_cons.mp ht
      have hstep : feed ⟨.word read, stack⟩ c = ⟨.word (c :: read), stack⟩ := by
        simp only [feed, readWord, hc, Bool.false_eq_true, if_false]
      rw [List.foldl_cons, hstep, ih ht, List.reverse_cons, List.append_assoc,
        List.singleton_append]

end

end Reader

theorem isNatural_digits {t : Text} (h : isNatural t = true) : t ≠ [] ∧ ∀ c ∈ t, c.isDigit := by
  rw [isNatural, Bool.or_eq_true, beq_iff_eq, Bool.and_eq_true, List.all_eq_true] at h
  rcases h with rfl | ⟨hall, hhead⟩
  · exact ⟨List.cons_ne_nil _ _, List.all_eq_true.mp rfl⟩
  · refine ⟨?_, hall⟩
    rintro rfl
    cases hhead

/-- What a numeral of an integer is made of neither ends a word nor begins another value. -/
theorem isInteger_chars {t : Text} (h : isInteger t = true) :
    t ≠ [] ∧ ∀ c ∈ t, c = '-' ∨ c.isDigit := by
  unfold isInteger at h
  split at h
  · rename_i t
    refine ⟨List.cons_ne_nil _ _, fun c hc => ?_⟩
    rcases List.mem_cons.mp hc with rfl | hc
    · exact .inl rfl
    · exact .inr ((isNatural_digits h).2 c hc)
  · exact ⟨(isNatural_digits h).1, fun c hc => .inr ((isNatural_digits h).2 c hc)⟩

theorem natural_head {n : Nat} (h : 0 < n) : ∃ c t, Numeral.natural n = c :: t ∧ c ≠ '0' := by
  induction n using Nat.strongRecOn with
  | _ n ih =>
      rw [Numeral.natural]
      rcases Nat.lt_or_ge n 10 with hlt | hge
      · rw [Nat.toDigits_of_lt_base hlt]
        refine ⟨n.digitChar, [], rfl, ?_⟩
        interval_cases n <;> decide
      · obtain ⟨c, t, ht, hc⟩ := ih (n / 10) (by omega) (by omega)
        rw [Numeral.natural] at ht
        rw [Nat.toDigits_of_base_le (by decide) hge, ht]
        exact ⟨c, _, rfl, hc⟩

theorem isNatural_natural (n : Nat) : isNatural (Numeral.natural n) = true := by
  rcases Nat.eq_zero_or_pos n with rfl | hn
  · rfl
  · obtain ⟨c, t, ht, hc⟩ := natural_head hn
    have hall : (Numeral.natural n).all Char.isDigit = true :=
      List.all_eq_true.mpr fun _ => Numeral.natural_digit
    have hhead : ((Numeral.natural n).head?).any (· != '0') = true := by
      rw [ht]
      exact bne_iff_ne.mpr hc
    rw [isNatural, hall, hhead, Bool.and_true, Bool.or_true]

theorem isInteger_text (n : Int) : isInteger (Numeral.text n) = true := by
  rw [Numeral.text]
  split
  · exact isNatural_natural _
  · have hnatural := isNatural_natural n.natAbs
    unfold isInteger
    split
    · rename_i t ht
      have hminus := (isNatural_digits hnatural).2 '-' (ht ▸ List.mem_cons_self)
      cases hminus
    · exact hnatural

theorem ofWord?_of_isInteger {t : Text} (h : isInteger t = true) :
    ofWord? t = some (.number t) := by
  have htrue : t ≠ "true" := by
    rintro rfl
    cases h
  have hfalse : t ≠ "false" := by
    rintro rfl
    cases h
  rw [ofWord?, if_neg htrue, if_neg hfalse, if_pos h]

theorem begin_of_digit {c : Char} (h : c = '-' ∨ c.isDigit) (stack : List Frame) :
    Reader.begin stack c = ⟨.word [c], stack⟩ ∧ Reader.endsWord c = false := by
  have hcode : c.toNat = 0x2D ∨ 0x30 ≤ c.toNat ∧ c.toNat ≤ 0x39 := by
    rcases h with rfl | h
    · exact .inl rfl
    · rw [Char.isDigit, Bool.and_eq_true, decide_eq_true_eq, decide_eq_true_eq] at h
      exact .inr h
  have hne (d : Char) (hd : d.toNat ≠ 0x2D ∧ (d.toNat < 0x30 ∨ 0x39 < d.toNat)) : c ≠ d := by
    rintro rfl
    omega
  have hspace : isSpace c = false := by
    simp [isSpace, hne ' ' (by decide), hne '\n' (by decide), hne '\r' (by decide),
      hne '\t' (by decide)]
  constructor
  · unfold Reader.begin
    rw [if_neg (by simp [hspace]), if_neg (hne _ (by decide)),
      if_neg (hne _ (by decide)), if_neg (hne _ (by decide)), if_neg (hne _ (by decide))]
  · simp [Reader.endsWord, hspace, hne ',' (by decide), hne ']' (by decide),
      hne '\x7d' (by decide)]

namespace Reader

variable {stack : List Frame}

theorem ends_number {numeral : Text} (h : isInteger numeral = true) :
    Ends (.number numeral) stack (numeral.foldl feed ⟨.value, stack⟩) := by
  obtain ⟨hne, hchars⟩ := isInteger_chars h
  obtain ⟨c, t, rfl⟩ := List.exists_cons_of_ne_nil hne
  obtain ⟨hc, ht⟩ := List.forall_mem_cons.mp hchars
  have hfirst : feed ⟨.value, stack⟩ c = ⟨.word [c], stack⟩ := (begin_of_digit hc stack).1
  refine .inr ⟨t.reverse ++ [c], ?_, ?_⟩
  · rw [List.foldl_cons, hfirst, foldl_feed_word fun d hd => (begin_of_digit (ht d hd) stack).2]
  · rw [List.reverse_append, List.reverse_reverse]
    exact ofWord?_of_isInteger h

def ReadsBack (j : Json) : Prop :=
  ∀ depth stack, Ends j stack ((render depth j).foldl feed ⟨.value, stack⟩)

/-- How the reader goes through the parts of an array or object: `start` is where it stands before
a part, with those before it latest first, and `inner` is what is open at the end of one. -/
structure Parts (α : Type) where
  text : α → Text
  value : α → Json
  start : List α → Reader
  inner : List α → α → List Frame
  comma : ∀ before a, goOn (value a) (inner before a) ',' = start (a :: before)
  space : ∀ before n, (newline n).foldl feed (start before) = start before

theorem Parts.foldl_feed_joined {α : Type} (P : Parts α) {a : α} {more : List α} (depth : Nat)
    (h : ∀ b ∈ a :: more, ∀ before, Ends (P.value b) (P.inner before b)
      ((P.text b).foldl feed (P.start before))) (before : List α) :
    ∃ last others, (last :: others).reverse = before.reverse ++ a :: more ∧
      Ends (P.value last) (P.inner others last)
        ((Text.joined (',' :: newline depth) ((a :: more).map P.text)).foldl feed
          (P.start before)) := by
  induction more generalizing a before with
  | nil =>
      refine ⟨a, before, List.reverse_cons, ?_⟩
      rw [List.map_singleton, Text.joined, List.intercalate_singleton]
      exact h a List.mem_cons_self before
  | cons b more ih =>
      obtain ⟨ha, hmore⟩ := List.forall_mem_cons.mp h
      obtain ⟨last, others, hothers, hends⟩ := ih hmore (a :: before)
      refine ⟨last, others, ?_, ?_⟩
      · rw [hothers, List.reverse_cons, List.append_assoc, List.singleton_append]
      · rw [List.map_cons, List.map_cons, Text.joined, List.intercalate_cons_cons,
          List.foldl_append, List.foldl_append, List.foldl_cons, (ha before).feed rfl, P.comma,
          P.space]
        rw [List.map_cons, Text.joined] at hends
        exact hends

/-- What stands between brackets is read up to its last part, and the closing bracket makes one
value of all of them. -/
theorem Parts.foldl_feed_block {α : Type} (P : Parts α) {opening closing : Char}
    {whole : List α → Json} {as : List α} (depth : Nat) (hne : as ≠ [])
    (hopen : feed ⟨.value, stack⟩ opening = P.start [])
    (h : ∀ a ∈ as, ∀ before, Ends (P.value a) (P.inner before a)
      ((P.text a).foldl feed (P.start before)))
    (hclose : ∀ last others, goOn (P.value last) (P.inner others last) closing =
      ⟨.ended (whole (last :: others).reverse), stack⟩) :
    (block opening closing depth (as.map P.text)).foldl feed ⟨.value, stack⟩ =
      ⟨.ended (whole as), stack⟩ := by
  obtain ⟨a, more, rfl⟩ := List.exists_cons_of_ne_nil hne
  have hblock : block opening closing depth ((a :: more).map P.text) =
      opening :: (newline (depth + 1) ++ (Text.joined (',' :: newline (depth + 1))
        ((a :: more).map P.text) ++ (newline depth ++ [closing]))) := by
    simp [block]
  obtain ⟨last, others, hothers, hends⟩ := P.foldl_feed_joined (depth + 1) h []
  rw [List.reverse_nil, List.nil_append] at hothers
  rw [hblock, List.foldl_cons, hopen, List.foldl_append, P.space, List.foldl_append,
    List.foldl_append, hends.foldl_feed_newline depth, ← hothers]
  exact hclose last others

def elementParts (depth : Nat) (stack : List Frame) : Parts Json where
  text := render depth
  value := id
  start elements := ⟨.value, .array elements :: stack⟩
  inner elements _ := .array elements :: stack
  comma _ _ := rfl
  space _ n := foldl_feed_newline_value n

def memberParts (depth : Nat) (stack : List Frame) : Parts (Text × Json) where
  text m := quote m.1 ++ ": ".toList ++ render depth m.2
  value := Prod.snd
  start members := ⟨.name, .object members :: stack⟩
  inner members m := .member members m.1 :: stack
  comma _ _ := rfl
  space _ n := foldl_feed_newline_name n

theorem renderAll_eq_map (depth : Nat) (js : List Json) :
    renderAll depth js = js.map (render depth) := by
  induction js with
  | nil => rfl
  | cons j js ih => rw [renderAll, ih, List.map_cons]

theorem renderMembers_eq_map (stack : List Frame) (depth : Nat) (ms : List (Text × Json)) :
    renderMembers depth ms = ms.map (memberParts depth stack).text := by
  induction ms with
  | nil => rfl
  | cons m ms ih =>
      rw [renderMembers, ih, List.map_cons]
      rfl

theorem foldl_feed_member {name : Text} {j : Json} (hj : ReadsBack j) (depth : Nat)
    (members : List (Text × Json)) :
    Ends j (.member members name :: stack)
      ((quote name ++ ": ".toList ++ render depth j).foldl feed
        ⟨.name, .object members :: stack⟩) := by
  have hname : (quote name).foldl feed ⟨.name, .object members :: stack⟩ =
      endText true name (.object members :: stack) := foldl_feed_quote name rfl
  rw [List.foldl_append, List.foldl_append, hname]
  exact hj depth _

/-- A value is read back however deep it stands and whatever is still open around it. -/
theorem readsBack {j : Json} (h : j.Proper) : ReadsBack j := by
  -- The depth and what is open stay general: the parts of a value stand one deeper, within it.
  induction h with
  | text t =>
      intro depth stack
      have hquote : (quote t).foldl feed ⟨.value, stack⟩ = endText false t stack :=
        foldl_feed_quote t rfl
      exact .inl hquote
  | number h => exact fun _ _ => ends_number h
  | flag b =>
      intro depth stack
      cases b
      · exact .inr ⟨"false".toList.reverse, rfl, rfl⟩
      · exact .inr ⟨"true".toList.reverse, rfl, rfl⟩
  | @array elements _ ih =>
      intro depth stack
      refine .inl ?_
      rw [render, renderAll_eq_map]
      by_cases hne : elements = []
      · rw [hne]
        rfl
      · exact (elementParts (depth + 1) stack).foldl_feed_block depth hne rfl
          (fun j hj before => ih j hj (depth + 1) _) fun _ _ => rfl
  | @object members _ ih =>
      intro depth stack
      refine .inl ?_
      rw [render, renderMembers_eq_map stack]
      by_cases hne : members = []
      · rw [hne]
        rfl
      · exact (memberParts (depth + 1) stack).foldl_feed_block depth hne rfl
          (fun m hm before => foldl_feed_member (ih m hm) (depth + 1) before) fun _ _ => rfl

end Reader

theorem read?_render {j : Json} (h : j.Proper) {back : Text}
    (hback : ∀ c ∈ back, isSpace c = true) : read? (render 0 j ++ back) = some j := by
  have hends := Reader.readsBack h 0 []
  rw [read?, List.foldl_append]
  cases back with
  | nil => exact hends.finish
  | cons c back =>
      obtain ⟨hc, hback⟩ := List.forall_mem_cons.mp hback
      have hword : Reader.endsWord c = true := by rw [Reader.endsWord, hc]; rfl
      have hstay (c : Char) (hc : isSpace c = true) :
          Reader.feed ⟨.ended j, []⟩ c = ⟨.ended j, []⟩ := if_pos hc
      have hfirst : Reader.goOn j [] c = ⟨.ended j, []⟩ := hstay c hc
      rw [List.foldl_cons, hends.feed hword, hfirst, Reader.foldl_feed_spaces hback hstay]
      rfl

end Checkout.Json
