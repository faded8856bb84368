import Checkout.Text.Utf8

namespace Checkout.Text.Utf8

def encode (t : Text) : List UInt8 := t.flatMap String.utf8EncodeChar

theorem encode_cons (c : Char) (t : Text) : encode (c :: t) = String.utf8EncodeChar c ++ encode t :=
  List.flatMap_cons

inductive Completes : State → List UInt8 → Char → Prop
  | last {s : State} {b : UInt8} {c : Char} (h : step s b = some (.start, some c)) :
      Completes s [b] c
  | more {s s' : State} {b : UInt8} {bs : List UInt8} {c : Char} (h : step s b = some (s', none))
      (hrest : Completes s' bs c) : Completes s (b :: bs) c

theorem completes_cons (s : State) (b : UInt8) (bs : List UInt8) (c : Char) :
    Completes s (b :: bs) c ↔ (bs = [] ∧ step s b = some (.start, some c)) ∨
      ∃ s', step s b = some (s', none) ∧ Completes s' bs c := by
  constructor
  · intro h
    cases h with
    | last h => exact .inl ⟨rfl, h⟩
    | more h hrest => exact .inr ⟨_, h, hrest⟩
  · rintro (⟨rfl, h⟩ | ⟨s', h, hrest⟩)
    · exact .last h
    · exact .more h hrest

theorem not_completes_nil (s : State) (c : Char) : ¬ Completes s [] c := nofun

section

variable (low high bits : Nat) (w : List UInt8) (c : Char)

theorem completes_owed (bytes : Nat) :
    Completes (.owed bytes low high bits) w c ↔ ∃ x w', (low ≤ x.toNat ∧ x.toNat ≤ high) ∧
      w = x :: w' ∧
      if bytes = 1 then w' = [] ∧ c = Char.ofNat (bits * 64 + (x.toNat - 0x80))
      else if bytes = 2 then Completes (last (bits * 64 + (x.toNat - 0x80))) w' c
      else Completes (.owed (bytes - 1) 0x80 0xBF (bits * 64 + (x.toNat - 0x80))) w' c := by
  cases w with
  | nil => simp [not_completes_nil]
  | cons b bs =>
      rw [completes_cons]
      by_cases h : low ≤ b.toNat ∧ b.toNat ≤ high
      · simp only [step, if_pos h]
        grind
      · simp only [step, if_neg h]
        grind

theorem completes_owed_one :
    Completes (.owed 1 low high bits) w c ↔ ∃ x : UInt8, (low ≤ x.toNat ∧ x.toNat ≤ high) ∧
      w = [x] ∧ c = Char.ofNat (bits * 64 + (x.toNat - 0x80)) := by
  rw [completes_owed]
  constructor
  · rintro ⟨x, w', hx, hw, hnil, hc⟩
    exact ⟨x, hx, hnil ▸ hw, hc⟩
  · rintro ⟨x, hx, hw, hc⟩
    exact ⟨x, [], hx, hw, rfl, hc⟩

theorem completes_owed_two :
    Completes (.owed 2 low high bits) w c ↔ ∃ x w', (low ≤ x.toNat ∧ x.toNat ≤ high) ∧
      w = x :: w' ∧ Completes (last (bits * 64 + (x.toNat - 0x80))) w' c :=
  completes_owed low high bits w c 2

theorem completes_owed_three :
    Completes (.owed 3 low high bits) w c ↔ ∃ x w', (low ≤ x.toNat ∧ x.toNat ≤ high) ∧
      w = x :: w' ∧ Completes (.owed 2 0x80 0xBF (bits * 64 + (x.toNat - 0x80))) w' c :=
  completes_owed low high bits w c 3

theorem completes_start :
    Completes .start w c ↔ (∃ x : UInt8, x.toNat < 0x80 ∧ w = [x] ∧ c = Char.ofNat x.toNat) ∨
      ∃ x w' s, 0x80 ≤ x.toNat ∧ lead x.toNat = some s ∧ w = x :: w' ∧ Completes s w' c := by
  cases w with
  | nil => simp [not_completes_nil]
  | cons b bs =>
      rw [completes_cons]
      by_cases h : b.toNat < 0x80
      · simp only [step, if_pos h]
        grind
      · simp only [step, if_neg h, Option.map_eq_some_iff]
        grind

end

theorem lead_eq_some (b : Nat) (s : State) :
    lead b = some s ↔
      ((0xC2 ≤ b ∧ b < 0xE0) ∧ s = .owed 1 0x80 0xBF (b - 0xC0)) ∨
      ((0xE0 ≤ b ∧ b < 0xF0) ∧ s = .owed 2 (if b = 0xE0 then 0xA0 else 0x80) 0xBF (b - 0xE0)) ∨
      ((0xF0 ≤ b ∧ b ≤ 0xF4) ∧ s = .owed 3 (if b = 0xF0 then 0x90 else 0x80)
        (if b = 0xF4 then 0x8F else 0xBF) (b - 0xF0)) := by
  simp only [lead]
  grind

theorem val_ofNat {n : Nat} (h : n.isValidChar) : (Char.ofNat n).val.toNat = n := by
  rw [Char.ofNat, dif_pos h]
  rfl

def Tail (b : UInt8) : Prop := 0x80 ≤ b.toNat ∧ b.toNat ≤ 0xBF

/-- The well-formed sequences of bytes, and the characters they stand for. A second byte is shut
out where it would make an overlong form, a surrogate or a number beyond the last code point. -/
inductive Spells : List UInt8 → Char → Prop
  | one {a : UInt8} {c : Char} (ha : a.toNat < 0x80) (hc : c.val.toNat = a.toNat) : Spells [a] c
  | two {a x : UInt8} {c : Char} (ha : 0xC2 ≤ a.toNat ∧ a.toNat < 0xE0) (hx : Tail x)
      (hc : c.val.toNat = (a.toNat - 0xC0) * 64 + (x.toNat - 0x80)) : Spells [a, x] c
  | three {a x y : UInt8} {c : Char} (ha : 0xE0 ≤ a.toNat ∧ a.toNat < 0xF0) (hx : Tail x)
      (hlong : a.toNat = 0xE0 → 0xA0 ≤ x.toNat) (hsurrogate : a.toNat = 0xED → x.toNat < 0xA0)
      (hy : Tail y) (hc : c.val.toNat =
        ((a.toNat - 0xE0) * 64 + (x.toNat - 0x80)) * 64 + (y.toNat - 0x80)) : Spells [a, x, y] c
  | four {a x y z : UInt8} {c : Char} (ha : 0xF0 ≤ a.toNat ∧ a.toNat ≤ 0xF4) (hx : Tail x)
      (hlong : a.toNat = 0xF0 → 0x90 ≤ x.toNat) (hbeyond : a.toNat = 0xF4 → x.toNat < 0x90)
      (hy : Tail y) (hz : Tail z) (hc : c.val.toNat =
        (((a.toNat - 0xF0) * 64 + (x.toNat - 0x80)) * 64 + (y.toNat - 0x80)) * 64 +
          (z.toNat - 0x80)) : Spells [a, x, y, z] c

theorem Spells.eq_encodeChar {w : List UInt8} {c : Char} (h : Spells w c) :
    w = String.utf8EncodeChar c := by
  cases h with
  | one ha hc =>
      simp only [String.utf8EncodeChar, hc]
      rw [if_pos (by omega), UInt8.ofNat_toNat]
  | two ha hx hc =>
      rw [Tail] at hx
      simp only [String.utf8EncodeChar, hc]
      rw [if_neg (by omega), if_pos (by omega)]
      simp only [List.cons.injEq, and_true, ← UInt8.toNat_inj, UInt8.toNat_ofNat']
      omega
  | three ha hx hlong _ hy hc =>
      rw [Tail] at hx hy
      simp only [String.utf8EncodeChar, hc]
      rw [if_neg (by omega), if_neg (by omega), if_pos (by omega)]
      simp only [List.cons.injEq, and_true, ← UInt8.toNat_inj, UInt8.toNat_ofNat']
      omega
  | four ha hx hlong _ hy hz hc =>
      rw [Tail] at hx hy hz
      simp only [String.utf8EncodeChar, hc]
      rw [if_neg (by omega), if_neg (by omega), if_neg (by omega)]
      simp only [List.cons.injEq, and_true, ← UInt8.toNat_inj, UInt8.toNat_ofNat']
      omega

theorem spells_encodeChar (c : Char) : Spells (String.utf8EncodeChar c) c := by
  have hvalid : c.val.toNat.isValidChar := c.valid
  simp only [String.utf8EncodeChar]
  split
  · apply Spells.one <;> rw [UInt8.toNat_ofNat'] <;> omega
  split
  · apply Spells.two <;> simp only [Tail, UInt8.toNat_ofNat'] <;> omega
  split
  · apply Spells.three <;> simp only [Tail, UInt8.toNat_ofNat'] <;> omega
  · apply Spells.four <;> simp only [Tail, UInt8.toNat_ofNat'] <;> omega

theorem completes_last (bits : Nat) (w : List UInt8) (c : Char) :
    Completes (last bits) w c ↔ ¬ (0xD800 / 64 ≤ bits ∧ bits ≤ 0xDFFF / 64) ∧
      Completes (.owed 1 0x80 0xBF bits) w c := by
  -- For the bits of a surrogate the state asks for a byte in an empty range.
  rw [last]
  by_cases h : 0xD800 / 64 ≤ bits ∧ bits ≤ 0xDFFF / 64
  · rw [if_pos h, completes_owed_one]
    constructor
    · rintro ⟨x, hx, _⟩
      omega
    · rintro ⟨hn, _⟩
      exact absurd h hn
  · rw [if_neg h, and_iff_right h]

theorem Completes.spells {w : List UInt8} {c : Char} (h : Completes .start w c) : Spells w c := by
  rw [completes_start] at h
  rcases h with ⟨a, ha, rfl, hc⟩ | ⟨a, w, s, _, hlead, rfl, h⟩
  · exact .one ha (by rw [hc, val_ofNat (by omega)])
  rw [lead_eq_some] at hlead
  rcases hlead with ⟨ha, rfl⟩ | ⟨ha, rfl⟩ | ⟨ha, rfl⟩
  · rw [completes_owed_one] at h
    obtain ⟨x, hx, rfl, hc⟩ := h
    exact .two ha hx (by rw [hc, val_ofNat (by omega)])
  · rw [completes_owed_two] at h
    obtain ⟨x, w, hx, rfl, h⟩ := h
    rw [completes_last, completes_owed_one] at h
    obtain ⟨hs, y, hy, rfl, hc⟩ := h
    have hlow : a.toNat = 0xE0 → 0xA0 ≤ x.toNat := fun h => by simpa [h] using hx.1
    have htail : Tail x := by
      rw [Tail]
      grind
    rw [Tail] at htail
    refine .three ha htail hlow ?_ hy ?_
    · omega
    · rw [hc, val_ofNat (by omega)]
  · rw [completes_owed_three] at h
    obtain ⟨x, w, hx, rfl, h⟩ := h
    rw [completes_owed_two] at h
    obtain ⟨y, w, hy, rfl, h⟩ := h
    rw [completes_last, completes_owed_one] at h
    obtain ⟨_, z, hz, rfl, hc⟩ := h
    have hlow : a.toNat = 0xF0 → 0x90 ≤ x.toNat := fun h => by simpa [h] using hx.1
    have hhigh : a.toNat = 0xF4 → x.toNat < 0x90 := by grind
    have htail : Tail x := by
      rw [Tail]
      grind
    rw [Tail] at htail
    refine .four ha htail hlow hhigh hy hz ?_
    rw [hc, val_ofNat (by omega)]

theorem Spells.completes {w : List UInt8} {c : Char} (h : Spells w c) : Completes .start w c := by
  have hchar : c = Char.ofNat c.val.toNat := (Char.ofNat_toNat c).symm
  have hvalid : c.val.toNat.isValidChar := c.valid
  rw [completes_start]
  cases h with
  | one ha hc => exact .inl ⟨_, ha, rfl, hc ▸ hchar⟩
  | two ha hx hc =>
      refine .inr ⟨_, _, _, by omega, (lead_eq_some _ _).mpr (.inl ⟨ha, rfl⟩), rfl, ?_⟩
      exact (completes_owed_one _ _ _ _ _).mpr ⟨_, hx, rfl, hc ▸ hchar⟩
  | three ha hx hlong hsurrogate hy hc =>
      refine .inr ⟨_, _, _, by omega, (lead_eq_some _ _).mpr (.inr (.inl ⟨ha, rfl⟩)), rfl, ?_⟩
      rw [Tail] at hx
      refine (completes_owed_two _ _ _ _ _).mpr ⟨_, _, by grind, rfl, ?_⟩
      refine (completes_last _ _ _).mpr ⟨by rw [Tail] at hy; omega, ?_⟩
      exact (completes_owed_one _ _ _ _ _).mpr ⟨_, hy, rfl, hc ▸ hchar⟩
  | four ha hx hlong hbeyond hy hz hc =>
      refine .inr ⟨_, _, _, by omega, (lead_eq_some _ _).mpr (.inr (.inr ⟨ha, rfl⟩)), rfl, ?_⟩
      rw [Tail] at hx
      refine (completes_owed_three _ _ _ _ _).mpr ⟨_, _, by grind, rfl, ?_⟩
      refine (completes_owed_two _ _ _ _ _).mpr ⟨_, _, hy, rfl, ?_⟩
      refine (completes_last _ _ _).mpr ⟨by rw [Tail] at hy; grind, ?_⟩
      exact (completes_owed_one _ _ _ _ _).mpr ⟨_, hz, rfl, hc ▸ hchar⟩

/-- The machine gets from one character boundary to the next exactly on the bytes that the
character is written with. -/
theorem completes_iff (w : List UInt8) (c : Char) :
    Completes .start w c ↔ w = String.utf8EncodeChar c := by
  constructor
  · intro h
    exact h.spells.eq_encodeChar
  · rintro rfl
    exact (spells_encodeChar c).completes

theorem step_cases {s s' : State} {b : UInt8} {o : Option Char} (h : step s b = some (s', o)) :
    (s' = .start ∧ ∃ c, o = some c) ∨ (s' ≠ .start ∧ o = none) := by
  cases s with
  | start =>
      rw [step] at h
      split at h
      · cases h
        exact .inl ⟨rfl, _, rfl⟩
      · rw [Option.map_eq_some_iff] at h
        obtain ⟨s, hlead, heq⟩ := h
        cases heq
        rw [lead_eq_some] at hlead
        rcases hlead with ⟨_, rfl⟩ | ⟨_, rfl⟩ | ⟨_, rfl⟩ <;> exact .inr ⟨by simp, rfl⟩
  | owed bytes low high bits =>
      simp only [step, last] at h
      grind

theorem Completes.run {s : State} {w : List UInt8} {c : Char} (h : Completes s w c) (read : Text)
    (bs : List UInt8) : run s read (w ++ bs) = run .start (c :: read) bs := by
  induction h with
  | last h => simp [Utf8.run, h]
  | more h _ ih => simp [Utf8.run, h, ih]

theorem run_encode (t read : Text) (bs : List UInt8) :
    run .start read (encode t ++ bs) = run .start (t.reverse ++ read) bs := by
  induction t generalizing read with
  | nil => rfl
  | cons c t ih =>
      rw [encode_cons, List.append_assoc, ((completes_iff _ c).mpr rfl).run, ih, List.reverse_cons,
        List.append_assoc, List.singleton_append]

theorem run_eq_start {s : State} {read r : Text} {bs : List UInt8}
    (h : run s read bs = some (.start, r)) : (s = .start ∧ bs = [] ∧ r = read) ∨
      ∃ w c t, Completes s w c ∧ bs = w ++ encode t ∧ r = t.reverse ++ c :: read := by
  -- Inside a character the rest of it comes first, so the state is part of what is claimed.
  induction bs generalizing s read with
  | nil =>
      cases h
      exact .inl ⟨rfl, rfl, rfl⟩
  | cons b bs ih =>
      rw [run] at h
      cases hstep : step s b with
      | none =>
          rw [hstep] at h
          cases h
      | some p =>
          obtain ⟨s', o⟩ := p
          rw [hstep] at h
          rcases step_cases hstep with ⟨rfl, c, rfl⟩ | ⟨hs', rfl⟩
          · rcases ih h with ⟨_, rfl, rfl⟩ | ⟨w, d, t, hw, rfl, rfl⟩
            · exact .inr ⟨[b], c, [], .last hstep, rfl, rfl⟩
            · refine .inr ⟨[b], c, d :: t, .last hstep, ?_, by simp⟩
              rw [encode_cons, (completes_iff w d).mp hw, List.singleton_append]
          · rcases ih h with ⟨hs, _⟩ | ⟨w, c, t, hw, rfl, rfl⟩
            · exact absurd hs hs'
            · exact .inr ⟨b :: w, c, t, .more hstep hw, rfl, rfl⟩

theorem run_start (read r : Text) (bs : List UInt8) :
    run .start read bs = some (.start, r) ↔ ∃ t, bs = encode t ∧ r = t.reverse ++ read := by
  constructor
  · intro h
    rcases run_eq_start h with ⟨_, rfl, rfl⟩ | ⟨w, c, t, hw, rfl, rfl⟩
    · exact ⟨[], rfl, rfl⟩
    · refine ⟨c :: t, ?_, by simp⟩
      rw [encode_cons, (completes_iff w c).mp hw]
  · rintro ⟨t, rfl, rfl⟩
    have h := run_encode t read []
    rwa [List.append_nil] at h

theorem run_append (s : State) (read : Text) (bs bs' : List UInt8) :
    run s read (bs ++ bs') = (run s read bs).bind fun p => run p.1 p.2 bs' := by
  induction bs generalizing s read with
  | nil => rfl
  | cons b bs ih =>
      rw [List.cons_append, run, run]
      rcases step s b with _ | ⟨s, _ | c⟩
      · rfl
      · exact ih s read
      · exact ih s (c :: read)

theorem runBlocks_eq_whole (s : State) (read t : Text) (blocks : List (List UInt8)) :
    runBlocks s read blocks = ⟨t, true⟩ ↔ run s read blocks.flatten = some (.start, t.reverse) := by
  induction blocks generalizing s read with
  | nil => simp [runBlocks, run, and_comm, List.reverse_eq_iff]
  | cons block blocks ih =>
      rw [runBlocks, List.flatten_cons, run_append]
      cases run s read block with
      | none => simp
      | some p => simp [ih]

theorem blocks_flatten {size : Nat} (hsize : 0 < size) (bytes : List UInt8) :
    (blocks size bytes).flatten = bytes := by
  -- The first blocks hold a whole number of sizes, which a `take` counts.
  have htake (n : Nat) : ((List.range n).map fun i => (bytes.drop (i * size)).take size).flatten =
      bytes.take (n * size) := by
    induction n with
    | zero => simp
    | succ n ih =>
        rw [List.range_succ, List.map_append, List.flatten_append, ih, Nat.succ_mul, List.take_add]
        simp
  rw [blocks, htake, List.take_of_length_le]
  have := Nat.lt_div_mul_add hsize (a := bytes.length + size - 1)
  omega

def withoutMark : Text → Text
  | '\uFEFF' :: t => t
  | t => t

def IsCutMark (bytes : List UInt8) : Prop := bytes = mark.take 1 ∨ bytes = mark.take 2

def Holds (bytes : List UInt8) (t : Text) : Prop :=
  (∃ u, bytes = encode u ∧ t = withoutMark u) ∨ (IsCutMark bytes ∧ t = [])

theorem IsCutMark.ne_encode {bytes : List UInt8} (h : IsCutMark bytes) (t : Text) :
    bytes ≠ encode t := by
  rintro rfl
  have hrun : run .start [] (encode t) = some (.start, t.reverse) :=
    (run_start [] _ _).mpr ⟨t, rfl, (List.append_nil _).symm⟩
  have hends : (run .start [] (encode t)).map Prod.fst = some .start := by
    rw [hrun, Option.map_some]
  rcases h with h | h
  · rw [h] at hends
    exact absurd hends (by decide)
  · rw [h] at hends
    exact absurd hends (by decide)

theorem read_of_not_cut {bytes : List UInt8} (h : ¬ IsCutMark bytes) :
    Utf8.read bytes = ⟨withoutMark (runBlocks .start [] (blocks blockSize bytes)).text,
      (runBlocks .start [] (blocks blockSize bytes)).whole⟩ := by
  rw [IsCutMark] at h
  rw [Utf8.read, if_neg h]
  rcases runBlocks .start [] (blocks blockSize bytes) with ⟨_ | ⟨c, t⟩, whole⟩
  · rfl
  · by_cases hc : c = '\uFEFF'
    · rw [hc]
      rfl
    · simp [withoutMark, hc]

/-- A file is read to its end exactly where it holds a text, and then that text is what is read. -/
theorem read_eq_whole (bytes : List UInt8) (t : Text) :
    Utf8.read bytes = ⟨t, true⟩ ↔ Holds bytes t := by
  have hwhole (u : Text) : runBlocks .start [] (blocks blockSize bytes) = ⟨u, true⟩ ↔
      bytes = encode u := by
    rw [runBlocks_eq_whole, blocks_flatten (by decide), run_start]
    simp
  rw [Holds]
  by_cases hcut : IsCutMark bytes
  · rw [Utf8.read, if_pos (show bytes = mark.take 1 ∨ bytes = mark.take 2 from hcut)]
    simp [hcut, hcut.ne_encode, eq_comm]
  · rw [read_of_not_cut hcut]
    simp only [← hwhole, hcut, false_and, or_false, Reading.mk.injEq]
    constructor
    · rintro ⟨rfl, h⟩
      exact ⟨_, by rw [← h], rfl⟩
    · rintro ⟨u, h, rfl⟩
      rw [h]
      exact ⟨rfl, rfl⟩

end Checkout.Text.Utf8
