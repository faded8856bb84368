import Checkout.Currency
import Checkout.Proofs.Strip
import Mathlib.Data.List.Nodup

namespace Checkout.Text

/-- A set of numbers, one bit for each: two long lists are compared by a single conjunction. -/
def bits (ns : List Nat) : Nat := ns.foldr (fun n b => 1 <<< n ||| b) 0

theorem testBit_bits (ns : List Nat) (n : Nat) : (bits ns).testBit n = true ↔ n ∈ ns := by
  induction ns with
  | nil => simp [bits]
  | cons m ns ih =>
      rw [bits] at ih
      rw [bits, List.foldr_cons, Nat.testBit_or, Nat.one_shiftLeft, Nat.testBit_two_pow,
        Bool.or_eq_true, ih, decide_eq_true_eq, List.mem_cons, eq_comm]

theorem not_mem_of_bits {ns ms : List Nat} (h : bits ns &&& bits ms = 0) {n : Nat} (hn : n ∈ ns) :
    n ∉ ms := by
  intro hm
  have hand : (bits ns &&& bits ms).testBit n = true := by
    rw [Nat.testBit_and, (testBit_bits ns n).mpr hn, (testBit_bits ms n).mpr hm]
    rfl
  rw [h, Nat.zero_testBit] at hand
  cases hand

def CaseRun.offsets (r : CaseRun) : List Nat :=
  (List.range (r.last + 1 - r.first)).filter (· % r.step == 0)

def CaseRun.letters (r : CaseRun) : List (Nat × List Nat) :=
  r.offsets.map fun i => (r.first + i, [r.other + i])

def letters (sequences : List (Nat × List Nat)) (runs : List CaseRun) : List (Nat × List Nat) :=
  sequences ++ runs.flatMap CaseRun.letters

theorem recase_cases (sequences : List (Nat × List Nat)) (runs : List CaseRun) (c : Char) :
    (c.toNat ∉ (letters sequences runs).map (·.1) ∧ recase sequences runs c = [c]) ∨
      ∃ s, (c.toNat, s) ∈ letters sequences runs ∧ recase sequences runs c = s.map Char.ofNat := by
  rw [recase]
  cases hs : sequences.lookup c.toNat with
  | some s =>
      obtain ⟨before, after, heq, _⟩ := List.lookup_eq_some_iff.mp hs
      exact .inr ⟨s, List.mem_append_left _ (by simp [heq]), rfl⟩
  | none =>
      simp only
      cases hr : runs.find? fun r =>
          r.first ≤ c.toNat && c.toNat ≤ r.last && (c.toNat - r.first) % r.step == 0 with
      | some r =>
          have hmem := List.mem_of_find?_eq_some hr
          have hoffset := List.find?_some hr
          simp only [Bool.and_eq_true, decide_eq_true_eq] at hoffset
          have hi : c.toNat - r.first ∈ r.offsets :=
            List.mem_filter.mpr ⟨List.mem_range.mpr (by omega), hoffset.2⟩
          refine .inr ⟨[r.other + (c.toNat - r.first)], List.mem_append_right _ ?_, rfl⟩
          refine List.mem_flatMap.mpr ⟨r, hmem, List.mem_map.mpr ⟨_, hi, ?_⟩⟩
          rw [Nat.add_sub_of_le hoffset.1.1]
      | none =>
          refine .inl ⟨?_, rfl⟩
          intro hc
          obtain ⟨e, he, heq⟩ := List.mem_map.mp hc
          rcases List.mem_append.mp he with he | he
          · have hkey := List.lookup_eq_none_iff.mp hs e he
            simp [heq] at hkey
          · obtain ⟨r, hmem, he⟩ := List.mem_flatMap.mp he
            obtain ⟨i, hi, rfl⟩ := List.mem_map.mp he
            obtain ⟨hlt, hstep⟩ := List.mem_filter.mp hi
            have hnot := List.find?_eq_none.mp hr r hmem
            rw [List.mem_range] at hlt
            rw [← heq, Nat.add_sub_cancel_left, hstep, Bool.and_true, Bool.and_eq_true,
              decide_eq_true_eq, decide_eq_true_eq] at hnot
            omega

theorem mem_recase {sequences : List (Nat × List Nat)} {runs : List CaseRun} {c d : Char}
    (hd : d ∈ recase sequences runs c) :
    (d = c ∧ c.toNat ∉ (letters sequences runs).map (·.1)) ∨
      ∃ n ∈ (letters sequences runs).flatMap (·.2), d = Char.ofNat n := by
  rcases recase_cases sequences runs c with ⟨hnot, hc⟩ | ⟨s, hmem, hs⟩
  · rw [hc, List.mem_singleton] at hd
    exact .inl ⟨hd, hnot⟩
  · rw [hs] at hd
    obtain ⟨n, hn, rfl⟩ := List.mem_map.mp hd
    exact .inr ⟨n, List.mem_flatMap.mpr ⟨_, hmem, hn⟩, rfl⟩

def smallLetters : List Nat := (letters capitalSequences capitalRuns).map (·.1)

def capitalLetters : List Nat := (letters capitalSequences capitalRuns).flatMap (·.2)

def blanks : List Nat :=
  List.range' 0x09 5 ++ List.range' 0x1C 5 ++ List.range' 0x2000 11 ++
    [0x85, 0xA0, 0x1680, 0x2028, 0x2029, 0x202F, 0x205F, 0x3000]

theorem blanks_smallLetters : bits blanks &&& bits smallLetters = 0 := by decide +kernel

theorem capitalLetters_others : bits capitalLetters &&& bits (smallLetters ++ blanks) = 0 := by
  decide +kernel

theorem mem_blanks {c : Char} (h : isBlank c = true) : c.toNat ∈ blanks := by
  simp only [isBlank, Bool.or_eq_true, Bool.and_eq_true, decide_eq_true_eq, beq_iff_eq] at h
  simp only [blanks, List.mem_append, List.mem_range'_1, List.mem_cons, List.not_mem_nil]
  omega

theorem toLower_of_blank {c : Char} (h : isBlank c = true) : c.toLower = c := by
  have hmem := mem_blanks h
  delta Char.toLower
  rw [dif_neg]
  rintro ⟨hlow, hhigh⟩
  have hbig : ∀ n ∈ blanks, ¬ (65 ≤ n ∧ n ≤ 90) := by decide +kernel
  exact hbig _ hmem ⟨hlow, hhigh⟩

/-- What is written alike in small letters and is not among the letters of a word is not in the
word in any case. -/
theorem not_of_isWord {p : Char → Bool} (hp : ∀ c, p c = true → c.toLower = c) {word : String}
    (hword : word.toList.any p = false) {t : Text} (ht : isWord word t = true) :
    ∀ c ∈ t, p c = false := by
  intro c hc
  by_contra hpc
  rw [Bool.not_eq_false] at hpc
  have hmem : c ∈ word.toList := by
    rw [← beq_iff_eq.mp ht, ← hp c hpc]
    exact List.mem_map_of_mem hc
  exact List.any_eq_false.mp hword c hmem hpc

theorem letters_ne_nil : ∀ e ∈ letters capitalSequences capitalRuns, e.2 ≠ [] := by decide +kernel

/-- A character is no small letter and stands for itself, or its capital form is made of capital
letters. -/
theorem capital_cases (c : Char) :
    (c.toNat ∉ smallLetters ∧ capital c = [c]) ∨
      c.toNat ∈ smallLetters ∧ capital c ≠ [] ∧
        ∀ d ∈ capital c, ∃ n ∈ capitalLetters, d = Char.ofNat n := by
  rcases recase_cases capitalSequences capitalRuns c with hc | ⟨s, hmem, hs⟩
  · exact .inl hc
  · refine .inr ⟨List.mem_map_of_mem hmem, ?_, ?_⟩
    · rw [capital, hs]
      exact List.map_eq_nil_iff.not.mpr (letters_ne_nil _ hmem)
    · intro d hd
      exact (mem_recase hd).resolve_left fun h => h.2 (List.mem_map_of_mem hmem)

theorem capital_of_not_small {c : Char} (h : c.toNat ∉ smallLetters) : capital c = [c] := by
  rcases capital_cases c with ⟨_, hc⟩ | ⟨hs, _⟩
  · exact hc
  · exact absurd hs h

theorem toNat_ofNat {n : Nat} (h : n.isValidChar) : (Char.ofNat n).toNat = n := by
  rw [Char.ofNat, dif_pos h]
  rfl

theorem capital_letter {n : Nat} (hn : n ∈ capitalLetters) :
    capital (Char.ofNat n) = [Char.ofNat n] ∧ isBlank (Char.ofNat n) = false := by
  by_cases hvalid : n.isValidChar
  · have hval := toNat_ofNat hvalid
    have hothers := not_mem_of_bits capitalLetters_others hn
    rw [List.mem_append, not_or] at hothers
    refine ⟨capital_of_not_small (by rw [hval]; exact hothers.1), ?_⟩
    refine Bool.eq_false_iff.mpr fun hb => hothers.2 ?_
    have hblank := mem_blanks hb
    rwa [hval] at hblank
  · rw [Char.ofNat, dif_neg hvalid]
    decide +kernel

theorem smallLetters_nodup : smallLetters.Nodup := by
  have hsequences : (capitalSequences.map (·.1)).Nodup := by decide +kernel
  have hsorted : ((capitalRuns.flatMap CaseRun.letters).map (·.1)).IsChain (· < ·) := by
    decide +kernel
  have hapart : bits (capitalSequences.map (·.1)) &&&
      bits ((capitalRuns.flatMap CaseRun.letters).map (·.1)) = 0 := by decide +kernel
  rw [smallLetters, letters, List.map_append]
  exact List.Nodup.append hsequences hsorted.pairwise.nodup fun n hn => not_mem_of_bits hapart hn

theorem smallLetters_valid : ∀ n ∈ smallLetters, n.isValidChar := by decide +kernel

theorem capital_of_mem {n : Nat} {s : List Nat}
    (h : (n, s) ∈ letters capitalSequences capitalRuns) :
    capital (Char.ofNat n) = s.map Char.ofNat := by
  have hn : n ∈ smallLetters := List.mem_map_of_mem h
  have hval := toNat_ofNat (smallLetters_valid n hn)
  rcases recase_cases capitalSequences capitalRuns (Char.ofNat n) with ⟨hnot, _⟩ | ⟨s', hs', heq⟩
  · rw [hval] at hnot
    exact absurd hn hnot
  · rw [hval] at hs'
    rw [capital, heq, (Prod.mk.inj (List.inj_on_of_nodup_map smallLetters_nodup hs' h rfl)).2]

theorem capital_settled (c : Char) : capital c ≠ [] ∧ ∀ d ∈ capital c,
    capital d = [d] ∧ isBlank d = isBlank c := by
  rcases capital_cases c with ⟨_, hc⟩ | ⟨hs, hne, hletters⟩
  · rw [hc]
    simp [hc]
  · refine ⟨hne, ?_⟩
    intro d hd
    obtain ⟨n, hn, rfl⟩ := hletters d hd
    obtain ⟨hcapital, hblank⟩ := capital_letter hn
    refine ⟨hcapital, hblank.trans (Bool.eq_false_iff.mpr fun hb => ?_).symm⟩
    exact not_mem_of_bits blanks_smallLetters (mem_blanks hb) hs

theorem capitals_capitals (t : Text) : capitals (capitals t) = capitals t := by
  rw [capitals, capitals, List.flatMap_assoc]
  congr 1
  funext c
  have hsame : (capital c).flatMap capital = (capital c).flatMap fun d => [d] :=
    List.flatMap_congr fun d hd => ((capital_settled c).2 d hd).1
  rw [hsame, List.flatMap_singleton']

theorem bare_capitals {t : Text} (h : Bare isBlank t) : Bare isBlank (capitals t) := by
  constructor
  · intro d hd
    cases t with
    | nil => cases hd
    | cons c t =>
        obtain ⟨hne, hc⟩ := capital_settled c
        rw [capitals, List.flatMap_cons, List.head?_append,
          Option.or_of_isSome (List.isSome_head?.mpr hne)] at hd
        rw [(hc d (List.mem_of_head? hd)).2, h.head c rfl]
  · intro d hd
    rcases List.eq_nil_or_concat t with rfl | ⟨t, c, rfl⟩
    · cases hd
    · obtain ⟨hne, hc⟩ := capital_settled c
      rw [List.concat_eq_append, capitals, List.flatMap_append, List.flatMap_singleton,
        List.getLast?_append, Option.or_of_isSome (List.getLast?_isSome.mpr hne)] at hd
      rw [(hc d (List.mem_of_getLast? hd)).2, h.last c (by simp)]

/-- Capitals and white space do not meddle with each other. -/
theorem strip_capitals (t : Text) : strip (capitals t) = capitals (strip t) := by
  have hblank {u : Text} (hu : ∀ c ∈ u, isBlank c = true) : ∀ d ∈ capitals u, isBlank d = true := by
    intro d hd
    obtain ⟨c, hc, hd⟩ := List.mem_flatMap.mp hd
    rw [((capital_settled c).2 d hd).2, hu c hc]
  obtain ⟨front, back, ht, hfront, hbare, hback⟩ := trim_spec isBlank t
  conv_lhs => rw [ht]
  rw [capitals, List.flatMap_append, List.flatMap_append]
  exact trim_append (hblank hfront) (bare_capitals hbare) (hblank hback)

end Checkout.Text

namespace Checkout.Currency

theorem normalize_normalize (t : Text) : normalize (normalize t) = normalize t := by
  have hbare := Text.bare_capitals (Text.bare_trim Text.isBlank t)
  rw [normalize, normalize, Text.strip, Text.strip, Text.trim_of_bare hbare, Text.capitals_capitals]

end Checkout.Currency
