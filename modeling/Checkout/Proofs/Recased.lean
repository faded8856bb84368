import Checkout.Proofs.Capitals

namespace Checkout.Text

def CaseRun.Undoes (q r : CaseRun) : Prop :=
  q.first ≤ r.other ∧ r.other + (r.last - r.first) ≤ q.last ∧ r.step % q.step = 0 ∧
    (r.other - q.first) % q.step = 0 ∧ q.other + (r.other - q.first) = r.first

instance (q r : CaseRun) : Decidable (q.Undoes r) := inferInstanceAs (Decidable (_ ∧ _))

theorem CaseRun.Undoes.mem_letters {q r : CaseRun} (h : q.Undoes r) {i : Nat} (hi : i ∈ r.offsets) :
    (r.other + i, [r.first + i]) ∈ q.letters := by
  obtain ⟨hlow, hhigh, hstep, hstart, hother⟩ := h
  obtain ⟨hlt, hoffset⟩ := List.mem_filter.mp hi
  rw [List.mem_range] at hlt
  rw [beq_iff_eq] at hoffset
  have hdvd : q.step ∣ r.other - q.first + i :=
    Nat.dvd_add (Nat.dvd_of_mod_eq_zero hstart)
      (Nat.dvd_trans (Nat.dvd_of_mod_eq_zero hstep) (Nat.dvd_of_mod_eq_zero hoffset))
  have hmem : r.other - q.first + i ∈ q.offsets := by
    refine List.mem_filter.mpr ⟨List.mem_range.mpr (by omega), ?_⟩
    rw [beq_iff_eq]
    exact Nat.mod_eq_zero_of_dvd hdvd
  refine List.mem_map.mpr ⟨_, hmem, ?_⟩
  rw [← Nat.add_assoc, Nat.add_sub_of_le hlow, ← Nat.add_assoc, hother]

/-- The capital letters that no small letter goes back to: `İ`, `ϴ`, `ẞ`, and the signs of ohm,
kelvin and ångström. The capital of their small form is another letter. -/
def loneCapitals : List Nat := [0x0130, 0x03F4, 0x1E9E, 0x2126, 0x212A, 0x212B]

theorem CaseRun.Undoes.capital_eq {q r : CaseRun} (h : q.Undoes r) (hq : q ∈ capitalRuns) {i : Nat}
    (hi : i ∈ r.offsets) :
    capital (Char.ofNat (r.other + i)) = capital (Char.ofNat (r.first + i)) := by
  have hletter : (r.other + i, [r.first + i]) ∈ Text.letters capitalSequences capitalRuns :=
    List.mem_append_right _ (List.mem_flatMap.mpr ⟨q, hq, h.mem_letters hi⟩)
  have hcapital : r.first + i ∈ capitalLetters :=
    List.mem_flatMap.mpr ⟨_, hletter, List.mem_singleton_self _⟩
  rw [capital_of_mem hletter, List.map_singleton, (capital_letter hcapital).1]

-- The titlecase letters are not their own capitals, so their runs are looked at letter by letter.
theorem smallRuns_cases : ∀ r ∈ smallRuns,
    ((capitalRuns.find? fun q => r.other ≤ q.last).any fun q => q.Undoes r) = true ∨
      ∀ i ∈ r.offsets, r.first + i ∈ loneCapitals ∨
        capital (Char.ofNat (r.other + i)) = capital (Char.ofNat (r.first + i)) := by
  decide +kernel

theorem smallRuns_capital {r : CaseRun} (hr : r ∈ smallRuns) {i : Nat} (hi : i ∈ r.offsets)
    (h : r.first + i ∉ loneCapitals) :
    capital (Char.ofNat (r.other + i)) = capital (Char.ofNat (r.first + i)) := by
  rcases smallRuns_cases r hr with hundone | hothers
  · obtain ⟨q, hq, hundoes⟩ := (Option.any_eq_true _ _).mp hundone
    exact (of_decide_eq_true hundoes).capital_eq (List.mem_of_find?_eq_some hq) hi
  · exact (hothers i hi).resolve_left h

theorem capitals_singleton (c : Char) : capitals [c] = capital c := List.flatMap_singleton capital c

theorem capitals_small {c : Char} (h : c.toNat ∉ loneCapitals) :
    capitals (small c) = capital c := by
  rcases recase_cases smallSequences smallRuns c with ⟨_, hc⟩ | ⟨s, hmem, hs⟩
  · rw [small, hc, capitals_singleton]
  · rcases List.mem_append.mp hmem with hmem | hmem
    · have hlone : ∀ e ∈ smallSequences, e.1 ∈ loneCapitals := by decide
      exact absurd (hlone _ hmem) h
    · obtain ⟨r, hr, hmem⟩ := List.mem_flatMap.mp hmem
      obtain ⟨i, hi, heq⟩ := List.mem_map.mp hmem
      obtain ⟨hfirst, rfl⟩ := Prod.mk.inj heq
      rw [← hfirst] at h
      rw [small, hs, List.map_singleton, capitals_singleton, smallRuns_capital hr hi h, hfirst,
        Char.ofNat_toNat]

theorem capitals_smalls {t : Text} (h : ∀ c ∈ t, c.toNat ∉ loneCapitals) :
    capitals (smalls t) = capitals t := by
  rw [capitals, smalls, List.flatMap_assoc]
  exact List.flatMap_congr fun c hc => capitals_small (h c hc)

/-- Texts that differ in the case of their letters: letters are written as capitals or as small
letters, any number of times and back again. No lone capital is written as a small letter. -/
inductive Recased : Text → Text → Prop
  | refl (t : Text) : Recased t t
  | capital (c : Char) : Recased [c] (Text.capital c)
  | small (c : Char) (h : c.toNat ∉ loneCapitals) : Recased [c] (Text.small c)
  | append {s s' t t' : Text} (hs : Recased s s') (ht : Recased t t') : Recased (s ++ t) (s' ++ t')
  | symm {s t : Text} (h : Recased s t) : Recased t s
  | trans {s t u : Text} (hs : Recased s t) (ht : Recased t u) : Recased s u

theorem Recased.capitals_eq {s t : Text} (h : Recased s t) : capitals s = capitals t := by
  induction h with
  | refl t => rfl
  | capital c => rw [← capitals_singleton, capitals_capitals]
  | small c h => rw [capitals_singleton, capitals_small h]
  | append _ _ hs ht =>
      rw [capitals] at hs ht
      rw [capitals, capitals, List.flatMap_append, List.flatMap_append, hs, ht]
      rfl
  | symm _ h => exact h.symm
  | trans _ _ hs ht => exact hs.trans ht

theorem recased_capitals (t : Text) : Recased t (capitals t) := by
  induction t with
  | nil => exact .refl []
  | cons c t ih =>
      rw [capitals, List.flatMap_cons]
      exact .append (.capital c) ih

theorem recased_iff {s t : Text} : Recased s t ↔ capitals s = capitals t := by
  refine ⟨Recased.capitals_eq, ?_⟩
  intro h
  have hs := recased_capitals s
  rw [h] at hs
  exact hs.trans (recased_capitals t).symm

theorem lone_settled {c : Char} (h : c.toNat ∈ loneCapitals) :
    capital c = [c] ∧ isBlank c = false := by
  have hall : ∀ n ∈ loneCapitals, capital (Char.ofNat n) = [Char.ofNat n] ∧
      isBlank (Char.ofNat n) = false := by decide +kernel
  have hc := hall _ h
  rwa [Char.ofNat_toNat] at hc

theorem not_lone_capital {c : Char} (h : c.toNat ∉ loneCapitals) :
    ∀ d ∈ capital c, d.toNat ∉ loneCapitals := by
  have hletters : ∀ n ∈ capitalLetters, (Char.ofNat n).toNat ∉ loneCapitals := by decide +kernel
  intro d hd
  rcases mem_recase hd with ⟨rfl, _⟩ | ⟨n, hn, rfl⟩
  · exact h
  · exact hletters n hn

theorem not_lone_small (c : Char) : ∀ d ∈ small c, d.toNat ∉ loneCapitals := by
  have hkeys : ∀ n ∈ loneCapitals, n ∈ (letters smallSequences smallRuns).map (·.1) := by
    decide +kernel
  have hletters : ∀ n ∈ (letters smallSequences smallRuns).flatMap (·.2),
      (Char.ofNat n).toNat ∉ loneCapitals := by decide +kernel
  intro d hd
  rcases mem_recase hd with ⟨rfl, hnot⟩ | ⟨n, hn, rfl⟩
  · exact fun hlone => hnot (hkeys _ hlone)
  · exact hletters n hn

end Checkout.Text

namespace Checkout.Currency

theorem normalize_eq_strip_capitals (t : Text) : normalize t = Text.strip (Text.capitals t) :=
  (Text.strip_capitals t).symm

theorem normalize_eq_iff {s t : Text} :
    normalize s = normalize t ↔ Text.Recased (Text.strip s) (Text.strip t) := by
  rw [Text.recased_iff, normalize, normalize]

theorem lone_mem_normalize {t : Text} {c : Char} (hc : c ∈ t)
    (hlone : c.toNat ∈ Text.loneCapitals) : c ∈ normalize t := by
  obtain ⟨hcapital, hblank⟩ := Text.lone_settled hlone
  refine List.mem_flatMap.mpr ⟨c, Text.mem_trim hc hblank, ?_⟩
  rw [hcapital]
  exact List.mem_singleton_self c

theorem normalize_smalls {t : Text} :
    normalize (Text.smalls t) = normalize t ↔ ∀ c ∈ t, c.toNat ∉ Text.loneCapitals := by
  constructor
  · intro h c hc hlone
    have hmem := lone_mem_normalize hc hlone
    rw [← h, normalize, Text.capitals] at hmem
    obtain ⟨d, hd, hcapital⟩ := List.mem_flatMap.mp hmem
    obtain ⟨b, _, hsmall⟩ := List.mem_flatMap.mp (Text.mem_of_mem_trim hd)
    exact Text.not_lone_capital (Text.not_lone_small b d hsmall) c hcapital hlone
  · intro h
    rw [normalize_eq_strip_capitals, normalize_eq_strip_capitals, Text.capitals_smalls h]

end Checkout.Currency
