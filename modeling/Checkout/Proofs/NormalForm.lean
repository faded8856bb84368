import Checkout.Proofs.Capitals
import Checkout.Proofs.Configured
import Checkout.Proofs.Overrides

namespace Checkout.Settings

structure Normal (s : Settings) : Prop where
  currency_ne : s.currency ≠ []
  currency : Currency.normalize s.currency = s.currency
  template_ne : s.lineFormat ≠ some []
  template : Template.check s.lineFormat = .ok ()
  catalog_ne : s.catalog ≠ some []

theorem ofGiven_of_ok {g : Given} {s : Settings}
    (hc : orDefault standard.currency readCurrency g.currency = .ok s.currency)
    (hl : orDefault standard.lineFormat readLineFormat g.lineFormat = .ok s.lineFormat)
    (hu : orDefault standard.consume readConsume g.consume = .ok s.consume)
    (hp : orDefault standard.catalog readCatalog g.catalog = .ok s.catalog) :
    ofGiven g = .ok s := by
  simp only [ofGiven, hc, hl, hu, hp]

theorem orDefault_cases {α : Type} {P : α → Prop} {default : α} {reader : Value → Except Fault α}
    (hdefault : P default) (hreader : ∀ v a, reader v = .ok a → P a) {given : Option Value} {a : α}
    (h : orDefault default reader given = .ok a) : P a := by
  cases given with
  | none =>
      cases h
      exact hdefault
  | some v => exact hreader v a h

theorem readCurrency_normal {v : Value} {c : Text} (h : readCurrency v = .ok c) :
    c ≠ [] ∧ Currency.normalize c = c := by
  rw [readCurrency] at h
  split at h
  · cases h
  · split at h
    · cases h
    · cases h
      exact ⟨by assumption, Currency.normalize_normalize _⟩

theorem readCatalog_ne {v : Value} {p : Option Text} (h : readCatalog v = .ok p) :
    p ≠ some [] := by
  rintro rfl
  unfold readCatalog at h
  split at h <;> cases h
  contradiction

theorem ofGiven_normal {g : Given} {s : Settings} (h : ofGiven g = .ok s) : s.Normal := by
  obtain ⟨hc, _, _, hp⟩ := ofGiven_eq_ok h
  obtain ⟨htemplate, hne⟩ := ofGiven_checked h
  obtain ⟨hcne, hcurrency⟩ := orDefault_cases
    (P := fun c => c ≠ [] ∧ Currency.normalize c = c) (by decide +kernel)
    (fun _ _ => readCurrency_normal) hc
  exact ⟨hcne, hcurrency, hne, htemplate,
    orDefault_cases (P := (· ≠ some [])) (by decide) (fun _ _ => readCatalog_ne) hp⟩

/-- Settings in normal form are read back as they are. -/
theorem Normal.ofGiven_given {s : Settings} (h : s.Normal) : ofGiven s.given = .ok s := by
  apply ofGiven_of_ok
  · change readCurrency (.text s.currency) = _
    rw [readCurrency, currencyText?]
    simp only [h.currency, if_neg h.currency_ne]
  · change readLineFormat (.ofOption s.lineFormat) = _
    rw [readLineFormat_ofOption, h.template]
    simp only [if_neg h.template_ne]
  · rfl
  · rcases s with ⟨c, l, u, _ | _ | ⟨d, t⟩⟩
    · rfl
    · exact absurd rfl h.catalog_ne
    · rfl

/-- Where the environment is accepted, its settings are the ones that flags change, also where there
are no flags. -/
theorem load_of_environment {env : Environment} {s : Settings} (h : ofEnvironment env = .ok s)
    (o : Overrides) : load env o = ofGiven (s.override o) := by
  rw [load, h]
  by_cases ho : o = .none
  · have hgiven : s.override .none = s.given := rfl
    rw [ho, hgiven, (ofGiven_normal h).ofGiven_given]
    rfl
  · simp only [if_neg ho]

theorem exists_environment {env : Environment} {o : Overrides} {s : Settings}
    (h : load env o = .ok s) :
    ∃ s₀, ofEnvironment env = .ok s₀ ∧ ofGiven (s₀.override o) = .ok s := by
  cases he : ofEnvironment env with
  | error errors =>
      rw [load, he] at h
      cases h
  | ok s₀ => exact ⟨s₀, rfl, (load_of_environment he o).symm.trans h⟩

theorem load_normal {env : Environment} {o : Overrides} {s : Settings} (h : load env o = .ok s) :
    s.Normal := by
  obtain ⟨_, _, hs⟩ := exists_environment h
  exact ofGiven_normal hs

theorem Accepted.normal {s : Settings} (h : s.Accepted) : s.Normal := by
  cases h with
  | given h | environment h => exact ofGiven_normal h
  | loaded h => exact load_normal h

def Overridable.alone (v : Value) : Overridable → Given
  | .currency => { Given.nothing with currency := some v }
  | .lineFormat => { Given.nothing with lineFormat := some v }
  | .catalog => { Given.nothing with catalog := some v }

section

variable {env : Environment} {o : Overrides} {s₀ s : Settings}

theorem Overridable.value_of_flag (h : ofGiven (s₀.override o) = .ok s) (x : Overridable) {v : Value}
    (hflag : x.flag o = some v) : ∃ s', ofGiven (x.alone v) = .ok s' ∧ x.value s = x.value s' := by
  obtain ⟨hc, hl, _, hp⟩ := ofGiven_eq_ok h
  cases x with
  | currency =>
      simp only [flag] at hflag
      simp only [override, hflag, Option.some_or] at hc
      exact ⟨{ standard with currency := s.currency }, ofGiven_of_ok hc rfl rfl rfl, rfl⟩
  | lineFormat =>
      simp only [flag] at hflag
      simp only [override, hflag, Option.some_or] at hl
      exact ⟨{ standard with lineFormat := s.lineFormat }, ofGiven_of_ok rfl hl rfl rfl, rfl⟩
  | catalog =>
      simp only [flag] at hflag
      simp only [override, hflag, Option.some_or] at hp
      exact ⟨{ standard with catalog := s.catalog }, ofGiven_of_ok rfl rfl rfl hp, rfl⟩

theorem Overridable.value_of_no_flag (hs : s₀.Normal) (h : ofGiven (s₀.override o) = .ok s)
    (x : Overridable) (hflag : x.flag o = none) : x.value s = x.value s₀ := by
  obtain ⟨hc, hl, _, hp⟩ := ofGiven_eq_ok h
  obtain ⟨hc₀, hl₀, _, hp₀⟩ := ofGiven_eq_ok hs.ofGiven_given
  cases x with
  | currency =>
      simp only [flag] at hflag
      simp only [override, hflag, Option.none_or] at hc
      exact congrArg some (Except.ok.inj (hc.symm.trans hc₀))
  | lineFormat =>
      simp only [flag] at hflag
      simp only [override, hflag, Option.none_or] at hl
      exact Except.ok.inj (hl.symm.trans hl₀)
  | catalog =>
      simp only [flag] at hflag
      simp only [override, hflag, Option.none_or] at hp
      exact Except.ok.inj (hp.symm.trans hp₀)

theorem consume_override (h : ofGiven (s₀.override o) = .ok s) :
    s.consume = (o.consume || s₀.consume) := by
  obtain ⟨_, _, hu, _⟩ := ofGiven_eq_ok h
  rw [override] at hu
  cases ho : o.consume with
  | true =>
      simp only [ho, if_true] at hu
      exact (Except.ok.inj hu).symm
  | false =>
      simp only [ho, Bool.false_eq_true, if_false] at hu
      exact (Except.ok.inj hu).symm

end

/-- Accepted settings are in a normal form, which is read back as it is. So flags change nothing but
their own settings, and each of those to what the flag alone would make of it. -/
theorem accepted_normal_form :
    (∀ s : Settings, s.Accepted →
      (s.currency ≠ [] ∧ Currency.normalize s.currency = s.currency) ∧
      (∀ t, s.lineFormat = some t → t ≠ [] ∧ Template.check (some t) = .ok ()) ∧
      (∀ p, s.catalog = some p → p ≠ []) ∧
      ofGiven s.given = .ok s) ∧
    (∀ env o s₀ s, ofEnvironment env = .ok s₀ → load env o = .ok s →
      (∀ x : Overridable, x.flag o = none → x.value s = x.value s₀) ∧
      (∀ (x : Overridable) v, x.flag o = some v →
        ∃ s', ofGiven (x.alone v) = .ok s' ∧ x.value s = x.value s') ∧
      (o.consume = false → s.consume = s₀.consume) ∧
      (o.consume = true → ∃ s', ofGiven { Given.nothing with consume := some (.flag true) } = .ok s' ∧
        s.consume = s'.consume)) := by
  constructor
  · intro s hs
    have hnormal := hs.normal
    refine ⟨⟨hnormal.currency_ne, hnormal.currency⟩, ?_, ?_, hnormal.ofGiven_given⟩
    · intro t ht
      have hne := hnormal.template_ne
      have hcheck := hnormal.template
      rw [ht] at hne hcheck
      exact ⟨fun h => hne (congrArg some h), hcheck⟩
    · rintro p hp rfl
      exact hnormal.catalog_ne hp
  · intro env o s₀ s hs₀ hs
    rw [load_of_environment hs₀] at hs
    have hconsume := consume_override hs
    refine ⟨Overridable.value_of_no_flag (ofGiven_normal hs₀) hs,
      fun x _ => Overridable.value_of_flag hs x, ?_, ?_⟩
    · intro ho
      rw [hconsume, ho, Bool.false_or]
    · intro ho
      refine ⟨{ standard with consume := true }, rfl, ?_⟩
      rw [hconsume, ho, Bool.true_or]

/-- The environment spells its currency in small letters, one of which has no capital of its own,
and a flag blanks its line format. -/
theorem accepted_normal_form_street :
    let env : Environment := [("TILL_CURRENCY", " straße\t"), ("TILL_LINE_FORMAT", "<pn>"),
      ("TILL_CONSUME_ON_RECEIPT", "Yes")]
    let o : Overrides := ⟨none, some (.text []), some (.text "p.csv"), false⟩
    let s : Settings := ⟨"STRASSE", none, true, some "p.csv"⟩
    load env o = .ok s ∧ Currency.normalize s.currency = s.currency ∧ ofGiven s.given = .ok s ∧
      ∃ s₀, ofEnvironment env = .ok s₀ ∧ Overridable.currency.value s = Overridable.currency.value s₀ ∧
        s.consume = s₀.consume := by
  intro env o s
  have hs₀ : ofEnvironment env = .ok ⟨"STRASSE", some "<pn>", true, none⟩ := by decide +kernel
  have hs : load env o = .ok s := by decide +kernel
  obtain ⟨hnormal, hload⟩ := accepted_normal_form
  obtain ⟨⟨_, hcurrency⟩, _, _, hgiven⟩ := hnormal s (.loaded hs)
  obtain ⟨hkept, _, hconsume, _⟩ := hload env o _ s hs₀ hs
  exact ⟨hs, hcurrency, hgiven, _, hs₀, hkept .currency rfl, hconsume rfl⟩

end Checkout.Settings
