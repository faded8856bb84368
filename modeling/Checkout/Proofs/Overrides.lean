import Checkout.Proofs.Outcome

namespace Checkout.Settings

inductive Overridable
  | currency
  | lineFormat
  | catalog
  deriving DecidableEq, Repr

namespace Overridable

def variableName : Overridable → Text
  | .currency => "TILL_CURRENCY"
  | .lineFormat => "TILL_LINE_FORMAT"
  | .catalog => "TILL_PRICE_CATALOG"

theorem variableName_inj {x y : Overridable} (h : x.variableName = y.variableName) : x = y := by
  revert h
  cases x <;> cases y <;> decide

def flag (o : Overrides) : Overridable → Option Value
  | .currency => o.currency
  | .lineFormat => o.lineFormat
  | .catalog => o.catalog

def value (s : Settings) : Overridable → Option Text
  | .currency => s.currency
  | .lineFormat => s.lineFormat
  | .catalog => s.catalog

/-- What the variable of a setting may hold for the environment to be acceptable by itself. A
variable that is not set is always acceptable, and so is any path of a catalog. -/
def Accepts : Overridable → Option Text → Prop
  | _, none => True
  | .currency, some t => Currency.normalize t ≠ []
  | .lineFormat, some t => Template.check (some t) = .ok ()
  | .catalog, some _ => True

instance (x : Overridable) (t : Option Text) : Decidable (x.Accepts t) :=
  match x, t with
  | .currency, none | .lineFormat, none | .catalog, none => isTrue trivial
  | .currency, some t => inferInstanceAs (Decidable (Currency.normalize t ≠ []))
  | .lineFormat, some t => inferInstanceAs (Decidable (Template.check (some t) = .ok ()))
  | .catalog, some _ => isTrue trivial

def AgreeBut (x : Overridable) (env env' : Environment) : Prop :=
  ∀ name, name ≠ x.variableName → env.get? name = env'.get? name

end Overridable

open Overridable

theorem agreeBut_single {x : Overridable} (t : Text) : x.AgreeBut [(x.variableName, t)] [] := by
  intro name hname
  rw [Table.get?_cons, if_neg hname]

theorem readCurrency_text (t : Text) :
    (∃ c, readCurrency (.text t) = .ok c) ↔ Currency.normalize t ≠ [] := by
  rw [readCurrency, currencyText?]
  by_cases h : Currency.normalize t = []
  · simp [h]
  · simp [h]

theorem readLineFormat_text (t : Text) :
    (∃ l, readLineFormat (.text t) = .ok l) ↔ Template.check (some t) = .ok () := by
  have h := readLineFormat_ofOption (some t)
  rw [Value.ofOption] at h
  rw [h]
  cases Template.check (some t) <;> simp

theorem readCatalog_text (t : Text) : ∃ p, readCatalog (.text t) = .ok p := by
  cases t <;> exact ⟨_, rfl⟩

def Overridable.faults : Overridable → Option Text → List Error
  | .currency, t => errors "currency" (readCurrency (.text (t.getD defaultCurrency)))
  | .lineFormat, t => errors "line_format" (readLineFormat (.text (t.getD [])))
  | .catalog, t => errors "price_catalog" (readCatalog (.text (t.getD [])))

theorem errors_eq_nil {α : Type} (setting : Text) (r : Except Fault α) :
    errors setting r = [] ↔ ∃ v, r = .ok v := by
  cases r <;> simp [errors]

theorem Overridable.faults_eq_nil (x : Overridable) (t : Option Text) :
    x.faults t = [] ↔ x.Accepts t := by
  cases x with
  | currency =>
      rw [Overridable.faults, errors_eq_nil, readCurrency_text]
      cases t with
      | none => exact iff_of_true (by decide +kernel) trivial
      | some t => rfl
  | lineFormat =>
      rw [Overridable.faults, errors_eq_nil, readLineFormat_text]
      cases t with
      | none => exact iff_of_true rfl trivial
      | some t => rfl
  | catalog =>
      rw [Overridable.faults, errors_eq_nil]
      refine iff_of_true (readCatalog_text _) ?_
      cases t <;> trivial

theorem faults_givenByEnvironment (env : Environment) :
    Settings.faults (givenByEnvironment env) =
      Overridable.currency.faults (env.get? "TILL_CURRENCY") ++
        Overridable.lineFormat.faults (env.get? "TILL_LINE_FORMAT") ++
        Overridable.catalog.faults (env.get? "TILL_PRICE_CATALOG") := by
  have hflag (b : Bool) : errors "consume_on_receipt" (readConsume (.flag b)) = [] := by
    rw [readConsume, errors]
  simp only [Settings.faults, givenByEnvironment, orDefault]
  rw [hflag, List.append_nil]
  simp only [Overridable.faults]

theorem load_of_not_accepts {x : Overridable} {env : Environment}
    (h : ¬ x.Accepts (env.get? x.variableName)) (o : Overrides) :
    ∃ errors, load env o = .error errors := by
  -- The environment is read by itself first, so the flags never come into it.
  have hfaults : Settings.faults (givenByEnvironment env) ≠ [] := by
    rw [← x.faults_eq_nil] at h
    rw [faults_givenByEnvironment]
    intro hnil
    simp only [List.append_eq_nil_iff] at hnil
    cases x with
    | currency => exact h hnil.1.1
    | lineFormat => exact h hnil.1.2
    | catalog => exact h hnil.2
  rcases ofGiven_cases (givenByEnvironment env) with ⟨s, _, hnil, _⟩ | ⟨he, _⟩
  · exact absurd hnil hfaults
  · refine ⟨Settings.faults (givenByEnvironment env), ?_⟩
    rw [load, ofEnvironment, he]

section

variable {x : Overridable} {env env' : Environment}

theorem Overridable.AgreeBut.faults_eq (hagree : x.AgreeBut env env')
    (h : x.Accepts (env.get? x.variableName)) (h' : x.Accepts (env'.get? x.variableName)) :
    Settings.faults (givenByEnvironment env) = Settings.faults (givenByEnvironment env') := by
  have hx : x.faults (env.get? x.variableName) = x.faults (env'.get? x.variableName) := by
    rw [(x.faults_eq_nil _).mpr h, (x.faults_eq_nil _).mpr h']
  have hsame (y : Overridable) :
      y.faults (env.get? y.variableName) = y.faults (env'.get? y.variableName) := by
    by_cases hy : y = x
    · rw [hy]
      exact hx
    · rw [hagree _ (mt variableName_inj hy)]
  rw [faults_givenByEnvironment, faults_givenByEnvironment]
  exact congrArg₂ (· ++ ·) (congrArg₂ (· ++ ·) (hsame .currency) (hsame .lineFormat))
    (hsame .catalog)

theorem Overridable.value_eq {s s' : Settings} (hs : ofEnvironment env = .ok s)
    (hs' : ofEnvironment env' = .ok s') (y : Overridable)
    (h : env.get? y.variableName = env'.get? y.variableName) : y.value s = y.value s' := by
  obtain ⟨hc, hl, _, hp⟩ := ofGiven_eq_ok hs
  obtain ⟨hc', hl', _, hp'⟩ := ofGiven_eq_ok hs'
  cases y with
  | currency =>
      have hget : env.get? "TILL_CURRENCY" = env'.get? "TILL_CURRENCY" := h
      rw [givenByEnvironment, hget] at hc
      exact congrArg some (Except.ok.inj (hc.symm.trans hc'))
  | lineFormat =>
      have hget : env.get? "TILL_LINE_FORMAT" = env'.get? "TILL_LINE_FORMAT" := h
      rw [givenByEnvironment, hget] at hl
      exact Except.ok.inj (hl.symm.trans hl')
  | catalog =>
      have hget : env.get? "TILL_PRICE_CATALOG" = env'.get? "TILL_PRICE_CATALOG" := h
      rw [givenByEnvironment, hget] at hp
      exact Except.ok.inj (hp.symm.trans hp')

theorem Overridable.AgreeBut.consume_eq (hagree : x.AgreeBut env env') {s s' : Settings}
    (hs : ofEnvironment env = .ok s) (hs' : ofEnvironment env' = .ok s') :
    s.consume = s'.consume := by
  obtain ⟨_, _, hu, _⟩ := ofGiven_eq_ok hs
  obtain ⟨_, _, hu', _⟩ := ofGiven_eq_ok hs'
  have hname : ("TILL_CONSUME_ON_RECEIPT" : Text) ≠ x.variableName := by cases x <;> decide
  rw [givenByEnvironment, hagree _ hname] at hu
  exact Except.ok.inj (hu.symm.trans hu')

theorem Overridable.AgreeBut.override_eq (hagree : x.AgreeBut env env') {s s' : Settings}
    (hs : ofEnvironment env = .ok s) (hs' : ofEnvironment env' = .ok s') {o : Overrides}
    (hflag : (x.flag o).isSome) : s.override o = s'.override o := by
  have hvalue (y : Overridable) (h : y ≠ x) : y.value s = y.value s' :=
    y.value_eq hs hs' (hagree _ (mt variableName_inj h))
  have hcurrency (h : .currency ≠ x) : s.currency = s'.currency := Option.some.inj (hvalue _ h)
  have hlineFormat (h : .lineFormat ≠ x) : s.lineFormat = s'.lineFormat := hvalue _ h
  have hcatalog (h : .catalog ≠ x) : s.catalog = s'.catalog := hvalue _ h
  have hconsume := hagree.consume_eq hs hs'
  obtain ⟨v, hv⟩ := Option.isSome_iff_exists.mp hflag
  cases x with
  | currency =>
      simp only [flag] at hv
      simp [override, given, hv, hlineFormat, hcatalog, hconsume]
  | lineFormat =>
      simp only [flag] at hv
      simp [override, given, hv, hcurrency, hcatalog, hconsume]
  | catalog =>
      simp only [flag] at hv
      simp [override, given, hv, hcurrency, hlineFormat, hconsume]

theorem Overridable.AgreeBut.load_eq (hagree : x.AgreeBut env env')
    (h : x.Accepts (env.get? x.variableName)) (h' : x.Accepts (env'.get? x.variableName))
    {o : Overrides} (hflag : (x.flag o).isSome) : load env o = load env' o := by
  have hnone : o ≠ .none := by
    rintro rfl
    cases x <;> cases hflag
  have hfaults := hagree.faults_eq h h'
  rw [load, load, ofEnvironment, ofEnvironment]
  rcases ofGiven_cases (givenByEnvironment env) with ⟨s, hs, hnil, _⟩ | ⟨he, hne⟩ <;>
    rcases ofGiven_cases (givenByEnvironment env') with ⟨s', hs', hnil', _⟩ | ⟨he', hne'⟩
  · rw [hs, hs']
    simp only [if_neg hnone, hagree.override_eq hs hs' hflag]
  · exact absurd (hfaults ▸ hnil) hne'
  · exact absurd (hfaults ▸ hnil') hne
  · rw [he, he', hfaults]

end

end Checkout.Settings

namespace Checkout.CommandLine

open Settings Settings.Overridable

theorem printReceipt_congr {vars vars' : Environment} {a : Arguments}
    (h : Settings.load vars a.overrides = Settings.load vars' a.overrides)
    (opener : Catalog.Opener) : printReceipt opener vars a = printReceipt opener vars' a := by
  rw [printReceipt, printReceipt, h]

/-- How far a flag overrides the variable of its setting. What the variable holds makes no
difference as long as the environment is acceptable with it; but where it is not, the call fails,
whatever the flag says. -/
theorem run_overrides_acceptable (x : Overridable) (opener : Catalog.Opener)
    {env env' vars vars' : Environment} {file file' : Text}
    (hvars : env.withFile file = .ok vars) (hvars' : env'.withFile file' = .ok vars')
    (hagree : x.AgreeBut vars vars') {words : List Text} {a : Arguments}
    (hparse : parse words = .ok (.receipt a)) (hflag : (x.flag a.overrides).isSome) :
    let o := run opener env file words
    let o' := run opener env' file' words
    (x.Accepts (vars.get? x.variableName) → x.Accepts (vars'.get? x.variableName) → o = o') ∧
    (¬ x.Accepts (vars.get? x.variableName) → ∃ n, o = ⟨.exit 2, [], [], [invalidSettings n]⟩) ∧
    (o'.ending = .exit 0 → (o = o' ↔ x.Accepts (vars.get? x.variableName))) := by
  intro o o'
  -- The environments only count through the settings that are loaded from them.
  have ho : o = printReceipt opener vars a := run_receipt hvars hparse opener
  have ho' : o' = printReceipt opener vars' a := run_receipt hvars' hparse opener
  have hsame (h : x.Accepts (vars.get? x.variableName))
      (h' : x.Accepts (vars'.get? x.variableName)) : o = o' := by
    rw [ho, ho']
    exact printReceipt_congr (hagree.load_eq h h' hflag) opener
  have hrejected {env : Environment} (h : ¬ x.Accepts (env.get? x.variableName)) :
      ∃ n, printReceipt opener env a = ⟨.exit 2, [], [], [invalidSettings n]⟩ := by
    obtain ⟨errors, he⟩ := load_of_not_accepts h a.overrides
    exact ⟨errors.length, printReceipt_rejected he⟩
  refine ⟨hsame, fun h => ho ▸ hrejected h, fun hexit => ⟨fun heq => ?_, fun h => hsame h ?_⟩⟩
  · by_contra h
    obtain ⟨n, hn⟩ := hrejected h
    rw [← heq, ho, hn] at hexit
    cases hexit
  · by_contra h
    obtain ⟨n, hn⟩ := hrejected h
    rw [ho', hn] at hexit
    cases hexit

def dollarWords : List Text := ["--currency", "USD", "apple"].map String.toList

def dollarArguments : Arguments := ⟨⟨some (.text "USD"), none, none, false⟩, false, [⟨"apple", 1⟩]⟩

theorem run_overrides_acceptable_dollar :
    let o (env : Environment) := run (fun _ => .error .notFound) env [] dollarWords
    parse dollarWords = .ok (.receipt dollarArguments) ∧
      o [("TILL_CURRENCY", "RON")] = o [] ∧ (o []).out = "apple - 1 - $1.00\nTOTAL PRICE: $1.00\n" ∧
      ∃ n, o [("TILL_CURRENCY", " ")] = ⟨.exit 2, [], [], [invalidSettings n]⟩ := by
  have hparse : parse dollarWords = .ok (.receipt dollarArguments) := by decide +kernel
  have hagree (t : Text) : Overridable.currency.AgreeBut [("TILL_CURRENCY", t)] [] :=
    agreeBut_single t
  have hvars (env : Environment) (h : env.ignoresFile = false) : env.withFile [] = .ok env := by
    rw [Environment.withFile, h]
    rfl
  have h (t : Text) := run_overrides_acceptable .currency (fun _ => .error .notFound)
    (hvars [("TILL_CURRENCY", t)] rfl) (hvars [] rfl) (hagree t) hparse rfl
  refine ⟨hparse, (h "RON").1 ?_ trivial, by decide +kernel, (h " ").2.1 ?_⟩
  · decide +kernel
  · decide +kernel

/-- A variable can stop a call although the flag of its setting is given. -/
theorem currency_flag_not_enough :
    ¬ ∀ (x : Overridable) (opener : Catalog.Opener) (env env' : Environment) (words : List Text)
      (a : Arguments), parse words = .ok (.receipt a) → (x.flag a.overrides).isSome →
      x.AgreeBut env env' → run opener env [] words = run opener env' [] words := by
  intro h
  have heq := h .currency (fun _ => .error .notFound) [("TILL_CURRENCY", " ")] [] dollarWords
    dollarArguments (by decide +kernel) rfl (agreeBut_single _)
  have hends : (run (fun _ => .error .notFound) [("TILL_CURRENCY", " ")] [] dollarWords).ending ≠
      (run (fun _ => .error .notFound) [] [] dollarWords).ending := by decide +kernel
  exact hends (congrArg Outcome.ending heq)

end Checkout.CommandLine
