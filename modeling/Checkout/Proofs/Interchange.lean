import Checkout.Proofs.NormalForm

namespace Checkout.Settings

structure Choice where
  currency : Option Text
  lineFormat : Option Text
  catalog : Option Text
  consume : Bool
  deriving DecidableEq, Repr

namespace Choice

def overrides (c : Choice) : Overrides :=
  ⟨c.currency.map .text, c.lineFormat.map .text, c.catalog.map .text, c.consume⟩

def value? (c : Choice) : Overridable → Option Text
  | .currency => c.currency
  | .lineFormat => c.lineFormat
  | .catalog => c.catalog

end Choice

def consumeVariable : Text := "TILL_CONSUME_ON_RECEIPT"

inductive SwitchesOn : Text → Prop
  | word (front word back : Text) (w : String) (hfront : ∀ c ∈ front, Text.isBlank c = true)
      (hw : w ∈ ["1", "true", "yes", "on"]) (hcase : word.map Char.toLower = w.toList)
      (hback : ∀ c ∈ back, Text.isBlank c = true) : SwitchesOn (front ++ word ++ back)

structure Unset (env : Environment) : Prop where
  value : ∀ x : Overridable, env.get? x.variableName = none
  consume : env.get? consumeVariable = none

structure Choice.SetIn (c : Choice) (env : Environment) : Prop where
  value : ∀ x : Overridable, env.get? x.variableName = c.value? x
  consume : c.consume = true → ∃ t, env.get? consumeVariable = some t ∧ SwitchesOn t
  no_consume : c.consume = false → env.get? consumeVariable = none

theorem SwitchesOn.flag {t : Text} (h : SwitchesOn t) : environmentFlag t = true := by
  obtain ⟨front, word, back, w, hfront, hw, hcase, hback⟩ := h
  have hword : Text.isWord w word = true := by rw [Text.isWord, hcase, beq_self_eq_true]
  have hwords : ∀ w ∈ ["1", "true", "yes", "on"], w.toList.any Text.isBlank = false := by
    decide +kernel
  have hsolid : ∀ c ∈ word, Text.isBlank c = false :=
    Text.not_of_isWord (fun _ => Text.toLower_of_blank) (hwords w hw) hword
  rw [environmentFlag, Text.strip, Text.trim_append hfront (Text.bare_of_forall hsolid) hback,
    List.any_eq_true]
  exact ⟨w, hw, hword⟩

theorem Unset.ofEnvironment {env : Environment} (h : Unset env) :
    ofEnvironment env = .ok standard := by
  have hc : env.get? "TILL_CURRENCY" = none := h.value .currency
  have hl : env.get? "TILL_LINE_FORMAT" = none := h.value .lineFormat
  have hu : env.get? "TILL_CONSUME_ON_RECEIPT" = none := h.consume
  have hp : env.get? "TILL_PRICE_CATALOG" = none := h.value .catalog
  rw [Settings.ofEnvironment, givenByEnvironment, hc, hl, hu, hp]
  decide +kernel

theorem ofGiven_congr {g g' : Given}
    (hc : orDefault standard.currency readCurrency g.currency =
      orDefault standard.currency readCurrency g'.currency)
    (hl : orDefault standard.lineFormat readLineFormat g.lineFormat =
      orDefault standard.lineFormat readLineFormat g'.lineFormat)
    (hu : orDefault standard.consume readConsume g.consume =
      orDefault standard.consume readConsume g'.consume)
    (hp : orDefault standard.catalog readCatalog g.catalog =
      orDefault standard.catalog readCatalog g'.catalog) : ofGiven g = ofGiven g' := by
  simp only [ofGiven, hc, hl, hu, hp]

theorem Choice.SetIn.environmentFlag_eq {c : Choice} {env : Environment} (h : c.SetIn env) :
    environmentFlag ((env.get? "TILL_CONSUME_ON_RECEIPT").getD []) = c.consume := by
  have hget : env.get? "TILL_CONSUME_ON_RECEIPT" = env.get? consumeVariable := rfl
  rw [hget]
  cases hc : c.consume with
  | true =>
      obtain ⟨t, ht, hon⟩ := h.consume hc
      rw [ht]
      exact hon.flag
  | false =>
      rw [h.no_consume hc]
      decide +kernel

theorem Choice.load_eq {c : Choice} {env env' : Environment} (h : Unset env) (h' : c.SetIn env') :
    load env c.overrides = load env' .none := by
  have henv : load env' .none = ofGiven (givenByEnvironment env') := by
    rw [load, ofEnvironment]
    cases ofGiven (givenByEnvironment env') <;> rfl
  rw [load_of_environment h.ofEnvironment, henv]
  apply ofGiven_congr
  · have hc : env'.get? "TILL_CURRENCY" = c.currency := h'.value .currency
    rw [givenByEnvironment, hc, override, overrides]
    cases c.currency <;> rfl
  · have hl : env'.get? "TILL_LINE_FORMAT" = c.lineFormat := h'.value .lineFormat
    rw [givenByEnvironment, hl, override, overrides]
    cases c.lineFormat <;> rfl
  · rw [givenByEnvironment, h'.environmentFlag_eq, override, overrides]
    cases c.consume <;> rfl
  · have hp : env'.get? "TILL_PRICE_CATALOG" = c.catalog := h'.value .catalog
    rw [givenByEnvironment, hp, override, overrides]
    cases c.catalog <;> rfl

end Checkout.Settings

namespace Checkout.CommandLine

open Settings

/-- Whether the settings are asked for by flags or by variables makes no difference to a call. -/
theorem run_interchanged (opener : Catalog.Opener) {c : Choice}
    {env env' vars vars' : Environment} {file file' : Text}
    (hvars : env.withFile file = .ok vars) (hvars' : env'.withFile file' = .ok vars')
    (hunset : Unset vars) (hset : c.SetIn vars') {words words' : List Text} {json : Bool}
    {scans : List Scan} (hparse : parse words = .ok (.receipt ⟨c.overrides, json, scans⟩))
    (hparse' : parse words' = .ok (.receipt ⟨.none, json, scans⟩)) :
    Settings.load vars c.overrides = Settings.load vars' .none ∧
      run opener env file words = run opener env' file' words' := by
  have hload := Choice.load_eq hunset hset
  refine ⟨hload, ?_⟩
  rw [run_receipt hvars hparse, run_receipt hvars' hparse']
  simp only [printReceipt, hload]

def dollarChoice : Choice := ⟨some " usd", some "<zz>", none, true⟩

def dollarVariables : Environment :=
  [("TILL_CURRENCY", " usd"), ("TILL_LINE_FORMAT", "<zz>"), ("TILL_CONSUME_ON_RECEIPT", "\tYES ")]

/-- A line format that is refused is refused alike. -/
theorem run_interchanged_refused :
    let flags : List Text := ["--currency= usd", "--format", "<zz>", "--consume", "tea:2"]
    Unset [] ∧ dollarChoice.SetIn dollarVariables ∧
      parse flags = .ok (.receipt ⟨dollarChoice.overrides, false, [⟨"tea", 2⟩]⟩) ∧
      parse [("tea:2" : Text)] = .ok (.receipt ⟨.none, false, [⟨"tea", 2⟩]⟩) ∧
      run (fun _ => .error .notFound) [] [] flags =
        run (fun _ => .error .notFound) dollarVariables [] ["tea:2"] ∧
      (run (fun _ => .error .notFound) dollarVariables [] ["tea:2"]).log = [invalidSettings 1] := by
  intro flags
  have hunset : Unset [] := ⟨fun _ => rfl, rfl⟩
  have hset : dollarChoice.SetIn dollarVariables := by
    have hvalue : ∀ x : Overridable,
        dollarVariables.get? x.variableName = dollarChoice.value? x := by
      intro x
      cases x <;> decide +kernel
    refine ⟨hvalue, fun _ => ⟨"\tYES ", by decide +kernel, ?_⟩, nofun⟩
    exact .word ['\t'] "YES" [' '] "yes" (List.all_eq_true.mp rfl) (by decide) (by decide +kernel)
      (List.all_eq_true.mp rfl)
  have hflags : parse flags = .ok (.receipt ⟨dollarChoice.overrides, false, [⟨"tea", 2⟩]⟩) := by
    decide +kernel
  have hplain : parse [("tea:2" : Text)] = .ok (.receipt ⟨.none, false, [⟨"tea", 2⟩]⟩) := by
    decide +kernel
  have hvars : Environment.withFile [] [] = .ok [] := by decide +kernel
  have hvars' : Environment.withFile dollarVariables [] = .ok dollarVariables := by decide +kernel
  obtain ⟨_, hrun⟩ := run_interchanged (fun _ => .error .notFound) hvars hvars' hunset hset hflags
    hplain
  exact ⟨hunset, hset, hflags, hplain, hrun, by decide +kernel⟩

end Checkout.CommandLine
