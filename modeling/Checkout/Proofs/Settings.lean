import Checkout.Settings

namespace Checkout.Settings

def faults (g : Given) : List Error :=
  errors "currency" (orDefault standard.currency readCurrency g.currency) ++
    errors "line_format" (orDefault standard.lineFormat readLineFormat g.lineFormat) ++
    errors "consume_on_receipt" (orDefault standard.consume readConsume g.consume) ++
    errors "price_catalog" (orDefault standard.catalog readCatalog g.catalog)

theorem ofGiven_cases (g : Given) :
    (∃ s : Settings, ofGiven g = .ok s ∧ faults g = [] ∧
      orDefault standard.currency readCurrency g.currency = .ok s.currency ∧
      orDefault standard.lineFormat readLineFormat g.lineFormat = .ok s.lineFormat ∧
      orDefault standard.consume readConsume g.consume = .ok s.consume ∧
      orDefault standard.catalog readCatalog g.catalog = .ok s.catalog) ∨
    (ofGiven g = .error (faults g) ∧ faults g ≠ []) := by
  rw [ofGiven, faults]
  generalize orDefault standard.currency readCurrency g.currency = c
  generalize orDefault standard.lineFormat readLineFormat g.lineFormat = l
  generalize orDefault standard.consume readConsume g.consume = u
  generalize orDefault standard.catalog readCatalog g.catalog = p
  rcases c with _ | c
  · exact .inr ⟨rfl, by simp [errors]⟩
  rcases l with _ | l
  · exact .inr ⟨rfl, by simp [errors]⟩
  rcases u with _ | u
  · exact .inr ⟨rfl, by simp [errors]⟩
  rcases p with _ | p
  · exact .inr ⟨rfl, by simp [errors]⟩
  exact .inl ⟨⟨c, l, u, p⟩, rfl, rfl, rfl, rfl, rfl, rfl⟩

theorem ofGiven_eq_ok {g : Given} {s : Settings} (h : ofGiven g = .ok s) :
    orDefault standard.currency readCurrency g.currency = .ok s.currency ∧
      orDefault standard.lineFormat readLineFormat g.lineFormat = .ok s.lineFormat ∧
      orDefault standard.consume readConsume g.consume = .ok s.consume ∧
      orDefault standard.catalog readCatalog g.catalog = .ok s.catalog := by
  rcases ofGiven_cases g with ⟨s', hs, _, hread⟩ | ⟨he, _⟩
  · rw [hs] at h
    cases h
    exact hread
  · rw [he] at h
    cases h

theorem readLineFormat_ofOption (template : Option Text) :
    readLineFormat (.ofOption template) =
      match Template.check template with
      | .error u => .error (.template u)
      | .ok () => .ok (if template = some [] then none else template) := by
  match template with
  | none => rfl
  | some [] => rfl
  | some (c :: t) =>
      rw [Value.ofOption, readLineFormat]
      · rfl
      · nofun

theorem ofGiven_template {g : Given} {s : Settings}
    (h : ofGiven { g with lineFormat := none } = .ok s) (template : Option Text) :
    ofGiven { g with lineFormat := some (.ofOption template) } =
      match Template.check template with
      | .error u => .error [⟨"line_format", .template u⟩]
      | .ok () => .ok { s with lineFormat := if template = some [] then none else template } := by
  obtain ⟨hc, _, hu, hp⟩ := ofGiven_eq_ok h
  have hl : orDefault standard.lineFormat readLineFormat (some (.ofOption template)) =
      readLineFormat (.ofOption template) := rfl
  simp only [ofGiven] at hc hu hp ⊢
  rw [hc, hu, hp, hl, readLineFormat_ofOption]
  cases Template.check template <;> rfl

theorem readLineFormat_checked {v : Value} {l : Option Text} (h : readLineFormat v = .ok l) :
    Template.check l = .ok () ∧ l ≠ some [] := by
  have hoption (template : Option Text) (ht : readLineFormat (.ofOption template) = .ok l) :
      Template.check l = .ok () ∧ l ≠ some [] := by
    rw [readLineFormat_ofOption] at ht
    cases hc : Template.check template with
    | error u =>
        rw [hc] at ht
        cases ht
    | ok _ =>
        rw [hc] at ht
        cases ht
        by_cases he : template = some []
        · rw [if_pos he]
          exact ⟨rfl, nofun⟩
        · rw [if_neg he]
          exact ⟨hc, he⟩
  cases v with
  | null => exact hoption none h
  | text t => exact hoption (some t) h
  | missing | flag | integer => cases h

theorem ofGiven_checked {g : Given} {s : Settings} (h : ofGiven g = .ok s) :
    Template.check s.lineFormat = .ok () ∧ s.lineFormat ≠ some [] := by
  have hl := (ofGiven_eq_ok h).2.1
  cases hg : g.lineFormat with
  | none =>
      have hnone : s.lineFormat = none := by
        rw [hg] at hl
        exact (Except.ok.inj hl).symm
      rw [hnone]
      exact ⟨rfl, nofun⟩
  | some v =>
      rw [hg] at hl
      exact readLineFormat_checked hl

theorem load_checked {env : Environment} {o : Overrides} {s : Settings}
    (h : load env o = .ok s) : Template.check s.lineFormat = .ok () ∧ s.lineFormat ≠ some [] := by
  rw [load] at h
  cases he : ofEnvironment env with
  | error errors =>
      rw [he] at h
      cases h
  | ok s' =>
      simp only [he] at h
      split at h
      · cases h
        exact ofGiven_checked he
      · exact ofGiven_checked h

end Checkout.Settings
