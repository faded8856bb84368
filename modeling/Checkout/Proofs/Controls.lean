import Checkout.Log
import Checkout.Report
import Checkout.Proofs.Amount
import Mathlib.Tactic.SplitIfs

namespace Checkout

namespace Text

/-- A control character: C0 with the line ends, delete, and C1. -/
def isControl (c : Char) : Bool := c.toNat < 0x20 || (0x7F ≤ c.toNat && c.toNat ≤ 0x9F)

def Plain (t : Text) : Prop := ∀ c ∈ t, isControl c = false

instance (t : Text) : Decidable t.Plain := List.decidableBAll (isControl · = false) t

def Controls (P : Char → Prop) (t : Text) : Prop := ∀ c ∈ t, isControl c = true → P c

def SameControls (a b : Text) : Prop := ∀ c, isControl c = true → (c ∈ a ↔ c ∈ b)

theorem plain_append {a b : Text} : Plain (a ++ b) ↔ Plain a ∧ Plain b := List.forall_mem_append

theorem Plain.not_mem {t : Text} (h : Plain t) {c : Char} (hc : isControl c = true) : c ∉ t := by
  intro hmem
  rw [h c hmem] at hc
  cases hc

section

variable {P : Char → Prop} {t u : Text}

theorem Plain.controls (h : Plain t) : Controls P t :=
  fun _ hmem hc => absurd hmem (h.not_mem hc)

theorem controls_mem (t : Text) : Controls (· ∈ t) t := fun _ hc _ => hc

theorem Controls.mono {Q : Char → Prop} (h : Controls P t) (hPQ : ∀ c, P c → Q c) :
    Controls Q t :=
  fun c hc hcontrol => hPQ c (h c hc hcontrol)

theorem SameControls.refl (t : Text) : SameControls t t := fun _ _ => Iff.rfl

theorem SameControls.after (h : SameControls t u) {front : Text} (hfront : Plain front) :
    SameControls (front ++ t) u := by
  intro c hc
  rw [List.mem_append, or_iff_right (hfront.not_mem hc), h c hc]

theorem SameControls.before (h : SameControls t u) {back : Text} (hback : Plain back) :
    SameControls (t ++ back) u := by
  intro c hc
  rw [List.mem_append, or_iff_left (hback.not_mem hc), h c hc]

theorem SameControls.plain (h : SameControls t u) (hu : Plain u) : Plain t := by
  intro c hmem
  rw [Bool.eq_false_iff]
  intro hc
  exact hu.not_mem hc ((h c hc).mp hmem)

end

theorem plain_of_isPrintable {c : Char} (h : isPrintable c = true) : isControl c = false := by
  rw [Bool.eq_false_iff]
  intro hcontrol
  rw [isControl, Bool.or_eq_true, Bool.and_eq_true, decide_eq_true_eq,
    decide_eq_true_eq, decide_eq_true_eq] at hcontrol
  have hhidden : ∃ r ∈ hiddenRanges, r.1 ≤ c.toNat ∧ c.toNat ≤ r.2 := by
    rcases hcontrol with hlow | hhigh
    · exact ⟨(0x0000, 0x001F), .head _, by omega⟩
    · exact ⟨(0x007F, 0x00A0), .tail _ (.head _), by omega⟩
  rw [isPrintable, Bool.not_eq_true', List.any_eq_false] at h
  obtain ⟨r, hr, hrange⟩ := hhidden
  exact h r hr (by simpa using hrange)

theorem plain_hex (digits n : Nat) : Plain (hex digits n) := by
  have hdigit : ∀ d < 16, isControl (Nat.digitChar d) = false := by decide
  induction digits generalizing n with
  | zero => exact List.forall_mem_nil _
  | succ digits ih =>
      rw [hex, plain_append]
      exact ⟨ih (n / 16), List.forall_mem_singleton.mpr (hdigit _ (Nat.mod_lt _ (by decide)))⟩

theorem plain_quotedChar {quote : Char} (hquote : isControl quote = false) (c : Char) :
    Plain (quotedChar quote c) := by
  have hspelled (lead : Text) (hlead : Plain lead) (digits n : Nat) :
      Plain (lead ++ hex digits n) :=
    plain_append.mpr ⟨hlead, plain_hex digits n⟩
  rw [quotedChar]
  split_ifs with hc _ _ _ hprintable
  · rcases hc with rfl | rfl
    · exact List.forall_mem_cons.mpr ⟨rfl, List.forall_mem_singleton.mpr hquote⟩
    · decide
  · decide
  · decide
  · decide
  · exact List.forall_mem_singleton.mpr (plain_of_isPrintable hprintable)
  · exact hspelled _ (by decide) _ _
  · exact hspelled _ (by decide) _ _
  · exact hspelled _ (by decide) _ _

theorem plain_quoted (t : Text) : Plain (quoted t) := by
  have hquote : isControl (quoteFor t) = false := by
    rw [quoteFor]
    split_ifs <;> decide
  have hbody : Plain (t.flatMap (quotedChar (quoteFor t))) := by
    intro c hc
    obtain ⟨d, _, hd⟩ := List.mem_flatMap.mp hc
    exact plain_quotedChar hquote d c hd
  rw [quoted, Plain, List.forall_mem_cons, List.forall_mem_append, List.forall_mem_singleton]
  exact ⟨hquote, hbody, hquote⟩

end Text

open Text (isControl Plain Controls SameControls)

theorem Numeral.plain_natural (n : Nat) : Plain (natural n) := by
  intro c hc
  have hdigit := natural_digit hc
  have hrange : 0x30 ≤ c.toNat ∧ c.toNat ≤ 0x39 := by
    rw [Char.isDigit, Bool.and_eq_true, decide_eq_true_eq, decide_eq_true_eq] at hdigit
    exact hdigit
  simp [isControl]
  omega

theorem Numeral.plain_text (n : Int) : Plain (text n) := by
  rw [text]
  split
  · exact List.forall_mem_cons.mpr ⟨rfl, plain_natural _⟩
  · exact plain_natural _

namespace Log

def escaped : List Char := ['\n', '\r', '\t', '\x00']

theorem controls_substitute {P : Char → Prop} {k : Char} {w t : Text}
    (hw : Plain w) (h : Controls P t) :
    Controls (fun c => P c ∧ c ≠ k) (substitute k w t) := by
  intro c hc hcontrol
  obtain ⟨d, hd, hc⟩ := List.mem_flatMap.mp hc
  split_ifs at hc with hk
  · exact absurd hc (hw.not_mem hcontrol)
  · rw [List.mem_singleton.mp hc] at hcontrol ⊢
    exact ⟨h d hd hcontrol, hk⟩

theorem controls_escape (t : Text) : Controls (fun c => c ∈ t ∧ c ∉ escaped) (escape t) := by
  have hsteps := controls_substitute (k := '\x00') (w := []) (by decide)
    (controls_substitute (k := '\t') (w := "\\t") (by decide)
      (controls_substitute (k := '\r') (w := "\\r") (by decide)
        (controls_substitute (k := '\n') (w := "\\n") (by decide) t.controls_mem)))
  exact hsteps.mono fun c hc => ⟨hc.1.1.1.1, by simp [escaped, hc]⟩

/-- Of the control characters of a text the sanitized one keeps all but four kinds. -/
theorem controls_sanitized (t : Text) : Controls (fun c => c ∈ t ∧ c ∉ escaped) (sanitized t) := by
  rw [sanitized]
  cases t with
  | nil => exact Plain.controls (by decide)
  | cons c t =>
      have hsanitize : sanitize defaultLimit (some (c :: t)) =
          truncate defaultLimit (escape (c :: t)) := rfl
      rw [hsanitize, truncate]
      split_ifs
      · exact controls_escape (c :: t)
      · rw [firstChars, if_pos (by decide)]
        have hcut : Controls (fun d => d ∈ c :: t ∧ d ∉ escaped) ((escape (c :: t)).take 50) :=
          fun d hd => controls_escape (c :: t) d (List.mem_of_mem_take hd)
        exact List.forall_mem_append.mpr ⟨hcut, Plain.controls (by decide)⟩

theorem plain_sanitized {t : Text} (h : Controls (· ∈ escaped) t) : Plain (sanitized t) := by
  intro c hmem
  rw [Bool.eq_false_iff]
  intro hc
  obtain ⟨ht, hkind⟩ := controls_sanitized t c hmem hc
  exact hkind (h c ht hc)

end Log

end Checkout
