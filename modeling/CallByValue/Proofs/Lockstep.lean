import CallByValue.Run

/-!
# Runs side by side

Two evaluations under one limit are compared by running them side by side: each part of the one ends
as the matching part of the other, and what follows a result follows the matching result.

* `Run.Lockstep` — neither run notes anything, and both end alike: with results, or in faults, that
  are related;
* `Run.Lockstep.bind` — lockstep is kept by what follows;
* `Run.Lockstep.comp` — two runs in lockstep with a third one are in lockstep with each other.
-/

namespace CallByValue.Run

variable {ω ψ α β γ δ : Type} {value : α → β → Prop} {fault : Fault → Fault → Prop}

/-- Both runs note nothing and end alike: with results that `value` relates, or in faults that
`fault` relates. -/
inductive Lockstep (value : α → β → Prop) (fault : Fault → Fault → Prop) : Run ω α → Run ψ β → Prop
  /-- both end with results -/
  | pure {a : α} {b : β} (h : value a b) : Lockstep value fault (pure a) (pure b)
  /-- both end in faults -/
  | fail {f g : Fault} (h : fault f g) : Lockstep value fault (fail f) (fail g)

namespace Lockstep

variable {r : Run ω α} {s : Run ψ β}

/-- Related results can be followed by runs in lockstep. -/
theorem bind {value' : γ → δ → Prop} {next : α → Run ω γ} {next' : β → Run ψ δ}
    (h : Lockstep value fault r s)
    (hn : ∀ a b, value a b → Lockstep value' fault (next a) (next' b)) :
    Lockstep value' fault (r >>= next) (s >>= next') := by
  cases h with
  | pure hab =>
    rw [pure_bind', pure_bind']
    exact hn _ _ hab
  | fail hfg => exact .fail hfg

theorem mono {value' : α → β → Prop} {fault' : Fault → Fault → Prop} (h : Lockstep value fault r s)
    (hv : ∀ a b, value a b → value' a b) (hf : ∀ f g, fault f g → fault' f g) :
    Lockstep value' fault' r s := by
  cases h with
  | pure hab => exact .pure (hv _ _ hab)
  | fail hfg => exact .fail (hf _ _ hfg)

/-- Inversion: a result on the left has a result on the right. -/
theorem of_pure {a : α} (h : Lockstep value fault (Pure.pure a : Run ω α) s) :
    ∃ b, s = Pure.pure b ∧ value a b := by
  cases h with
  | pure hab => exact ⟨_, rfl, hab⟩

/-- Inversion: a fault on the left has a fault on the right. -/
theorem of_fail {f : Fault} (h : Lockstep value fault (Run.fail f : Run ω α) s) :
    ∃ g, s = Run.fail g ∧ fault f g := by
  cases h with
  | fail hfg => exact ⟨_, rfl, hfg⟩

/-- When faults are kept as they are, one run ends in a fault just when the other does. -/
theorem outcome_eq_error_iff {f : Fault} (h : Lockstep value Eq r s) :
    r.outcome = .error f ↔ s.outcome = .error f := by
  cases h with
  | pure _ => exact ⟨nofun, nofun⟩
  | fail hfg => simp [Run.fail, hfg]

/-- Two runs in lockstep with a third one, that end in the same faults as it does, are in lockstep
with each other. -/
theorem comp {χ : Type} {r' : Run χ γ} {value' : γ → β → Prop} (h : Lockstep value Eq r s)
    (h' : Lockstep value' Eq r' s) :
    Lockstep (fun a c => ∃ b, value a b ∧ value' c b) Eq r r' := by
  cases h with
  | pure ha =>
    cases h' with
    | pure hc => exact .pure ⟨_, ha, hc⟩
  | fail hf =>
    cases h' with
    | fail hg => exact .fail (hf.trans hg.symm)

end Lockstep

end CallByValue.Run
