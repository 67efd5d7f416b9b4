import CallByValue.Proofs.Native

/-!
# Invariants of evaluation

Evaluation moves values around by a handful of rules: a value is looked up, captured, passed to a
body or handed to a host function. A condition that each of these rules keeps is kept by every run,
however long.

* `Run.Meets` — conditions on what a run notes, on its result and on its fault;
* `Invariant` — conditions on values, environments, terms and faults that the rules keep;
* `Invariant.evaluate_apply` — the induction over runs, made once for all invariants.
-/

namespace CallByValue

namespace Run

variable {ω α β : Type} {note : ω → Prop} {result : α → Prop} {fault : Fault → Prop}

/-- All that the run notes satisfies `note`, its result satisfies `result`, and if it ends in a
fault that satisfies `fault`. -/
structure Meets (note : ω → Prop) (result : α → Prop) (fault : Fault → Prop) (run : Run ω α) :
    Prop where
  /-- what is noted on the way -/
  notes : ∀ o ∈ run.notes, note o
  /-- a result -/
  result : ∀ a, run.outcome = .ok a → result a
  /-- a fault -/
  fault : ∀ f, run.outcome = .error f → fault f

theorem Meets.pure {a : α} (h : result a) : (pure a : Run ω α).Meets note result fault where
  notes _ ho := by cases ho
  result _ ha := Except.ok.inj ha ▸ h
  fault _ hf := by cases hf

theorem Meets.fail {f : Fault} (h : fault f) : (fail f : Run ω α).Meets note result fault where
  notes _ ho := by cases ho
  result _ ha := by cases ha
  fault _ hf := Except.error.inj hf ▸ h

/-- A result that is noted itself. -/
theorem Meets.noted {o : ω} (hn : note o) {a : α} (hr : result a) :
    (⟨[o], .ok a⟩ : Run ω α).Meets note result fault where
  notes _ hmem := List.mem_singleton.mp hmem ▸ hn
  result _ ha := Except.ok.inj ha ▸ hr
  fault _ hf := by cases hf

/-- What follows a result has to meet the conditions for results that do. -/
theorem Meets.bind {run : Run ω α} {next : α → Run ω β} {result' : β → Prop}
    (h : run.Meets note result fault)
    (hn : ∀ a, result a → (next a).Meets note result' fault) :
    (run >>= next).Meets note result' fault := by
  cases ho : run.outcome with
  | error f =>
    rw [bind_of_error ho]
    exact ⟨h.notes, nofun, fun g hg => Except.error.inj hg ▸ h.fault f ho⟩
  | ok a =>
    have hnext := hn a (h.result a ho)
    rw [bind_of_ok ho]
    refine ⟨fun o hmem => ?_, hnext.result, hnext.fault⟩
    rcases List.mem_append.mp hmem with hmem | hmem
    · exact h.notes o hmem
    · exact hnext.notes o hmem

/-- A run that can note nothing just ends. -/
theorem Meets.silent {run : Run ω α} (h : run.Meets (fun _ => False) result fault) :
    (∃ a, result a ∧ run = Pure.pure a) ∨ ∃ f, fault f ∧ run = Run.fail f := by
  have hn : run.notes = [] := List.eq_nil_iff_forall_not_mem.mpr h.notes
  cases ho : run.outcome with
  | ok a => exact .inl ⟨a, h.result a ho, ext hn ho⟩
  | error f => exact .inr ⟨f, h.fault f ho, ext hn ho⟩

end Run

/-- Conditions that every rule of evaluation keeps. -/
structure Invariant where
  /-- the condition on values that are bound, applied, noted and given back -/
  value : Value → Prop
  /-- the condition on environments that terms are evaluated in -/
  env : Env → Prop
  /-- the condition on terms that are evaluated -/
  term : Term → Prop
  /-- the condition on faults that runs end in -/
  fault : Fault → Prop
  /-- a binding of an environment can be taken off and looked at -/
  bound : ∀ {e name v}, env (.extend e name v) → value v ∧ env e
  /-- an abstraction captures the environment -/
  capture : ∀ {e param body}, env e → term (.abs param body) → value (.closure e param body)
  /-- both parts of an application are evaluated -/
  parts : ∀ {fn arg}, term (.app fn arg) → term fn ∧ term arg
  /-- the body of a closure is evaluated with the argument bound -/
  enter : ∀ {e param body a}, value (.closure e param body) → value a →
    env (.extend e param a) ∧ term body
  /-- a host function acts on the argument, and may call one value with another -/
  perform : ∀ {name action a} {call : Value → Value → Run Value Value},
    value (.primitive name action) → value a →
    (∀ f b, value f → value b → (call f b).Meets value value fault) →
    (action.perform call a >>= Value.accept name).Meets value value fault
  /-- a variable without a binding is blamed -/
  unbound : ∀ {x}, term (.var x) → fault (.unbound x)
  /-- host data is no term -/
  notATerm : ∀ {datum}, term (.foreign datum) → fault (.host (.notATerm datum))
  /-- something was applied that is no function -/
  notApplicable : ∀ {v}, value v → fault (.notApplicable v)
  /-- the limit on depth was reached -/
  depthExceeded : fault .depthExceeded

namespace Invariant

variable (I : Invariant)

/-- What is found in an environment satisfies the condition on values. -/
theorem find? {x : String} {v : Value} : ∀ {e : Env}, I.env e → e.find? x = some v → I.value v
  | .empty, _, h => by cases h
  | .extend parent name w, he, h => by
    obtain ⟨hw, hp⟩ := I.bound he
    rw [Env.find?] at h
    split at h
    · obtain rfl := Option.some.inj h
      exact hw
    · exact find? hp h

/-- A variable is looked up, or blamed. -/
theorem evaluate_var (n : Nat) {e : Env} {x : String} (he : I.env e) (hx : I.term (.var x)) :
    (evaluate (n + 1) e (.var x)).Meets I.value I.value I.fault := by
  rw [CallByValue.evaluate_var]
  cases hl : e.lookup x with
  | none => exact .fail (I.unbound hx)
  | some v => exact .pure (I.find? he (Env.find?_of_lookup hl).1)

/-- Both halves, by induction on the limit: every evaluation and every application keeps an
invariant. -/
theorem evaluate_apply (n : Nat) :
    (∀ e t, I.env e → I.term t → (evaluate n e t).Meets I.value I.value I.fault) ∧
    (∀ f a, I.value f → I.value a → (apply n f a).Meets I.value I.value I.fault) := by
  induction n with
  | zero =>
    refine ⟨fun e t _ _ => ?_, fun f a _ _ => ?_⟩
    · rw [evaluate_zero]
      exact .fail I.depthExceeded
    · rw [apply_zero]
      exact .fail I.depthExceeded
  | succ n ih =>
    obtain ⟨hev, hap⟩ := ih
    refine ⟨fun e t he ht => ?_, fun f a hf ha => ?_⟩
    · cases t with
      | var x => exact I.evaluate_var n he ht
      | abs param body => exact .pure (I.capture he ht)
      | app fn arg =>
        obtain ⟨hfn, harg⟩ := I.parts ht
        rw [evaluate_app]
        exact (hev e fn he hfn).bind fun f hf => (hev e arg he harg).bind fun a ha => hap f a hf ha
      | foreign datum => exact .fail (I.notATerm ht)
    · cases f with
      | closure e param body =>
        obtain ⟨he, hb⟩ := I.enter hf ha
        exact hev _ body he hb
      | primitive name action =>
        rw [apply_primitive]
        exact I.perform hf ha hap
      | constant datum => exact .fail (I.notApplicable hf)
      | foreign datum => exact .fail (I.notApplicable hf)

end Invariant

end CallByValue
