import CallByValue.Church
import CallByValue.Proofs.Invariant
import CallByValue.Proofs.Scope
import CallByValue.Proofs.Wording

/-!
# What decoding a numeral ends in

To decode a numeral, the host hands its successor and a zero to a closure of any program. They can
be captured, copied and passed anywhere, applied to the wrong thing or come back as they are. Still
no other host value ever turns up, and nothing that was closed is opened.

* `Church.Injected` — what the host puts in: its successor and natural numbers;
* `Church.Counting` — the invariant: closures of native bodies over such values, at any depth of
  captured environments, that leave no name open;
* `Church.Miscount` — the faults that evaluation can end in then;
* `Church.decodeNumeral_outcomes` — decoding what a closed program gives ends in a natural number or
  in one of these faults.
-/

namespace CallByValue.Church

/-! ## Counting values -/

/-- What the host puts into a program to decode a numeral. -/
inductive Injected : Value → Prop where
  /-- its successor -/
  | successor : Injected successor
  /-- a natural number -/
  | natural (k : Nat) : Injected (.constant (.int k))

/-- The value is made of closures of native bodies and of what the host puts in, and leaves no name
open. -/
structure Counting (v : Value) : Prop where
  /-- of what the value is made, at any depth of captured environments -/
  built : v.BuiltFrom Term.Native Injected
  /-- the value leaves no name open -/
  closed : v.openNames = []

/-- The environment binds values that are made in this way, and leaves none of the free names of the
term open. -/
structure CountingScope (env : Env) (t : Term) : Prop where
  /-- the term is native -/
  native : t.Native
  /-- of what the bound values are made -/
  built : env.BuiltFrom Term.Native Injected
  /-- no name is left open -/
  closed : env.openNamesOf t = []

theorem counting_successor : Counting successor := ⟨.successor, rfl⟩

theorem counting_natural (k : Nat) : Counting (.constant (.int k)) := ⟨.natural k, rfl⟩

namespace Counting

variable {v : Value} {env : Env} {param : String} {body : Term}

/-- A counting value is a closure, or was put in by the host. -/
theorem closure_or_injected (h : Counting v) :
    (∃ env param body, v = .closure env param body) ∨ Injected v := by
  cases v with
  | closure env param body => exact .inl ⟨env, param, body, rfl⟩
  | _ => exact .inr h.built

theorem isProper (h : Counting v) : v.isProper = true := by
  obtain ⟨env, param, body, rfl⟩ | hi := h.closure_or_injected
  · rfl
  · cases hi with
    | successor => rfl
    | natural k => rfl

/-- An abstraction that is evaluated captures a counting scope. -/
theorem of_scope (h : CountingScope env (.abs param body)) : Counting (.closure env param body) :=
  ⟨⟨h.native, h.built⟩, h.closed⟩

end Counting

namespace CountingScope

variable {env : Env}

/-- Scopes are kept by parts of which no more names are open. -/
theorem of_subset {t u : Term} (h : CountingScope env t) (hu : u.Native)
    (hsub : env.openNamesOf u ⊆ env.openNamesOf t) : CountingScope env u :=
  ⟨hu, h.built, List.subset_nil.mp (h.closed ▸ hsub)⟩

/-- Both parts of an application are in scope where it is. -/
theorem parts {fn arg : Term} (h : CountingScope env (.app fn arg)) :
    CountingScope env fn ∧ CountingScope env arg :=
  ⟨h.of_subset h.native.1 (env.openNamesOf_fn fn arg),
    h.of_subset h.native.2 (env.openNamesOf_arg fn arg)⟩

/-- The body of a counting closure is in scope where the parameter is bound to a counting value. -/
theorem body {param : String} {body : Term} {a : Value} (hf : Counting (.closure env param body))
    (ha : Counting a) : CountingScope (env.extend param a) body := by
  have hsub := env.openNamesOf_body param body a
  rw [hf.closed, ha.closed] at hsub
  exact ⟨hf.built.1, ⟨ha.built, hf.built.2⟩, List.subset_nil.mp hsub⟩

/-- A variable that is in scope is bound to a counting value. -/
theorem lookup {x : String} (h : CountingScope env (.var x)) :
    ∃ v, env.lookup x = some v ∧ Counting v := by
  cases hf : env.find? x with
  | none =>
    have hopen : x ∈ env.openNamesOf (.var x) :=
      Env.mem_openNamesOf.mpr (.inl ⟨List.mem_singleton.mpr rfl, (env.find?_eq_none_iff x).mp hf⟩)
    rw [h.closed] at hopen
    cases hopen
  | some v =>
    have hnames : env.openNames ⊆ env.openNamesOf (.var x) := List.subset_append_right _ _
    rw [h.closed] at hnames
    have hv : Counting v := ⟨Env.BuiltFrom.find? h.built hf,
      List.subset_nil.mp (List.Subset.trans (Env.openNames_of_find? hf) hnames)⟩
    exact ⟨v, Env.lookup_of_find? hf (.of_isProper hv.isProper), hv⟩

end CountingScope

/-! ## The invariant -/

/-- How evaluation can fail when a numeral is decoded. -/
inductive Miscount : Fault → Prop where
  /-- a number was applied -/
  | applied (k : Nat) : Miscount (.notApplicable (.constant (.int k)))
  /-- something that holds no number was taken for a numeral -/
  | notANumeral {v : Value} (h : Counting v) (hv : v.integer? = none) : Miscount v.notANumeral
  /-- the limit was reached -/
  | depthExceeded : Miscount .depthExceeded

/-- The run notes nothing, and ends in a counting value or in a miscount. -/
abbrev IsCounting (run : Run Value Value) : Prop :=
  run.Meets (fun _ => False) Counting Miscount

/-- The successor of the host counts on from a number, and refuses a function. -/
theorem Counting.successor {v : Value} (h : Counting v) : IsCounting v.successor := by
  rw [Value.successor]
  obtain ⟨env, param, body, rfl⟩ | hi := h.closure_or_injected
  · exact .fail (.notANumeral h rfl)
  · cases hi with
    | successor => exact .fail (.notANumeral h rfl)
    | natural k => exact .pure (counting_natural (k + 1))

/-- What is not a closure is applied by the host: the successor counts, and a number is no
function. -/
theorem Injected.apply {f a : Value} (hf : Injected f) (ha : Counting a) (n : Nat) :
    IsCounting (CallByValue.apply (n + 1) f a) := by
  cases hf with
  | successor =>
    rw [apply_successor]
    exact ha.successor
  | natural k => exact .fail (.applied k)

/-- Both halves of the invariant, by induction on the limit: in a counting scope, and between
counting values, nothing else comes up. -/
theorem evaluate_apply_counting (n : Nat) :
    (∀ env t, CountingScope env t → IsCounting (evaluate n env t)) ∧
    (∀ f a, Counting f → Counting a → IsCounting (apply n f a)) := by
  induction n with
  | zero =>
    refine ⟨fun env t _ => ?_, fun f a _ _ => ?_⟩
    · rw [evaluate_zero]
      exact .fail .depthExceeded
    · rw [apply_zero]
      exact .fail .depthExceeded
  | succ n ih =>
    obtain ⟨hev, hap⟩ := ih
    refine ⟨fun env t h => ?_, fun f a hf ha => ?_⟩
    · cases t with
      | var x =>
        obtain ⟨v, hl, hv⟩ := h.lookup
        rw [evaluate_var, hl]
        exact .pure hv
      | abs param body => exact .pure (.of_scope h)
      | app fn arg =>
        obtain ⟨hfn, harg⟩ := h.parts
        rw [evaluate_app]
        exact (hev env fn hfn).bind fun f hf => (hev env arg harg).bind fun a ha => hap f a hf ha
      | foreign datum => exact h.native.elim
    · obtain ⟨env, param, body, rfl⟩ | hi := hf.closure_or_injected
      · rw [apply_closure]
        exact hev _ body (.body hf ha)
      · exact hi.apply ha n

/-! ## Decoding -/

/-- A counting value is a natural number, or it holds no number at all. -/
theorem Counting.natural_or_none {v : Value} (h : Counting v) :
    (∃ k : Nat, v = .constant (.int k)) ∨ v.integer? = none := by
  obtain ⟨env, param, body, rfl⟩ | hi := h.closure_or_injected
  · exact .inr rfl
  · cases hi with
    | successor => exact .inr rfl
    | natural k => exact .inl ⟨k, rfl⟩

/-- What is read as a number comes of the value, the successor and zero. -/
theorem Counting.applied {v : Value} (h : Counting v) (n : Nat) :
    IsCounting (apply n v Church.successor >>= fun f => apply n f (.constant (.int 0))) :=
  ((evaluate_apply_counting n).2 v _ h counting_successor).bind fun f hf =>
    (evaluate_apply_counting n).2 f _ hf (counting_natural 0)

/-- Decoding a counting value ends in a natural number or in a miscount. -/
theorem Counting.decodeNumeral {v : Value} (h : Counting v) (n : Nat) :
    (Church.decodeNumeral n v).Meets (fun _ => False) (fun i : Int => ∃ k : Nat, i = k)
      Miscount := by
  rw [Church.decodeNumeral, ← bind_assoc]
  refine (h.applied n).bind fun w hw => ?_
  obtain ⟨env, param, body, rfl⟩ | hi := hw.closure_or_injected
  · exact .fail (.notANumeral hw rfl)
  · cases hi with
    | successor => exact .fail (.notANumeral hw rfl)
    | natural k => exact .pure ⟨k, rfl⟩

/-- What a closed program evaluates to is a counting value. -/
theorem counting_of_evaluate {t : Term} {v : Value} {d : Nat} (ht : t.Native)
    (hc : t.isClosed = true) (hv : (evaluate d .empty t).outcome = .ok v) : Counting v := by
  have hscope : CountingScope .empty t :=
    ⟨ht, trivial, (Env.openNamesOf_empty t).trans (Term.isClosed_iff.mp hc)⟩
  exact ((evaluate_apply_counting d).1 .empty t hscope).result v hv

/-- **What decoding ends in**: what a closed program evaluates to is decoded as a natural number, or
a number was applied, or something that holds no number was taken for a numeral, or the limit on
depth was reached, and there is no other way. So no variable is blamed, the host is not to blame,
and what is read as a number is never a truth value and never negative. -/
theorem decodeNumeral_outcomes {t : Term} {v : Value} {d : Nat} (ht : t.Native)
    (hc : t.isClosed = true) (hv : (evaluate d .empty t).outcome = .ok v) (n : Nat) :
    ((∃ k : Nat, decodeNumeral n v = pure (k : Int)) ∨
      (∃ k : Nat, decodeNumeral n v = .fail (.notApplicable (.constant (.int k)))) ∨
      (∃ (r : Report) (w : Value), decodeNumeral n v = .fail (.report r) ∧ r.internal = false ∧
        w.integer? = none ∧ ∀ host : Text.Host, r.message host =
          "'" ++ host.colored .plain w.display ++ "' is not a Church numeral") ∨
      decodeNumeral n v = .fail .depthExceeded) ∧
    ∀ w, (apply n v successor >>= fun f => apply n f (.constant (.int 0))).outcome = .ok w →
      (∃ k : Nat, w = .constant (.int k)) ∨ w.integer? = none := by
  have hcounting : Counting v := counting_of_evaluate ht hc hv
  refine ⟨?_, fun w hw => ((hcounting.applied n).result w hw).natural_or_none⟩
  obtain ⟨i, ⟨k, rfl⟩, hi⟩ | ⟨fault, hf, hfail⟩ := (hcounting.decodeNumeral n).silent
  · exact .inl ⟨k, hi⟩
  · cases hf with
    | applied k => exact .inr (.inl ⟨k, hfail⟩)
    | @notANumeral w _ hnone =>
      exact .inr (.inr (.inl ⟨_, w, hfail, rfl, hnone, Value.notANumeral_message w.display⟩))
    | depthExceeded => exact .inr (.inr (.inr hfail))

/-- A program that wraps the function it is given, `λf. λx. h (f x)` with a call back `h` that it
has captured. -/
def callingBack : Term :=
  .app (.abs "h" (.abs "f" (.abs "x" (.app (.var "h") (.app (.var "f") (.var "x"))))))
    (.abs "k" (.app (.var "k") (.abs "z" (.var "z"))))

/-- The value of that program. -/
def calledBack : Value :=
  .closure (Env.empty.extend "h" (.closure .empty "k" (.app (.var "k") (.abs "z" (.var "z"))))) "f"
    (.abs "x" (.app (.var "h") (.app (.var "f") (.var "x"))))

/-- Decoding it counts to one, which the captured function then applies. -/
theorem calledBack_applies_a_number :
    callingBack.Native ∧ callingBack.isClosed = true ∧
      (evaluate 3 .empty callingBack).outcome = .ok calledBack ∧
      ∃ k : Nat, decodeNumeral 9 calledBack = .fail (.notApplicable (.constant (.int k))) := by
  have ht : callingBack.Native := by decide
  have hv : (evaluate 3 .empty callingBack).outcome = .ok calledBack := rfl
  refine ⟨ht, rfl, hv, ?_⟩
  obtain ⟨⟨k, h⟩ | h | ⟨r, w, h, -⟩ | h, -⟩ := decodeNumeral_outcomes ht rfl hv 9
  · cases h
  · exact h
  · cases h
  · cases h

end CallByValue.Church
