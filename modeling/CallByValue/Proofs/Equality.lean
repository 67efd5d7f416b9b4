import CallByValue.Church
import CallByValue.Fault
import CallByValue.Proofs.Lockstep
import CallByValue.Proofs.Native

/-!
# Evaluation in equal environments

Equality of values is coarser than being the same: a truth value equals the integer one or zero, and
so on inside lists, constants and captured environments. Evaluation cannot tell equal things apart,
as long as no floating-point number is among them: the successor of the host takes integers only,
and a floating-point number can equal one.

* `Term.eq_of_beq`, `Datum.number?_eq_of_beq` — what equality says of native terms, and of numbers;
* `Value.Comparable`, `Env.Comparable` — native closures, the successor of the host and constants
  that are no floating-point numbers, at any depth of captured environments;
* `Value.Alike`, `Env.Alike` — equality of such values and environments, read part by part;
* `evaluate_apply_alike` — the invariant: under every limit the two evaluations run in lockstep;
* `evaluate_apply_respects_beq` — the same in terms of equality.
-/

namespace CallByValue

/-! ## Equality of terms and data -/

namespace Term

theorem beq_abs (x y : String) (body other : Term) :
    (abs x body == abs y other) = (x == y && body == other) := rfl

theorem beq_app (fn arg fn' arg' : Term) :
    (app fn arg == app fn' arg') = (fn == fn' && arg == arg') := rfl

/-- A native term equals itself. -/
theorem beq_self {t : Term} (ht : t.Native) : (t == t) = true := by
  induction t with
  | var x => exact beq_self_eq_true x
  | abs x body ih => rw [beq_abs, ih ht, beq_self_eq_true, Bool.and_self]
  | app fn arg ihf iha => rw [beq_app, ihf ht.1, iha ht.2, Bool.and_self]
  | foreign d => exact ht.elim

/-- A native term equals no other term. -/
theorem eq_of_beq {t u : Term} (ht : t.Native) (h : (t == u) = true) : t = u := by
  induction t generalizing u with
  | var x =>
    cases u with
    | var y => rw [LawfulBEq.eq_of_beq (α := String) h]
    | _ => cases h
  | abs x body ih =>
    cases u with
    | abs y other =>
      rw [beq_abs, Bool.and_eq_true] at h
      rw [LawfulBEq.eq_of_beq h.1, ih ht h.2]
    | _ => cases h
  | app fn arg ihf iha =>
    cases u with
    | app fn' arg' =>
      rw [beq_app, Bool.and_eq_true] at h
      rw [ihf ht.1 h.1, iha ht.2 h.2]
    | _ => cases h
  | foreign d => exact ht.elim

end Term

namespace Datum

variable {τ : Type} [Embedded τ]

/-- Is the datum a floating-point number? -/
def isFloat : Datum τ → Bool
  | .float _ => true
  | _ => false

/-- Equal data stand for the same number, or for none. -/
theorem number?_eq_of_beq {d e : Datum τ} (h : (d == e) = true) : d.number? = e.number? := by
  have hsame : ∀ {m n : Number}, m.same n = true → some m = some n := by
    intro m n hmn
    rw [Number.same, Bool.and_eq_true] at hmn
    rw [of_decide_eq_true hmn.1]
  change d.beq e = true at h
  unfold beq at h
  split at h
  · rfl
  · rfl
  · rfl
  · rfl
  · split at h
    · next hm hn =>
      rw [hm, hn]
      exact hsame h
    · cases h

/-- An integer equals itself. -/
theorem int_beq_self (i : Int) : ((.int i : Datum τ) == .int i) = true := by
  simp [BEq.beq, beq, number?, Number.same]

end Datum

/-- The integer that a number is, if it is one. -/
def Number.whole? : Number → Option Int
  | .whole i => some i
  | .other _ => none

/-- Unless it is a floating-point number, the integer that a constant holds is the number it stands
for. -/
theorem Value.integer?_constant {d : Datum Term} (h : d.isFloat = false) :
    (Value.constant d).integer? = d.number?.bind Number.whole? := by
  cases d with
  | float decimal => cases h
  | _ => rfl

/-! ## Values that can be compared -/

/-- The value is made of closures of native bodies, the successor of the host and constants that are
no floating-point numbers. -/
def Value.Comparable (value : Value) : Prop :=
  value.BuiltFrom Term.Native fun v =>
    v = Church.successor ∨ ∃ d, v = .constant d ∧ d.isFloat = false

/-- The environment binds such values only. -/
def Env.Comparable (env : Env) : Prop :=
  env.BuiltFrom Term.Native fun v =>
    v = Church.successor ∨ ∃ d, v = .constant d ∧ d.isFloat = false

mutual

/-- The values are equal part by part. -/
inductive Value.Alike : Value → Value → Prop where
  /-- closures of one abstraction over equal environments -/
  | closure {env env' : Env} (param : String) {body : Term} (hb : body.Native)
    (h : Env.Alike env env') : Value.Alike (.closure env param body) (.closure env' param body)
  /-- the successor of the host -/
  | successor : Value.Alike Church.successor Church.successor
  /-- constants with equal data -/
  | constant {d e : Datum Term} (hd : d.isFloat = false) (he : e.isFloat = false)
    (h : (d == e) = true) : Value.Alike (.constant d) (.constant e)

/-- The environments bind the same names to equal values, layer by layer. -/
inductive Env.Alike : Env → Env → Prop where
  /-- nothing is bound -/
  | empty : Env.Alike .empty .empty
  /-- one more binding of the same name -/
  | extend {env env' : Env} {v w : Value} (name : String) (h : Env.Alike env env')
    (hv : Value.Alike v w) : Env.Alike (env.extend name v) (env'.extend name w)

end

theorem Value.beq_closure (env env' : Env) (param param' : String) (body body' : Term) :
    (Value.closure env param body == .closure env' param' body') =
      (env == env' && param == param' && body == body') := rfl

theorem Env.beq_extend (env env' : Env) (name name' : String) (v w : Value) :
    (env.extend name v == env'.extend name' w) = (name == name' && v == w && env == env') := rfl

mutual

/-- Equal values are equal part by part. -/
theorem Value.alike_of_beq : ∀ {v w : Value}, v.Comparable → w.Comparable → (v == w) = true →
    v.Alike w
  | .closure env param body, .closure env' param' body', hv, hw, h => by
    rw [Value.beq_closure, Bool.and_eq_true, Bool.and_eq_true] at h
    obtain ⟨⟨henv, hparam⟩, hbody⟩ := h
    obtain rfl := LawfulBEq.eq_of_beq hparam
    obtain rfl := Term.eq_of_beq hv.1 hbody
    exact .closure param hv.1 (Env.alike_of_beq hv.2 hw.2 henv)
  | .primitive _ _, .primitive _ _, .inl hv, .inl hw, _ => by
    rw [hv, hw]
    exact .successor
  | .constant _, .constant _, .inr ⟨d, hd, hdf⟩, .inr ⟨e, he, hef⟩, h => by
    cases hd
    cases he
    exact .constant hdf hef h

/-- Equal environments are equal layer by layer. -/
theorem Env.alike_of_beq : ∀ {env env' : Env}, env.Comparable → env'.Comparable →
    (env == env') = true → env.Alike env'
  | .empty, .empty, _, _, _ => .empty
  | .extend env name v, .extend env' name' w, henv, henv', h => by
    rw [Env.beq_extend, Bool.and_eq_true, Bool.and_eq_true] at h
    obtain ⟨⟨hname, hv⟩, hparent⟩ := h
    obtain rfl := LawfulBEq.eq_of_beq hname
    exact .extend name (Env.alike_of_beq henv.2 henv'.2 hparent)
      (Value.alike_of_beq henv.1 henv'.1 hv)

end

mutual

/-- What is equal part by part is equal. -/
theorem Value.Alike.beq : ∀ {v w : Value}, v.Alike w → (v == w) = true
  | _, _, .closure param hb h => by
    rw [Value.beq_closure, Env.Alike.beq h, beq_self_eq_true, Term.beq_self hb]
    rfl
  | _, _, .successor => beq_self_eq_true "succ"
  | _, _, .constant _ _ h => h

/-- What is equal layer by layer is equal. -/
theorem Env.Alike.beq : ∀ {env env' : Env}, env.Alike env' → (env == env') = true
  | _, _, .empty => rfl
  | _, _, .extend name h hv => by
    rw [Env.beq_extend, Env.Alike.beq h, Value.Alike.beq hv, beq_self_eq_true]
    rfl

end

namespace Value.Alike

variable {v w : Value}

/-- What equals something in this way is no foreign object, so it can be looked up. -/
theorem present (h : v.Alike w) : v.Present ∧ w.Present := by
  cases h with
  | closure param hb h => exact ⟨nofun, nofun⟩
  | successor => exact ⟨nofun, nofun⟩
  | constant hd he h => exact ⟨nofun, nofun⟩

/-- Equal values hold the same integer, or both hold none. -/
theorem integer? (h : v.Alike w) : v.integer? = w.integer? := by
  cases h with
  | closure param hb h => rfl
  | successor => rfl
  | constant hd he h =>
    rw [Value.integer?_constant hd, Value.integer?_constant he, Datum.number?_eq_of_beq h]

end Value.Alike

/-- Equal environments have equal values for a name, or none. -/
theorem Env.Alike.lookup (x : String) : ∀ {env env' : Env}, env.Alike env' →
    Option.Rel Value.Alike (env.lookup x) (env'.lookup x)
  | _, _, .empty => .none
  | _, _, @Env.Alike.extend env env' v w name h hv => by
    by_cases hx : name = x
    · subst hx
      rw [Env.lookup_extend_self env name hv.present.1, Env.lookup_extend_self env' name hv.present.2]
      exact .some hv
    · rw [Env.lookup_extend_ne env v hx, Env.lookup_extend_ne env' w hx]
      exact Env.Alike.lookup x h

/-! ## The invariant -/

/-- Faults of one class. If a variable is blamed it is the same one. -/
structure Fault.SameClass (f g : Fault) : Prop where
  /-- the limit on depth, too, is a class of its own -/
  className_eq : f.className = g.className
  /-- the same variable is blamed -/
  unbound : ∀ x, f = .unbound x → g = .unbound x

theorem Fault.SameClass.refl (f : Fault) : f.SameClass f := ⟨rfl, fun _ h => h⟩

/-- Equal values give the same successor, or are both refused. -/
theorem Value.Alike.successor_lockstep {a a' : Value} (h : a.Alike a') :
    Run.Lockstep Value.Alike Fault.SameClass a.successor a'.successor := by
  cases hi : a'.integer? with
  | none =>
    rw [Value.successor_of_none hi, Value.successor_of_none (h.integer?.trans hi)]
    exact .fail ⟨rfl, nofun⟩
  | some i =>
    rw [Value.successor_of_some hi, Value.successor_of_some (h.integer?.trans hi)]
    exact .pure (.constant rfl rfl (Datum.int_beq_self _))

/-- Both halves of the invariant, by induction on the limit: what is equal going in is equal coming
out. -/
theorem evaluate_apply_alike (n : Nat) :
    (∀ {env env' : Env} {t : Term}, env.Alike env' → t.Native →
      Run.Lockstep Value.Alike Fault.SameClass (evaluate n env t) (evaluate n env' t)) ∧
    (∀ {f f' a a' : Value}, f.Alike f' → a.Alike a' →
      Run.Lockstep Value.Alike Fault.SameClass (apply n f a) (apply n f' a')) := by
  induction n with
  | zero =>
    refine ⟨fun {env env' t} _ _ => ?_, fun {f f' a a'} _ _ => ?_⟩
    · rw [evaluate_zero, evaluate_zero]
      exact .fail (.refl _)
    · rw [apply_zero, apply_zero]
      exact .fail (.refl _)
  | succ n ih =>
    obtain ⟨hev, hap⟩ := ih
    refine ⟨fun {env env' t} henv ht => ?_, fun {f f' a a'} hf ha => ?_⟩
    · cases t with
      | var x =>
        rw [evaluate_var, evaluate_var]
        have hrel := henv.lookup x
        generalize env.lookup x = found, env'.lookup x = found' at hrel ⊢
        cases hrel with
        | some hv => exact .pure hv
        | none => exact .fail (.refl _)
      | abs param body => exact .pure (.closure param ht henv)
      | app fn arg =>
        rw [evaluate_app, evaluate_app]
        exact (hev henv ht.1).bind fun f f' hf => (hev henv ht.2).bind fun a a' ha => hap hf ha
      | foreign datum => exact ht.elim
    · cases hf with
      | closure param hb h =>
        rw [apply_closure, apply_closure]
        exact hev (.extend param h ha) hb
      | successor =>
        rw [Church.apply_successor, Church.apply_successor]
        exact ha.successor_lockstep
      | constant hd he h => exact .fail ⟨rfl, nofun⟩

/-! ## Equal environments -/

/-- **Evaluation respects equality**: in equal environments a native term gives equal values, or
faults of one class that blame the same variable, under every limit; and so does the application of
equal functions to equal arguments. -/
theorem evaluate_apply_respects_beq (n : Nat) :
    (∀ (env env' : Env) (t : Term), env.Comparable → env'.Comparable → (env == env') = true →
      t.Native → Run.Lockstep (fun v w => (v == w) = true) Fault.SameClass (evaluate n env t)
        (evaluate n env' t)) ∧
    (∀ f f' a a' : Value, f.Comparable → f'.Comparable → (f == f') = true →
      a.Comparable → a'.Comparable → (a == a') = true →
      Run.Lockstep (fun v w => (v == w) = true) Fault.SameClass (apply n f a) (apply n f' a')) := by
  obtain ⟨hev, hap⟩ := evaluate_apply_alike n
  refine ⟨fun env env' t henv henv' h ht => ?_, fun f f' a a' hf hf' hff ha ha' haa => ?_⟩
  · have halike : env.Alike env' := Env.alike_of_beq henv henv' h
    exact (hev halike ht).mono (fun _ _ => Value.Alike.beq) fun _ _ => id
  · have hfalike : f.Alike f' := Value.alike_of_beq hf hf' hff
    have haalike : a.Alike a' := Value.alike_of_beq ha ha' haa
    exact (hap hfalike haalike).mono (fun _ _ => Value.Alike.beq) fun _ _ => id

/-- An environment with a function that counts on from the number it has captured, and with a list
of that number. -/
def counter (number : Datum Term) : Env :=
  ((Env.empty.extend "all" (.constant (.list [number, .text "1"]))).extend "next"
    (.closure ((Env.empty.extend "succ" Church.successor).extend "n" (.constant number)) "unit"
      (.app (.var "succ") (.var "n"))))

theorem counter_comparable {number : Datum Term} (h : number.isFloat = false) :
    (counter number).Comparable :=
  ⟨⟨⟨trivial, trivial⟩, .inr ⟨number, rfl, h⟩, .inl rfl, trivial⟩, .inr ⟨_, rfl, rfl⟩, trivial⟩

/-- One and truth are equal, also in a list and in a captured environment, and both are counted on
to two. -/
theorem counter_respects_beq :
    (counter (.int 1)).Comparable ∧ (counter (.bool true)).Comparable ∧
      (counter (.int 1) == counter (.bool true)) = true ∧
      (Term.app (.var "next") (.var "all")).Native ∧
      Run.Lockstep (fun v w => (v == w) = true) Fault.SameClass
        (evaluate 4 (counter (.int 1)) (.app (.var "next") (.var "all")))
        (evaluate 4 (counter (.bool true)) (.app (.var "next") (.var "all"))) ∧
      evaluate 4 (counter (.bool true)) (.app (.var "next") (.var "all")) =
        pure (.constant (.int 2)) := by
  have hint : (counter (.int 1)).Comparable := counter_comparable rfl
  have hbool : (counter (.bool true)).Comparable := counter_comparable rfl
  have heq : (counter (.int 1) == counter (.bool true)) = true := by decide
  have ht : (Term.app (.var "next") (.var "all")).Native := by decide
  exact ⟨hint, hbool, heq, ht, (evaluate_apply_respects_beq 4).1 _ _ _ hint hbool heq ht, rfl⟩

end CallByValue
