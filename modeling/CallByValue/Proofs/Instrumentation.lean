import CallByValue.Proofs.Agreement
import CallByValue.Proofs.Following
import CallByValue.Proofs.FreeNames
import CallByValue.Proofs.Invariant

/-!
# Instrumented terms

To watch a term being evaluated, a host binds a function that gives its argument back, and parts of
the term are handed to it. Each part is evaluated once and in order anyway, and closures look the
function up where they were made, so nothing else changes: the term ends as it did.

* `Term.instrument` — the term in which marked parts are handed to a function;
* `Term.strip`, `Value.strip`, `Env.strip` — calls of the function and its bindings taken out again;
* `Term.SameUpTo`, `Value.SameUpTo`, `Env.SameUpTo` — the same up to calls and bindings of the
  function, on either side;
* `FollowsUnder`, `followsUnder` — what is the same up to calls comes to the same end;
* `identity_unobservable` — so an instrumented term ends as the term itself does.
-/

namespace CallByValue

/-- A function of the host that notes its argument and gives it back. -/
def Value.echo (label : String) : Value := .primitive label .spy

/-! ## Instrumenting and stripping -/

namespace Term

/-- The names that occur in a term, as variables or as parameters. -/
def names : Term → List String
  | var x => [x]
  | abs x body => x :: body.names
  | app fn arg => fn.names ++ arg.names
  | foreign _ => []

/-- The term handed to the function `p`, if it is `marked`. -/
def handTo (p : String) (marked : Bool) (t : Term) : Term :=
  if marked then app (var p) t else t

/-- The term in which each part at a marked path is handed to the function `p`. -/
def instrument (p : String) : Term → (marked : Path → Bool) → Term
  | var x, marked => handTo p (marked []) (var x)
  | abs x body, marked => handTo p (marked [])
      (abs x (body.instrument p fun path => marked (.body :: path)))
  | app fn arg, marked => handTo p (marked [])
      (app (fn.instrument p fun path => marked (.fn :: path))
        (arg.instrument p fun path => marked (.arg :: path)))
  | foreign d, marked => handTo p (marked []) (foreign d)

/-- The term with the argument in place of each call of the function `p`. -/
def strip (p : String) : Term → Term
  | var x => var x
  | abs x body => abs x (body.strip p)
  | app (var x) arg => if x = p then arg.strip p else app (var x) (arg.strip p)
  | app fn arg => app (fn.strip p) (arg.strip p)
  | foreign d => foreign d

theorem strip_call (p : String) (arg : Term) : (app (var p) arg).strip p = arg.strip p := by
  simp [strip]

/-- An application of anything else is kept. -/
theorem strip_app {p : String} {fn : Term} (h : fn ≠ var p) (arg : Term) :
    (app fn arg).strip p = app (fn.strip p) (arg.strip p) := by
  cases fn with
  | var x =>
    have hx : x ≠ p := fun hx => h (hx ▸ rfl)
    simp [strip, hx]
  | _ => rfl

theorem not_mem_names_abs {p x : String} {body : Term} :
    p ∉ (abs x body).names ↔ x ≠ p ∧ p ∉ body.names := by
  rw [names, List.mem_cons, not_or, ne_comm]

theorem not_mem_names_app {p : String} {fn arg : Term} :
    p ∉ (app fn arg).names ↔ p ∉ fn.names ∧ p ∉ arg.names := by
  rw [names, List.mem_append, not_or]

/-- What is free in a term occurs in it. -/
theorem freeNames_subset_names (t : Term) : t.freeNames ⊆ t.names := by
  induction t with
  | var x => exact List.Subset.refl _
  | abs x body ih =>
    intro y hy
    exact List.mem_cons_of_mem x (ih (mem_freeNames_abs.mp hy).1)
  | app fn arg ihf iha =>
    exact List.append_subset.mpr ⟨List.subset_append_of_subset_left _ ihf,
      List.subset_append_of_subset_right _ iha⟩
  | foreign d => exact List.Subset.refl _

end Term

mutual

/-- The value with calls of the function `p` taken out of closure bodies, and its bindings out of
captured environments. -/
def Value.strip (p : String) : Value → Value
  | .closure env param body => .closure (env.strip p) param (body.strip p)
  | value => value

/-- The environment without the bindings of `p`, and with stripped values. -/
def Env.strip (p : String) : Env → Env
  | .empty => .empty
  | .extend parent name value =>
    if name = p then parent.strip p else (parent.strip p).extend name (value.strip p)

end

mutual

/-- The value is made of closures in which the name `p` does not occur, constants and the successor
of the host. -/
def Value.Avoids (p : String) : Value → Prop
  | .closure env param body => p ∉ (Term.abs param body).names ∧ env.Avoids p
  | .primitive name action => Value.primitive name action = Church.successor
  | .constant _ => True
  | .foreign _ => False

/-- The environment binds only such values, and does not bind the name `p`. -/
def Env.Avoids (p : String) : Env → Prop
  | .empty => True
  | .extend parent name value => name ≠ p ∧ value.Avoids p ∧ parent.Avoids p

end

/-! ## The same up to calls -/

section SameUpTo

variable (p label : String)

/-- The terms are the same up to calls of the function `p`, and its name occurs nowhere else. -/
inductive Term.SameUpTo : Term → Term → Prop where
  /-- a variable -/
  | var {x : String} (hx : x ≠ p) : Term.SameUpTo (.var x) (.var x)
  /-- an abstraction -/
  | abs {x : String} {body body' : Term} (hx : x ≠ p) (h : Term.SameUpTo body body') :
    Term.SameUpTo (.abs x body) (.abs x body')
  /-- an application -/
  | app {fn fn' arg arg' : Term} (hf : Term.SameUpTo fn fn') (ha : Term.SameUpTo arg arg') :
    Term.SameUpTo (.app fn arg) (.app fn' arg')
  /-- host data -/
  | foreign (d : Datum Empty) : Term.SameUpTo (.foreign d) (.foreign d)
  /-- a call on the left -/
  | callLeft {t u : Term} (h : Term.SameUpTo t u) : Term.SameUpTo (.app (.var p) t) u
  /-- a call on the right -/
  | callRight {t u : Term} (h : Term.SameUpTo t u) : Term.SameUpTo t (.app (.var p) u)

/-- If the function `p` is called in the term, the environment binds it. -/
def Env.Serves (env : Env) (t : Term) : Prop := p ∈ t.freeNames → p ∈ env.names

mutual

/-- The values are the same up to calls of the function `p`, which is bound where it is called. -/
inductive Value.SameUpTo : Value → Value → Prop where
  /-- a constant -/
  | constant (d : Datum Term) : Value.SameUpTo (.constant d) (.constant d)
  /-- the successor of the host -/
  | successor : Value.SameUpTo Church.successor Church.successor
  /-- a closure -/
  | closure {env env' : Env} {param : String} {body body' : Term}
    (h : Env.SameUpTo env env') (hb : Term.SameUpTo p (.abs param body) (.abs param body'))
    (hs : env.Serves p (.abs param body)) (hs' : env'.Serves p (.abs param body')) :
    Value.SameUpTo (.closure env param body) (.closure env' param body')

/-- The environments are the same up to bindings of the function `p`, and bind its name to nothing
else. -/
inductive Env.SameUpTo : Env → Env → Prop where
  /-- nothing is bound -/
  | empty : Env.SameUpTo .empty .empty
  /-- one more binding of another name -/
  | extend {env env' : Env} {x : String} {v w : Value} (hx : x ≠ p)
    (h : Env.SameUpTo env env') (hv : Value.SameUpTo v w) :
    Env.SameUpTo (env.extend x v) (env'.extend x w)
  /-- a binding of the function on the left -/
  | callLeft {env env' : Env} (h : Env.SameUpTo env env') :
    Env.SameUpTo (env.extend p (.echo label)) env'
  /-- a binding of the function on the right -/
  | callRight {env env' : Env} (h : Env.SameUpTo env env') :
    Env.SameUpTo env (env'.extend p (.echo label))

end

end SameUpTo

variable {p label : String}

namespace Term

namespace SameUpTo

variable {t u : Term}

theorem symm (h : SameUpTo p t u) : SameUpTo p u t := by
  induction h with
  | var hx => exact .var hx
  | abs hx _ ih => exact .abs hx ih
  | app _ _ ihf iha => exact .app ihf iha
  | foreign d => exact .foreign d
  | callLeft _ ih => exact .callRight ih
  | callRight _ ih => exact .callLeft ih

/-- The function is called only, and never occurs by itself. -/
theorem ne_var (h : SameUpTo p t u) : t ≠ .var p := by
  induction h with
  | var hx => exact fun h => hx (Term.var.inj h)
  | callRight _ ih => exact ih
  | _ => exact nofun

/-- A term in which the name of the function does not occur is the same as itself. -/
theorem refl {t : Term} (h : p ∉ t.names) : SameUpTo p t t := by
  induction t with
  | var x => exact .var (List.ne_of_not_mem_cons h).symm
  | abs x body ih =>
    obtain ⟨hx, hb⟩ := not_mem_names_abs.mp h
    exact .abs hx (ih hb)
  | app fn arg ihf iha =>
    obtain ⟨hf, ha⟩ := not_mem_names_app.mp h
    exact .app (ihf hf) (iha ha)
  | foreign d => exact .foreign d

theorem handTo (h : SameUpTo p t u) (marked : Bool) : SameUpTo p t (u.handTo p marked) := by
  cases marked with
  | true => exact .callRight h
  | false => exact h

/-- An instrumented term is the same as the term itself. -/
theorem instrument {t : Term} (h : p ∉ t.names) (marked : Path → Bool) :
    SameUpTo p t (t.instrument p marked) := by
  induction t generalizing marked with
  | var x => exact (refl h).handTo _
  | abs x body ih =>
    obtain ⟨hx, hb⟩ := not_mem_names_abs.mp h
    exact handTo (.abs hx (ih hb _)) _
  | app fn arg ihf iha =>
    obtain ⟨hf, ha⟩ := not_mem_names_app.mp h
    exact handTo (.app (ihf hf _) (iha ha _)) _
  | foreign d => exact handTo (.foreign d) _

/-- Abstractions that are the same have bodies that are. -/
theorem abs_inv {x : String} {body body' : Term} (h : SameUpTo p (.abs x body) (.abs x body')) :
    x ≠ p ∧ SameUpTo p body body' := by
  cases h with
  | abs hx hb => exact ⟨hx, hb⟩

/-- What is the same up to calls is the same when the calls are taken out. -/
theorem strip_eq (h : SameUpTo p t u) : t.strip p = u.strip p := by
  induction h with
  | var hx => rfl
  | abs hx _ ih => rw [strip, strip, ih]
  | app hf _ ihf iha => rw [strip_app hf.ne_var, strip_app hf.symm.ne_var, ihf, iha]
  | foreign d => rfl
  | callLeft _ ih => rw [strip_call, ih]
  | callRight _ ih => rw [strip_call, ih]

end SameUpTo

/-- There are no calls to take out of a term in which the name does not occur. -/
theorem strip_eq_self {t : Term} (h : p ∉ t.names) : t.strip p = t := by
  induction t with
  | var x => rfl
  | abs x body ih => rw [strip, ih (not_mem_names_abs.mp h).2]
  | app fn arg ihf iha =>
    obtain ⟨hf, ha⟩ := not_mem_names_app.mp h
    rw [strip_app (SameUpTo.refl hf).ne_var, ihf hf, iha ha]
  | foreign d => rfl

/-- Taking the calls out of an instrumented term gives the term back. -/
theorem strip_instrument {t : Term} (h : p ∉ t.names) (marked : Path → Bool) :
    (t.instrument p marked).strip p = t := by
  rw [← (SameUpTo.instrument h marked).strip_eq, strip_eq_self h]

end Term

namespace Env.Serves

variable {env : Env} {t : Term}

theorem mono {u : Term} (h : env.Serves p t) (hsub : u.freeNames ⊆ t.freeNames) :
    env.Serves p u :=
  fun hp => h (hsub hp)

/-- Inside an abstraction there is one more binding. -/
theorem enter {x : String} {body : Term} (h : env.Serves p (.abs x body)) (hx : x ≠ p)
    (v : Value) : (env.extend x v).Serves p body := by
  intro hp
  exact List.mem_cons_of_mem x (h (Term.mem_freeNames_abs.mpr ⟨hp, Ne.symm hx⟩))

theorem of_avoids (h : p ∉ t.names) : env.Serves p t :=
  fun hp => absurd (t.freeNames_subset_names hp) h

end Env.Serves

-- the `induction` tactic does not take mutual relations: these proofs recurse on derivations
mutual

theorem Value.SameUpTo.symm {v w : Value} (h : v.SameUpTo p label w) : w.SameUpTo p label v :=
  match h with
  | .constant d => .constant d
  | .successor => .successor
  | .closure h hb hs hs' => .closure (Env.SameUpTo.symm h) hb.symm hs' hs

theorem Env.SameUpTo.symm {env env' : Env} (h : env.SameUpTo p label env') :
    env'.SameUpTo p label env :=
  match h with
  | .empty => .empty
  | .extend hx h hv => .extend hx (Env.SameUpTo.symm h) (Value.SameUpTo.symm hv)
  | .callLeft h => .callRight (Env.SameUpTo.symm h)
  | .callRight h => .callLeft (Env.SameUpTo.symm h)

end

mutual

theorem Value.SameUpTo.strip_eq {v w : Value} (h : v.SameUpTo p label w) :
    v.strip p = w.strip p :=
  match h with
  | .constant d => rfl
  | .successor => rfl
  | .closure h hb _ _ => by
    have hbody := Term.abs.inj hb.strip_eq
    rw [Value.strip, Value.strip, Env.SameUpTo.strip_eq h, hbody.2]

theorem Env.SameUpTo.strip_eq {env env' : Env} (h : env.SameUpTo p label env') :
    env.strip p = env'.strip p :=
  match h with
  | .empty => rfl
  | .extend hx h hv => by
    rw [Env.strip, Env.strip, if_neg hx, if_neg hx, Env.SameUpTo.strip_eq h,
      Value.SameUpTo.strip_eq hv]
  | .callLeft h => by rw [Env.strip, if_pos rfl, Env.SameUpTo.strip_eq h]
  | .callRight h => by rw [Env.strip, if_pos rfl, Env.SameUpTo.strip_eq h]

end

/-! ### Values without the name -/

mutual

/-- A value in which the name does not occur is the same as itself. -/
theorem Value.Avoids.sameUpTo : ∀ {v : Value}, v.Avoids p → v.SameUpTo p label v
  | .closure _ _ _, ⟨ht, henv⟩ =>
    .closure (Env.Avoids.sameUpTo henv) (.refl ht) (.of_avoids ht) (.of_avoids ht)
  | .primitive _ _, h => h ▸ .successor
  | .constant datum, _ => .constant datum

theorem Env.Avoids.sameUpTo : ∀ {env : Env}, env.Avoids p → env.SameUpTo p label env
  | .empty, _ => .empty
  | .extend _ _ _, ⟨hx, hv, henv⟩ =>
    .extend hx (Env.Avoids.sameUpTo henv) (Value.Avoids.sameUpTo hv)

end

mutual

/-- There is nothing to take out of a value in which the name does not occur. -/
theorem Value.Avoids.strip_eq_self : ∀ {v : Value}, v.Avoids p → v.strip p = v
  | .closure _ _ _, ⟨ht, henv⟩ => by
    have hbody := Term.strip_eq_self (Term.not_mem_names_abs.mp ht).2
    rw [Value.strip, Env.Avoids.strip_eq_self henv, hbody]
  | .primitive _ _, _ => rfl
  | .constant _, _ => rfl

theorem Env.Avoids.strip_eq_self : ∀ {env : Env}, env.Avoids p → env.strip p = env
  | .empty, _ => rfl
  | .extend _ _ _, ⟨hx, hv, henv⟩ => by
    rw [Env.strip, if_neg hx, Env.Avoids.strip_eq_self henv, Value.Avoids.strip_eq_self hv]

end

/-- The successor of the host gives a constant, or complains. -/
theorem Value.successor_avoids (a : Value) :
    a.successor.Meets (Value.Avoids p) (Value.Avoids p) fun _ => True := by
  cases h : a.integer? with
  | some i =>
    rw [Value.successor_of_some h]
    exact .pure trivial
  | none =>
    rw [Value.successor_of_none h]
    exact .fail trivial

/-- A name that does not occur to begin with never does. -/
def avoidance (p : String) : Invariant where
  value := Value.Avoids p
  env := Env.Avoids p
  term t := p ∉ t.names
  fault _ := True
  bound h := h.2
  capture henv ht := ⟨ht, henv⟩
  parts h := Term.not_mem_names_app.mp h
  enter h ha :=
    ⟨⟨(Term.not_mem_names_abs.mp h.1).1, ha, h.2⟩, (Term.not_mem_names_abs.mp h.1).2⟩
  perform h _ _ := by
    obtain ⟨rfl, rfl⟩ := Value.primitive.inj h
    rw [Action.perform, Value.successor_bind_accept]
    exact Value.successor_avoids _
  unbound _ := trivial
  notATerm _ := trivial
  notApplicable _ := trivial
  depthExceeded := trivial

/-! ## Following through calls -/

namespace Value.SameUpTo

variable {v w : Value}

/-- What is the same as something is a value of the calculus. -/
theorem isProper (h : v.SameUpTo p label w) : v.isProper = true := by
  cases h with
  | _ => rfl

theorem present (h : v.SameUpTo p label w) : v.Present := .of_isProper h.isProper

/-- The same integer is held on both sides, or none. -/
theorem integer? (h : v.SameUpTo p label w) : v.integer? = w.integer? := by
  cases h with
  | _ => rfl

end Value.SameUpTo

namespace Env.SameUpTo

/-- Another name than that of the function is bound alike. -/
theorem lookup {x : String} (hx : x ≠ p) {env env' : Env} (h : env.SameUpTo p label env') :
    Option.Rel (Value.SameUpTo p label) (env.lookup x) (env'.lookup x) :=
  match h with
  | .empty => .none
  | .extend (x := y) _ h hv => by
    by_cases hy : y = x
    · subst hy
      rw [Env.lookup_extend_self _ _ hv.present, Env.lookup_extend_self _ _ hv.symm.present]
      exact .some hv
    · rw [Env.lookup_extend_ne _ _ hy, Env.lookup_extend_ne _ _ hy]
      exact lookup hx h
  | .callLeft h => by
    rw [Env.lookup_extend_ne _ _ hx.symm]
    exact lookup hx h
  | .callRight h => by
    rw [Env.lookup_extend_ne _ _ hx.symm]
    exact lookup hx h

/-- If the name of the function is bound, it is bound to the function. -/
theorem lookup_name {env env' : Env} (h : env.SameUpTo p label env') (hp : p ∈ env.names) :
    env.lookup p = some (.echo label) :=
  match h with
  | .empty => nomatch hp
  | .extend hx h _ => by
    rw [Env.lookup_extend_ne _ _ hx]
    exact lookup_name h ((List.mem_cons.mp hp).resolve_left hx.symm)
  | .callLeft _ => Env.lookup_extend_self _ _ nofun
  | .callRight h => lookup_name h hp

end Env.SameUpTo

/-- The function gives its argument back. -/
theorem apply_echo (n : Nat) {v : Value} (hv : v.isProper = true) :
    (apply (n + 1) (.echo label) v).outcome = .ok v := by
  rw [Value.echo, apply_primitive]
  cases v with
  | foreign datum => cases hv
  | _ => rfl

/-- A call of the function evaluates the argument, and passes the result on. -/
theorem evaluate_call (n : Nat) {env : Env} (hp : env.lookup p = some (.echo label)) (t : Term) :
    evaluate (n + 2) env (.app (.var p) t) =
      evaluate (n + 1) env t >>= apply (n + 1) (.echo label) := by
  rw [evaluate_app, evaluate_var, hp]
  exact Run.pure_bind' _ _

/-- The same without a limit. -/
theorem evaluation_call {env : Env} (hp : env.lookup p = some (.echo label)) (t : Term) :
    evaluation env (.app (.var p) t) ≈ (evaluation env t >>= application (.echo label)) :=
  evaluation_app_of_fn (evaluation_var hp) t

/-- Under a limit, what is the same up to calls of the function follows. -/
structure FollowsUnder (p label : String) (n : Nat) : Prop where
  /-- a term in an environment, where the function is bound if it is called -/
  evaluate : ∀ {env env' : Env} {t t' : Term}, env.SameUpTo p label env' → t.SameUpTo p t' →
    env.Serves p t → env'.Serves p t' →
    (evaluate n env t).FollowedBy (Value.SameUpTo p label) Fault.SameKind (evaluation env' t')
  /-- a value that is applied to another -/
  apply : ∀ {f f' a a' : Value}, f.SameUpTo p label f' → a.SameUpTo p label a' →
    (apply n f a).FollowedBy (Value.SameUpTo p label) Fault.SameKind (application f' a')

namespace FollowsUnder

/-- A name that is bound alike is looked up alike. -/
theorem evaluate_var (n : Nat) {env env' : Env} {x : String}
    (h : Option.Rel (Value.SameUpTo p label) (env.lookup x) (env'.lookup x)) :
    (CallByValue.evaluate (n + 1) env (.var x)).FollowedBy (Value.SameUpTo p label) Fault.SameKind
      (evaluation env' (.var x)) := by
  rw [CallByValue.evaluate_var]
  generalize hl : env.lookup x = found, hl' : env'.lookup x = found' at h
  cases h with
  | some hv => exact .pure (Limited.returns_of_pure (evaluation_var hl')) hv
  | none =>
    have hraises : (evaluation env' (.var x)).Raises (.unbound x) := by
      refine ⟨nofun, 1, ?_⟩
      rw [run_evaluation, CallByValue.evaluate_var, hl']
      rfl
    exact .fail hraises (Fault.Agrees.same _).sameKind

/-- The successor of the host makes the same of what holds the same integer. -/
theorem apply_successor (n : Nat) {a a' : Value} (h : a.integer? = a'.integer?) :
    (CallByValue.apply (n + 1) Church.successor a).FollowedBy (Value.SameUpTo p label)
      Fault.SameKind (application Church.successor a') := by
  have hrun' : (application Church.successor a').run 1 = a'.successor := Church.apply_successor 0 a'
  rw [Church.apply_successor]
  cases hi : a'.integer? with
  | some i =>
    rw [Value.successor_of_some hi] at hrun'
    rw [Value.successor_of_some (h.trans hi)]
    have hreturns : (application Church.successor a').Returns (.constant (.int (i + 1))) :=
      ⟨1, congrArg Run.outcome hrun'⟩
    exact .pure hreturns (.constant _)
  | none =>
    rw [Value.successor_of_none hi] at hrun'
    rw [Value.successor_of_none (h.trans hi)]
    have hraises : (application Church.successor a').Raises a'.notANumeral :=
      ⟨nofun, 1, congrArg Run.outcome hrun'⟩
    exact .fail hraises ⟨rfl, nofun, nofun⟩

variable {n : Nat}

/-- One more level for terms, by induction on what is the same: a call on the right costs the left
nothing. -/
theorem evaluate_succ (h : FollowsUnder p label n) {env env' : Env} {t t' : Term}
    (henv : env.SameUpTo p label env') (ht : t.SameUpTo p t') (hs : env.Serves p t)
    (hs' : env'.Serves p t') :
    (CallByValue.evaluate (n + 1) env t).FollowedBy (Value.SameUpTo p label) Fault.SameKind
      (evaluation env' t') := by
  induction ht with
  | var hx => exact evaluate_var n (henv.lookup hx)
  | abs hx hb _ =>
    exact .pure (Limited.returns_of_pure (evaluation_abs _ _ _)) (.closure henv (.abs hx hb) hs hs')
  | app hf ha _ _ =>
    have hfn := h.evaluate henv hf (hs.mono (List.subset_append_left _ _))
      (hs'.mono (List.subset_append_left _ _))
    have harg := h.evaluate henv ha (hs.mono (List.subset_append_right _ _))
      (hs'.mono (List.subset_append_right _ _))
    refine .congr ?_ (Setoid.symm (evaluation_app _ _ _))
    exact hfn.bind fun f f' hff' => harg.bind fun a a' haa' => h.apply hff' haa'
  | foreign d =>
    have hraises : (evaluation env' (.foreign d)).Raises (.host (.notATerm d)) := ⟨nofun, 1, rfl⟩
    exact .fail hraises (Fault.Agrees.same _).sameKind
  | callLeft ht _ =>
    -- the left spends a level on the call, so the argument follows under the smaller limit
    cases n with
    | zero =>
      rw [evaluate_app, evaluate_zero]
      exact .depthExceeded
    | succ n =>
      rw [evaluate_call n (henv.lookup_name (hs List.mem_cons_self))]
      have harg := h.evaluate henv ht (hs.mono (List.subset_append_right _ _)) hs'
      exact harg.stutter_left fun v w hv => apply_echo n hv.isProper
  | callRight ht ih =>
    have hp := henv.symm.lookup_name (hs' List.mem_cons_self)
    refine .congr ?_ (Setoid.symm (evaluation_call hp _))
    have harg := ih hs (hs'.mono (List.subset_append_right _ _))
    exact harg.stutter_right fun v w hv => ⟨1, apply_echo 0 hv.symm.isProper⟩

/-- One more level for applications. -/
theorem apply_succ (h : FollowsUnder p label n) {f f' a a' : Value}
    (hf : f.SameUpTo p label f') (ha : a.SameUpTo p label a') :
    (CallByValue.apply (n + 1) f a).FollowedBy (Value.SameUpTo p label) Fault.SameKind
      (application f' a') := by
  cases hf with
  | constant d =>
    have hraises : (application (.constant d) a').Raises (.notApplicable (.constant d)) :=
      ⟨nofun, 1, rfl⟩
    exact .fail hraises (Fault.Agrees.same _).sameKind
  | successor => exact apply_successor n ha.integer?
  | closure henv hb hs hs' =>
    obtain ⟨hx, hbody⟩ := hb.abs_inv
    refine .congr ?_ (Setoid.symm (application_closure _ _ _ _))
    rw [apply_closure]
    exact h.evaluate (.extend hx henv ha) hbody (hs.enter hx _) (hs'.enter hx _)

end FollowsUnder

/-- **What is the same up to calls of the function comes to the same end**, by induction on the
limit. -/
theorem followsUnder (p label : String) (n : Nat) : FollowsUnder p label n := by
  induction n with
  | zero =>
    refine ⟨fun {env env' t t'} _ _ _ _ => ?_, fun {f f' a a'} _ _ => ?_⟩
    · rw [evaluate_zero]
      exact .depthExceeded
    · rw [apply_zero]
      exact .depthExceeded
  | succ n ih => exact ⟨ih.evaluate_succ, ih.apply_succ⟩

/-! ## Instrumented terms end as the terms do -/

section

variable {env env' : Env} {t t' : Term} (henv : env.SameUpTo p label env') (ht : t.SameUpTo p t')
  (hs : env.Serves p t) (hs' : env'.Serves p t')

include henv ht hs hs'

theorem returns_of_sameUpTo {v : Value} (h : (evaluation env t).Returns v) :
    ∃ w, (evaluation env' t').Returns w ∧ v.SameUpTo p label w := by
  obtain ⟨n, hn⟩ := h
  exact ((followsUnder p label n).evaluate henv ht hs hs').returns v hn

theorem raises_of_sameUpTo {f : Fault} (h : (evaluation env t).Raises f) :
    ∃ g, (evaluation env' t').Raises g ∧ f.SameKind g := by
  obtain ⟨hne, n, hn⟩ := h
  exact ((followsUnder p label n).evaluate henv ht hs hs').raises f hn hne

/-- The same variable is blamed on both sides. -/
theorem raises_unbound_of_sameUpTo {x : String} (h : (evaluation env t).Raises (.unbound x)) :
    (evaluation env' t').Raises (.unbound x) := by
  obtain ⟨g, hg, hkind⟩ := raises_of_sameUpTo henv ht hs hs' h
  exact hkind.unbound x rfl ▸ hg

/-- Faults of the same classes are raised on both sides. -/
theorem raises_class_of_sameUpTo {kind : String}
    (h : ∃ f, (evaluation env t).Raises f ∧ f.className = kind) :
    ∃ f, (evaluation env' t').Raises f ∧ f.className = kind := by
  obtain ⟨f, hf, rfl⟩ := h
  obtain ⟨g, hg, hkind⟩ := raises_of_sameUpTo henv ht hs hs' hf
  exact ⟨g, hg, hkind.className_eq.symm⟩

end

/-- The name does not occur in what a term gives when it occurs neither in the term nor in the
environment. -/
theorem avoids_of_returns {env : Env} {t : Term} {v : Value} (henv : env.Avoids p)
    (ht : p ∉ t.names) (h : (evaluation env t).Returns v) : v.Avoids p := by
  obtain ⟨n, hn⟩ := h
  exact (((avoidance p).evaluate_apply n).1 env t henv ht).result v hn

/-- **A function that gives its argument back is not observed.** Hand any parts of a term to such a
function, under a name that occurs neither in the term nor in the environment. Then a value comes
out just when the term has one, and it is the value of the term once the calls and bindings of the
function are taken out. And what goes wrong is what goes wrong in the term: the same variables are
unbound, and the faults are of the same classes. -/
theorem identity_unobservable {env : Env} {t : Term} (henv : env.Avoids p) (ht : p ∉ t.names)
    (label : String) (marked : Term.Path → Bool) :
    (∀ v', (evaluation (env.extend p (.echo label)) (t.instrument p marked)).Returns v' →
      (evaluation env t).Returns (v'.strip p)) ∧
    (∀ v, (evaluation env t).Returns v →
      ∃ v', (evaluation (env.extend p (.echo label)) (t.instrument p marked)).Returns v' ∧
        v'.strip p = v) ∧
    (∀ x, (evaluation (env.extend p (.echo label)) (t.instrument p marked)).Raises (.unbound x) ↔
      (evaluation env t).Raises (.unbound x)) ∧
    (∀ kind, (∃ f, (evaluation (env.extend p (.echo label)) (t.instrument p marked)).Raises f ∧
        f.className = kind) ↔
      ∃ f, (evaluation env t).Raises f ∧ f.className = kind) := by
  have henv' : env.SameUpTo p label (env.extend p (.echo label)) := .callRight henv.sameUpTo
  have ht' : t.SameUpTo p (t.instrument p marked) := .instrument ht marked
  have hs : env.Serves p t := .of_avoids ht
  have hs' : (env.extend p (.echo label)).Serves p (t.instrument p marked) :=
    fun _ => List.mem_cons_self
  -- a value of the term has nothing to take out, so the related one becomes it
  have hstrip : ∀ v v', (evaluation env t).Returns v → v.SameUpTo p label v' → v'.strip p = v := by
    intro v v' hv h
    rw [← h.strip_eq, (avoids_of_returns henv ht hv).strip_eq_self]
  refine ⟨fun v' hv' => ?_, fun v hv => ?_, fun x => ⟨fun h => ?_, fun h => ?_⟩,
    fun kind => ⟨fun h => ?_, fun h => ?_⟩⟩
  · obtain ⟨v, hv, h⟩ := returns_of_sameUpTo henv'.symm ht'.symm hs' hs hv'
    rwa [hstrip v v' hv h.symm]
  · obtain ⟨v', hv', h⟩ := returns_of_sameUpTo henv' ht' hs hs' hv
    exact ⟨v', hv', hstrip v v' hv h⟩
  · exact raises_unbound_of_sameUpTo henv'.symm ht'.symm hs' hs h
  · exact raises_unbound_of_sameUpTo henv' ht' hs hs' h
  · exact raises_class_of_sameUpTo henv'.symm ht'.symm hs' hs h
  · exact raises_class_of_sameUpTo henv' ht' hs hs' h

/-- A host that binds its successor. -/
def successorSite : Env := Env.empty.extend "s" Church.successor

/-- The successor wrapped in a function that calls it, `(λx. λy. x y) s`. -/
def wrappedSuccessor : Term :=
  .app (.abs "x" (.abs "y" (.app (.var "x") (.var "y")))) (.var "s")

/-- When every part is watched, the value is a closure that has calls in its body and a binding of
the function in what it captured. -/
theorem wrappedSuccessor_unobservable :
    successorSite.Avoids "watch" ∧ "watch" ∉ wrappedSuccessor.names ∧
      ∃ v', (evaluation (successorSite.extend "watch" (.echo "watch"))
          (wrappedSuccessor.instrument "watch" fun _ => true)).Returns v' ∧
        v'.strip "watch" = .closure (successorSite.extend "x" Church.successor) "y"
          (.app (.var "x") (.var "y")) := by
  have henv : successorSite.Avoids "watch" := ⟨by decide, rfl, trivial⟩
  have ht : "watch" ∉ wrappedSuccessor.names := by decide
  obtain ⟨-, hreturns, -⟩ := identity_unobservable henv ht "watch" fun _ => true
  exact ⟨henv, ht, hreturns _ ⟨3, rfl⟩⟩

end CallByValue
