import CallByValue.Church
import CallByValue.Proofs.Iteration

/-!
# Arithmetic on Church numerals

A value **represents** `n` when it turns every function into one that applies it `n` times. Whatever
an arithmetic expression is made of, its value represents the number that the expression stands for:
the host function is called that many times, in a row, and nothing else is noted or goes wrong.

* `Represents` — the invariant on values, which says nothing of how a numeral is written;
* `represents_numeral`, `Represents.succ`, `Represents.plus`, `Represents.mult` — one lemma for each
  way of writing a number;
* `Arith` — expressions built of these, with their numbers, and how they are encoded.
-/

namespace CallByValue.Church

/-! ## Values that represent numbers -/

/-- Applied to any function, the value notes nothing and returns one that applies that function `n`
times. -/
def Represents (n : Nat) (v : Value) : Prop :=
  v.Present ∧ ∀ g : Value, g.Present → ∃ w, application v g ≈ pure w ∧ Iterates g n w

/-- A function of `f` and `x` represents `n` when its body applies `f` to `x` just so often, in an
environment that has the other names from where the function was made. -/
theorem represents_of_body {n : Nat} (env : Env) (body : Term)
    (hb : ∀ (inner : Env) (g a : Value), inner.lookup "f" = some g → inner.lookup "x" = some a →
      (∀ y, y ≠ "f" → y ≠ "x" → inner.lookup y = env.lookup y) →
      evaluation inner body ≈ iteration g n a) :
    Represents n (.closure env "f" (.abs "x" body)) := by
  refine ⟨nofun, fun g hg => ⟨.closure (env.extend "f" g) "x" body, ?_, nofun, fun a ha => ?_⟩⟩
  · exact Setoid.trans (application_closure env "f" _ g) (evaluation_abs _ "x" body)
  · have hf : ((env.extend "f" g).extend "x" a).lookup "f" = some g := by simp [hg]
    have hx : ((env.extend "f" g).extend "x" a).lookup "x" = some a := by simp [ha]
    have hbody := hb _ g a hf hx fun y hyf hyx => by simp [hyf.symm, hyx.symm]
    exact Setoid.trans (application_closure _ "x" body a) hbody

/-- The value of a name that represents `n`, called with `f`. -/
theorem Represents.evaluation_partial {n : Nat} {v g : Value} (hv : Represents n v) {env : Env}
    {name : String} (hn : env.lookup name = some v) (hf : env.lookup "f" = some g) :
    ∃ w, evaluation env (.app (.var name) (.var "f")) ≈ pure w ∧ Iterates g n w := by
  obtain ⟨w, hw, hi⟩ := hv.2 g (Env.find?_of_lookup hf).2
  have happ := evaluation_app_of_values (evaluation_var hn) (evaluation_var hf)
  exact ⟨w, Setoid.trans happ hw, hi⟩

/-- The value of a name that represents `n`, called with `f` and `x`. -/
theorem Represents.evaluation_call {n : Nat} {v g a : Value} (hv : Represents n v) {env : Env}
    {name : String} (hn : env.lookup name = some v) (hf : env.lookup "f" = some g)
    (hx : env.lookup "x" = some a) :
    evaluation env (.app (.app (.var name) (.var "f")) (.var "x")) ≈ iteration g n a := by
  obtain ⟨w, hw, hi⟩ := hv.evaluation_partial hn hf
  exact Setoid.trans (evaluation_app_of_values hw (evaluation_var hx))
    (hi.2 a (Env.find?_of_lookup hx).2)

/-! ## Ways of writing numbers -/

/-- The body of a numeral calls `f` once for each application in it. -/
theorem evaluation_iterated {env : Env} {g a : Value} (hf : env.lookup "f" = some g)
    (hx : env.lookup "x" = some a) (n : Nat) :
    evaluation env (iterated n) ≈ iteration g n a := by
  induction n with
  | zero => exact evaluation_var hx
  | succ n ih =>
    have hfn := evaluation_app_of_fn (evaluation_var hf) (iterated n)
    exact Setoid.trans hfn (Limited.bind_congr ih fun _ _ => Setoid.refl _)

theorem represents_numeral (n : Nat) (env : Env) :
    Represents n (.closure env "f" (.abs "x" (iterated n))) :=
  represents_of_body env _ fun _ _ _ hf hx _ => evaluation_iterated hf hx n

/-- The value of `succ` applied to a value that represents `n`. -/
theorem Represents.succ {n : Nat} {v : Value} (hv : Represents n v) (env : Env) :
    Represents (n + 1) (.closure (env.extend "n" v) "f" (.abs "x"
      (.app (.var "f") (.app (.app (.var "n") (.var "f")) (.var "x"))))) := by
  refine represents_of_body _ _ fun inner g a hf hx ho => ?_
  have hn : inner.lookup "n" = some v := by simp [ho, hv.1]
  exact Setoid.trans (evaluation_app_of_fn (evaluation_var hf) _)
    (Limited.bind_congr (hv.evaluation_call hn hf hx) fun _ _ => Setoid.refl _)

/-- The value of `plus` applied to values that represent `m` and `n`: the `n` calls come first. -/
theorem Represents.plus {m n : Nat} {v w : Value} (hv : Represents m v) (hw : Represents n w)
    (env : Env) :
    Represents (m + n) (.closure ((env.extend "m" v).extend "n" w) "f" (.abs "x"
      (.app (.app (.var "m") (.var "f"))
        (.app (.app (.var "n") (.var "f")) (.var "x"))))) := by
  refine represents_of_body _ _ fun inner g a hf hx ho => ?_
  have hn : inner.lookup "n" = some w := by simp [ho, hw.1]
  have hm : inner.lookup "m" = some v := by simp [ho, hv.1]
  have ha : a.Present := (Env.find?_of_lookup hx).2
  obtain ⟨u, hu, hi⟩ := hv.evaluation_partial hm hf
  have hcall := hw.evaluation_call hn hf hx
  rw [Nat.add_comm, iteration_add]
  refine Setoid.trans (evaluation_app_of_fn hu _) (Limited.bind_congr hcall fun b hb => ?_)
  exact hi.2 b (iteration_present ha ((Limited.returns_congr hcall b).mp hb))

/-- The value of `mult` applied to values that represent `m` and `n`. -/
theorem Represents.mult {m n : Nat} {v w : Value} (hv : Represents m v) (hw : Represents n w)
    (env : Env) :
    Represents (m * n) (.closure ((env.extend "m" v).extend "n" w) "f"
      (.app (.var "m") (.app (.var "n") (.var "f")))) := by
  refine ⟨nofun, fun g hg => ?_⟩
  have hf : (((env.extend "m" v).extend "n" w).extend "f" g).lookup "f" = some g := by simp [hg]
  have hn : (((env.extend "m" v).extend "n" w).extend "f" g).lookup "n" = some w := by
    simp [hw.1]
  have hm : (((env.extend "m" v).extend "n" w).extend "f" g).lookup "m" = some v := by
    simp [hv.1]
  -- `n f` is the function that the outer number iterates
  obtain ⟨u, hu, hun⟩ := hw.evaluation_partial hn hf
  obtain ⟨z, hz, hzm⟩ := hv.2 u hun.1
  have happ := evaluation_app_of_values (evaluation_var hm) hu
  refine ⟨z, Setoid.trans (application_closure _ "f" _ g) (Setoid.trans happ hz), hzm.1, ?_⟩
  intro a ha
  exact Setoid.trans (hzm.2 a ha) (hun.mul m ha)

/-! ## Decoding -/

/-- The successor of the host counts. -/
theorem iteration_successor (n : Nat) (i : Int) :
    iteration successor n (.constant (.int i)) ≈ pure (.constant (.int (i + n))) := by
  induction n with
  | zero =>
    rw [Int.natCast_zero, Int.add_zero]
    exact Setoid.refl _
  | succ n ih =>
    rw [Int.natCast_succ, ← Int.add_assoc]
    exact Setoid.trans (Limited.bind_of_pure ih _) (Limited.equiv_of_succ fun _ => rfl)

/-- A value that represents `n` is decoded as `n`. -/
theorem Represents.decodeNumeral {n : Nat} {v : Value} (hv : Represents n v) :
    ∃ d, ∀ e, d ≤ e → Church.decodeNumeral e v = pure (n : Int) := by
  obtain ⟨w, hw, hi⟩ := hv.2 successor nofun
  have hzero := Setoid.trans (hi.2 (.constant (.int 0)) nofun) (iteration_successor n 0)
  rw [Int.zero_add] at hzero
  obtain ⟨d₁, h₁⟩ := Limited.eventually_pure hw
  obtain ⟨d₂, h₂⟩ := Limited.eventually_pure hzero
  refine ⟨max d₁ d₂, fun e he => ?_⟩
  have hfun : apply e v successor = pure w := h₁ e (by omega)
  have hres : apply e w (.constant (.int 0)) = pure (.constant (.int n)) := h₂ e (by omega)
  rw [Church.decodeNumeral, hfun, Run.pure_bind', hres, Run.pure_bind']

/-! ## Arithmetic expressions -/

/-- Expressions of numerals, successors, sums and products. -/
inductive Arith where
  /-- a numeral -/
  | num (n : Nat)
  /-- the next number -/
  | succ (t : Arith)
  /-- a sum -/
  | plus (s t : Arith)
  /-- a product -/
  | mult (s t : Arith)

namespace Arith

/-- The number that an expression stands for. -/
def value : Arith → Nat
  | num n => n
  | succ t => t.value + 1
  | plus s t => s.value + t.value
  | mult s t => s.value * t.value

/-- The encoded expression: numbers are encoded, and the combinators applied to the parts. -/
def encode : Arith → Except Fault Term
  | num n => Church.encode (.int n)
  | succ t => do return .app Church.succ (← t.encode)
  | plus s t => do return .app (.app Church.plus (← s.encode)) (← t.encode)
  | mult s t => do return .app (.app Church.mult (← s.encode)) (← t.encode)

/-- The term that an expression is encoded as. -/
def term : Arith → Term
  | num n => numeral n
  | succ t => .app Church.succ t.term
  | plus s t => .app (.app Church.plus s.term) t.term
  | mult s t => .app (.app Church.mult s.term) t.term

/-- A natural number is encoded as its numeral. -/
theorem encode_natural (n : Nat) : Church.encode (.int n) = .ok (numeral n) := rfl

/-- All expressions can be encoded. -/
theorem encode_eq (t : Arith) : t.encode = .ok t.term := by
  induction t with
  | num n => exact encode_natural n
  | succ t ih =>
    rw [encode, ih]
    rfl
  | plus s t ihs iht =>
    rw [encode, ihs, iht]
    rfl
  | mult s t ihs iht =>
    rw [encode, ihs, iht]
    rfl

/-- The value of a function of two parameters that is applied to two terms with values. -/
theorem evaluation_binary {env : Env} {x y : String} {body arg arg' : Term} {v w : Value}
    (hv : evaluation env arg ≈ pure v) (hw : evaluation env arg' ≈ pure w) :
    evaluation env (.app (.app (.abs x (.abs y body)) arg) arg') ≈
      evaluation ((env.extend x v).extend y w) body := by
  have hfn : evaluation env (.app (.abs x (.abs y body)) arg) ≈
      pure (.closure (env.extend x v) y body) :=
    calc evaluation env (.app (.abs x (.abs y body)) arg)
      _ ≈ application (.closure env x (.abs y body)) v :=
          evaluation_app_of_values (evaluation_abs env x _) hv
      _ ≈ evaluation (env.extend x v) (.abs y body) := application_closure env x _ v
      _ ≈ pure (.closure (env.extend x v) y body) := evaluation_abs _ y body
  exact Setoid.trans (evaluation_app_of_values hfn hw) (application_closure _ y body w)

/-- An expression has a value in every environment, and it represents the number of the expression.
The induction is on the expression; the environment is the same for all of its parts. -/
theorem evaluation_term (t : Arith) (env : Env) :
    ∃ v, evaluation env t.term ≈ pure v ∧ Represents t.value v := by
  induction t with
  | num n => exact ⟨_, evaluation_abs env "f" _, represents_numeral n env⟩
  | succ t ih =>
    obtain ⟨v, hv, hr⟩ := ih
    refine ⟨_, ?_, hr.succ env⟩
    calc evaluation env (.app Church.succ t.term)
      _ ≈ application (.closure env "n" _) v :=
          evaluation_app_of_values (evaluation_abs env "n" _) hv
      _ ≈ evaluation (env.extend "n" v) _ := application_closure env "n" _ v
      _ ≈ pure _ := evaluation_abs _ "f" _
  | plus s t ihs iht =>
    obtain ⟨v, hv, hr⟩ := ihs
    obtain ⟨w, hw, hr'⟩ := iht
    exact ⟨_, Setoid.trans (evaluation_binary hv hw) (evaluation_abs _ "f" _), hr.plus hr' env⟩
  | mult s t ihs iht =>
    obtain ⟨v, hv, hr⟩ := ihs
    obtain ⟨w, hw, hr'⟩ := iht
    exact ⟨_, Setoid.trans (evaluation_binary hv hw) (evaluation_abs _ "f" _), hr.mult hr' env⟩

/-- **Church arithmetic**: an arithmetic expression can be encoded, and in every environment the
encoded term has a value that, applied to any function and any value, ends in just those ways, with
just those notes, in which that many applications of the function to the value end. In particular it
is decoded as its number. -/
theorem evaluate_arith (t : Arith) (env : Env) : ∃ e v, t.encode = .ok e ∧
    (∃ n, ∀ m, n ≤ m → evaluate m env e = pure v) ∧
    (∀ g a : Value, g.isProper = true → a.isProper = true → ∀ r : Run Value Value, r.Finished →
      ((∃ d, (apply d v g >>= fun f => apply d f a) = r) ↔
        ∃ d, applyTimes d g t.value a = r)) ∧
    (∃ n, ∀ m, n ≤ m → decodeNumeral m v = pure (t.value : Int)) := by
  obtain ⟨v, hv, hr⟩ := t.evaluation_term env
  refine ⟨t.term, v, t.encode_eq, Limited.eventually_pure hv, fun g a hg ha r hfin => ?_,
    hr.decodeNumeral⟩
  obtain ⟨w, hw, hi⟩ := hr.2 g (Value.Present.of_isProper hg)
  have hequiv : (application v g >>= fun f => application f a) ≈ iteration g t.value a :=
    Setoid.trans (Limited.bind_of_pure hw _) (hi.2 a (Value.Present.of_isProper ha))
  have hends := hequiv r
  simpa [Limited.Ends, hfin] using hends

/-- A host function that notes its argument and gives it back. -/
def spy : Value := .primitive "spy" .spy

/-- Two times the successor of two, applied to a spy: six calls. -/
theorem spied_product :
    spy.isProper = true ∧ (Value.constant .null).isProper = true ∧
      ∃ e v n, (mult (num 2) (succ (num 2))).encode = .ok e ∧ evaluate n .empty e = pure v ∧
        ∃ d, (apply d v spy >>= fun f => apply d f (.constant .null)) =
          ⟨List.replicate 6 (.constant .null), .ok (.constant .null)⟩ := by
  obtain ⟨e, v, he, ⟨n, hn⟩, hi, -⟩ := evaluate_arith (mult (num 2) (succ (num 2))) .empty
  have hcalls : applyTimes 1 spy 6 (.constant .null) =
      ⟨List.replicate 6 (.constant .null), .ok (.constant .null)⟩ := rfl
  have hfin : (applyTimes 1 spy 6 (.constant .null)).Finished := Run.finished_of_ok rfl
  rw [hcalls] at hfin
  exact ⟨rfl, rfl, e, v, n, he, hn n (Nat.le_refl n),
    (hi spy (.constant .null) rfl rfl _ hfin).mpr ⟨1, hcalls⟩⟩

end Arith

end CallByValue.Church
