import CallByValue.Church
import CallByValue.Proofs.Iteration

/-!
# Parametricity

A closure cannot look into what it is given: it can store it, pass it on and apply it. So a run on
some host values can be **replayed** on other values in their place, as long as what the host values
did when they were applied can be replayed.

* `Value.Matches`, `Env.Matches` — one value in place of another, throughout captured environments;
* `Replayable` — what a relation of host values has to offer;
* `evaluate_apply_replay` — every evaluation that returns can be replayed;
* `decodeNumeral_iterates` — decoding a numeral counts how often it applies a function: in place of
  the numbers of the host stand the results of applying any other function;
* `decodeBool_selects` — decoding a truth value tells which of two arguments it gives back: in place
  of the truth values of the host stand any other two values.
-/

namespace CallByValue

/-! ## Values in place of others -/

mutual

/-- The second value is the first one with host values replaced as `host` has it: closures keep
their parameters and bodies. -/
inductive Value.Matches (host : Value → Value → Prop) : Value → Value → Prop where
  /-- a host value is replaced -/
  | host {v w : Value} (h : host v w) : Value.Matches host v w
  /-- a closure captured an environment in which host values are replaced -/
  | closure {env env' : Env} (param : String) (body : Term) (h : Env.Matches host env env') :
    Value.Matches host (.closure env param body) (.closure env' param body)

/-- The same names are bound in the same order, to values of which the second is in place of the
first. -/
inductive Env.Matches (host : Value → Value → Prop) : Env → Env → Prop where
  /-- nothing is bound -/
  | empty : Env.Matches host .empty .empty
  /-- one more binding of the same name -/
  | extend {env env' : Env} {v w : Value} (name : String) (h : Env.Matches host env env')
    (hv : Value.Matches host v w) : Env.Matches host (env.extend name v) (env'.extend name w)

end

/-- A closure over closures only, all the way down. -/
def Value.OnlyClosures (value : Value) : Prop :=
  value.BuiltFrom (fun _ => True) fun _ => False

variable {host : Value → Value → Prop}

mutual

/-- A value without host values stands for itself. -/
theorem Value.matches_self : ∀ {v : Value},
    v.BuiltFrom (fun _ => True) (fun _ => False) → v.Matches host v
  | .closure _ param body, hv => .closure param body (Env.matches_self hv.2)
  | .primitive _ _, hv => hv.elim
  | .constant _, hv => hv.elim
  | .foreign _, hv => hv.elim

/-- An environment without host values stands for itself. -/
theorem Env.matches_self : ∀ {env : Env},
    env.BuiltFrom (fun _ => True) (fun _ => False) → env.Matches host env
  | .empty, _ => .empty
  | .extend _ name _, henv => .extend name (Env.matches_self henv.2) (Value.matches_self henv.1)

end

/-- What is found in one environment is found in the other, replaced. -/
theorem Env.Matches.find? {x : String} {v : Value} : ∀ {env env' : Env}, env.Matches host env' →
    env.find? x = some v → ∃ w, env'.find? x = some w ∧ v.Matches host w
  | .empty, _, _, h => by cases h
  | .extend parent bound u, _, hm, h => by
    cases hm with
    | extend name henv hu =>
      rw [Env.find?] at h ⊢
      by_cases hx : bound = x
      · rw [if_pos hx] at h ⊢
        obtain rfl := Option.some.inj h
        exact ⟨_, rfl, hu⟩
      · rw [if_neg hx] at h ⊢
        exact Env.Matches.find? henv h

/-! ## Replaying runs -/

/-- Host values can be replaced in runs: what replaces them is present, and what they return when
they are applied is returned, replaced, when their replacements are applied. -/
structure Replayable (host : Value → Value → Prop) : Prop where
  present : ∀ {v w : Value}, host v w → w.Present
  apply : ∀ {n : Nat} {f f' a a' v : Value}, host f f' → a.Matches host a' →
    (CallByValue.apply n f a).outcome = .ok v →
      ∃ w, (application f' a').Returns w ∧ v.Matches host w

theorem Value.Matches.present (hr : Replayable host) {v w : Value} (h : v.Matches host w) :
    w.Present := by
  cases h with
  | host h => exact hr.present h
  | closure param body h => exact nofun

/-- Both halves of **parametricity**, by induction on the limit of the run that is replayed. The
replay may need a deeper limit, since replacements may take longer. -/
theorem evaluate_apply_replay (hr : Replayable host) (n : Nat) :
    (∀ {env env' : Env} {t : Term} {v : Value}, env.Matches host env' →
      (evaluate n env t).outcome = .ok v →
        ∃ w, (evaluation env' t).Returns w ∧ v.Matches host w) ∧
    (∀ {f f' a a' v : Value}, f.Matches host f' → a.Matches host a' →
      (apply n f a).outcome = .ok v →
        ∃ w, (application f' a').Returns w ∧ v.Matches host w) := by
  induction n with
  | zero =>
    exact ⟨fun _ hv => absurd hv evaluate_zero_ne_ok, fun _ _ hv => absurd hv apply_zero_ne_ok⟩
  | succ n ih =>
    obtain ⟨hev, hap⟩ := ih
    refine ⟨fun {env env' t v} henv hv => ?_, fun {f f' a a' v} hf ha hv => ?_⟩
    · cases t with
      | var x =>
        obtain ⟨hfind, -⟩ := Env.find?_of_lookup (lookup_of_evaluate_var hv)
        obtain ⟨w, hw, hm⟩ := henv.find? hfind
        have hl : env'.lookup x = some w := Env.lookup_of_find? hw (hm.present hr)
        exact ⟨w, Limited.returns_of_pure (evaluation_var hl), hm⟩
      | abs param body =>
        obtain rfl := Except.ok.inj hv
        exact ⟨_, Limited.returns_of_pure (evaluation_abs env' param body),
          .closure param body henv⟩
      | app fn arg =>
        obtain ⟨f, a, hf, ha, hv⟩ := evaluate_app_ok hv
        obtain ⟨f', hf', hfm⟩ := hev henv hf
        obtain ⟨a', ha', ham⟩ := hev henv ha
        obtain ⟨w, hw, hm⟩ := hap hfm ham hv
        refine ⟨w, ?_, hm⟩
        rw [Limited.returns_congr (evaluation_app env' fn arg)]
        exact hf'.bind (ha'.bind hw)
      | foreign datum => cases hv
    · cases hf with
      | host hf => exact hr.apply hf ha hv
      | @closure env env' param body henv =>
        obtain ⟨w, hw, hm⟩ := hev (henv.extend param ha) hv
        refine ⟨w, ?_, hm⟩
        rwa [Limited.returns_congr (application_closure env' param body a')]

/-- **Parametricity** of application: an application that returns can be replayed. -/
theorem application_replay (hr : Replayable host) {n : Nat} {f f' a a' v : Value}
    (hf : f.Matches host f') (ha : a.Matches host a') (hv : (apply n f a).outcome = .ok v) :
    ∃ w, (application f' a').Returns w ∧ v.Matches host w :=
  (evaluate_apply_replay hr n).2 hf ha hv

/-! ## Numerals count -/

namespace Church

/-- The successor of the host stands for a function, and each number for what so many applications
of the function gave. -/
inductive CountsFor (g : Value) (r : Nat → Value) : Value → Value → Prop where
  /-- the function in place of the successor -/
  | function : CountsFor g r successor g
  /-- a result in place of its number -/
  | number (j : Nat) : CountsFor g r (.constant (.int j)) (r j)

variable {g a : Value} {r : Nat → Value}

/-- Each result is returned by applying the function to the one before. -/
theorem returns_next (hr : ∀ j, (iteration g j a).Returns (r j)) (j : Nat) :
    (application g (r j)).Returns (r (j + 1)) := by
  obtain ⟨d, hd⟩ := hr (j + 1)
  obtain ⟨b, hb, hnext⟩ := Run.outcome_bind_eq_ok hd
  obtain rfl := Limited.Returns.unique ⟨d, hb⟩ (hr j)
  exact ⟨d, hnext⟩

/-- Counting can be replayed as applying. -/
theorem replayable_countsFor (hg : g.Present) (ha : a.Present)
    (hr : ∀ j, (iteration g j a).Returns (r j)) : Replayable (CountsFor g r) where
  present h := by
    cases h with
    | function => exact hg
    | number j => exact iteration_present ha (hr j)
  apply {n f f' arg arg' v} hf harg hv := by
    cases n with
    | zero => exact absurd hv apply_zero_ne_ok
    | succ n =>
      cases hf with
      | function =>
        -- the successor returns on numbers only
        cases harg with
        | host h =>
          cases h with
          | function => cases hv
          | number j =>
            obtain rfl := Except.ok.inj hv
            exact ⟨r (j + 1), returns_next hr j, .host (.number (j + 1))⟩
        | closure param body h => cases hv
      | number j => cases hv

/-- **Decoding is meaningful**: if a closure over closures is decoded as `k`, then `k` is a natural
number, and the closure applied to any function `g` and any value `a`, for which all iterations
return, returns what `k` applications of `g` to `a` return. -/
theorem decodeNumeral_iterates {v g a : Value} {r : Nat → Value} {k : Int}
    (hv : v.OnlyClosures) (hg : g.isProper = true) (ha : a.isProper = true)
    (hr : ∀ j, ∃ d, (applyTimes d g j a).outcome = .ok (r j))
    (hk : ∃ d, (decodeNumeral d v).outcome = .ok k) :
    ∃ j : Nat, k = j ∧
      ∃ n, ∀ m, n ≤ m → (apply m v g >>= fun f => apply m f a).outcome = .ok (r j) := by
  have hr' : ∀ j, (iteration g j a).Returns (r j) := by
    intro j
    obtain ⟨d, hd⟩ := hr j
    exact ⟨d, by rw [run_iteration, hd]⟩
  have hrep : Replayable (CountsFor g r) :=
    replayable_countsFor (Value.Present.of_isProper hg) (Value.Present.of_isProper ha) hr'
  have hzero : r 0 = a := (hr' 0).unique ⟨0, rfl⟩
  obtain ⟨d, hd⟩ := hk
  obtain ⟨f, hf, hd⟩ := Run.outcome_bind_eq_ok hd
  obtain ⟨result, hresult, hd⟩ := Run.outcome_bind_eq_ok hd
  obtain ⟨f', hf', hfm⟩ := application_replay hrep (Value.matches_self hv) (.host .function) hf
  obtain ⟨w, hw, hm⟩ := application_replay hrep hfm (.host (.number 0)) hresult
  rw [hzero] at hw
  have hreturns : (application v g >>= fun f => application f a).Returns w := hf'.bind hw
  -- the result is decoded, so it is a constant, and constants are numbers
  cases hm with
  | host h =>
    cases h with
    | function => cases hd
    | number j => exact ⟨j, (Except.ok.inj hd).symm, hreturns.eventually⟩
  | closure param body h => cases hd

/-- The function that wraps its argument once more, `λp. λk. k p`. -/
def wrap : Value := .closure .empty "p" (.abs "k" (.app (.var "k") (.var "p")))

/-- The identity wrapped `n` times. -/
def wrapped : Nat → Value
  | 0 => .closure .empty "x" (.var "x")
  | n + 1 => .closure (Env.empty.extend "p" (wrapped n)) "k" (.app (.var "k") (.var "p"))

/-- Wrapping `n` times, starting from the identity. -/
theorem applyTimes_wrap (n : Nat) :
    (applyTimes 2 wrap n (wrapped 0)).outcome = .ok (wrapped n) := by
  induction n with
  | zero => rfl
  | succ n ih =>
    rw [applyTimes, Run.bind_of_ok ih]
    rfl

/-- The value of two times two: no numeral, but a closure over two numerals. -/
def twiceTwo : Value :=
  .closure ((Env.empty.extend "m" (.closure .empty "f" (.abs "x" (iterated 2)))).extend "n"
    (.closure .empty "f" (.abs "x" (iterated 2)))) "f"
      (.app (.var "m") (.app (.var "n") (.var "f")))

/-- Two times two is decoded as four, so it wraps the identity four times. -/
theorem twiceTwo_wraps :
    twiceTwo.OnlyClosures ∧ wrap.isProper = true ∧ (wrapped 0).isProper = true ∧
      (∀ j, ∃ d, (applyTimes d wrap j (wrapped 0)).outcome = .ok (wrapped j)) ∧
      (∃ d, (decodeNumeral d twiceTwo).outcome = .ok 4) ∧
      ∃ n, ∀ m, n ≤ m →
        (apply m twiceTwo wrap >>= fun f => apply m f (wrapped 0)).outcome = .ok (wrapped 4) := by
  have hv : twiceTwo.OnlyClosures :=
    ⟨trivial, ⟨trivial, trivial⟩, ⟨trivial, trivial⟩, trivial⟩
  have hr : ∀ j, ∃ d, (applyTimes d wrap j (wrapped 0)).outcome = .ok (wrapped j) :=
    fun j => ⟨2, applyTimes_wrap j⟩
  have hk : ∃ d, (decodeNumeral d twiceTwo).outcome = .ok 4 := ⟨20, rfl⟩
  obtain ⟨j, hj, hreturns⟩ := decodeNumeral_iterates hv rfl rfl hr hk
  obtain rfl : j = 4 := by omega
  exact ⟨hv, rfl, rfl, hr, hk, hreturns⟩

/-! ## Truth values select -/

/-- The two truth values of the host stand for two values to select from. -/
inductive SelectsFrom (x y : Value) : Value → Value → Prop where
  /-- the first value in place of truth -/
  | first : SelectsFrom x y (.constant (.bool true)) x
  /-- the second value in place of falsehood -/
  | second : SelectsFrom x y (.constant (.bool false)) y

variable {x y : Value}

/-- Selecting can be replayed with any two values: the truth values of the host cannot be applied,
so a run that returns only passes them on. -/
theorem replayable_selectsFrom (hx : x.Present) (hy : y.Present) :
    Replayable (SelectsFrom x y) where
  present h := by
    cases h with
    | first => exact hx
    | second => exact hy
  apply {n f f' arg arg' v} hf _ hv := by
    cases n with
    | zero => exact absurd hv apply_zero_ne_ok
    | succ n =>
      cases hf with
      | first => cases hv
      | second => cases hv

/-- **Decoded truth values select**: if a closure over closures is decoded as a truth value, then
the closure applied to any two values returns the first of them if it was truth, and the second one
if it was falsehood. -/
theorem decodeBool_selects {v x y : Value} {b : Bool} (hv : v.OnlyClosures)
    (hx : x.isProper = true) (hy : y.isProper = true)
    (hb : ∃ d, (decodeBool d v).outcome = .ok b) :
    ∃ n, ∀ m, n ≤ m →
      (apply m v x >>= fun f => apply m f y).outcome = .ok (if b then x else y) := by
  have hrep : Replayable (SelectsFrom x y) :=
    replayable_selectsFrom (Value.Present.of_isProper hx) (Value.Present.of_isProper hy)
  obtain ⟨d, hd⟩ := hb
  obtain ⟨f, hf, hd⟩ := Run.outcome_bind_eq_ok hd
  obtain ⟨result, hresult, hd⟩ := Run.outcome_bind_eq_ok hd
  obtain ⟨f', hf', hfm⟩ := application_replay hrep (Value.matches_self hv) (.host .first) hf
  obtain ⟨w, hw, hm⟩ := application_replay hrep hfm (.host .second) hresult
  have hreturns : (application v x >>= fun f => application f y).Returns w := hf'.bind hw
  -- the result is decoded, so it is one of the two markers
  cases hm with
  | host h =>
    cases h with
    | first =>
      obtain rfl := Except.ok.inj hd
      exact hreturns.eventually
    | second =>
      obtain rfl := Except.ok.inj hd
      exact hreturns.eventually
  | closure param body h => cases hd

/-- The negation of a truth value, `λt. λf. p f t` with the truth value bound to `p`. -/
def negation (p : Value) : Value :=
  .closure (Env.empty.extend "p" p) "t"
    (.abs "f" (.app (.app (.var "p") (.var "f")) (.var "t")))

/-- Falsehood negated three times: a closure over closures that has to compute before it selects. -/
def thriceNegated : Value :=
  negation (negation (negation (.closure .empty "t" (.abs "f" (.var "f")))))

/-- Falsehood negated three times is decoded as truth, so of a host function and a constant it
selects the function. -/
theorem thriceNegated_selects :
    thriceNegated.OnlyClosures ∧ (Value.primitive "spy" .spy).isProper = true ∧
      (Value.constant .null).isProper = true ∧
      (∃ d, (decodeBool d thriceNegated).outcome = .ok true) ∧
      ∃ n, ∀ m, n ≤ m →
        (apply m thriceNegated (.primitive "spy" .spy) >>= fun f =>
          apply m f (.constant .null)).outcome = .ok (.primitive "spy" .spy) := by
  have hv : thriceNegated.OnlyClosures :=
    ⟨trivial, ⟨trivial, ⟨trivial, ⟨trivial, trivial⟩, trivial⟩, trivial⟩, trivial⟩
  have hb : ∃ d, (decodeBool d thriceNegated).outcome = .ok true := ⟨30, rfl⟩
  exact ⟨hv, rfl, rfl, hb, decodeBool_selects hv rfl rfl hb⟩

end Church

end CallByValue
