import CallByValue.Proofs.Depth
import CallByValue.Proofs.Native

/-!
# Iterated application

* `applyTimes` — a function applied `n` times in a row, starting from a value;
* `iteration` — the same without a limit on depth; iterations of one function add up
  (`iteration_add`) and multiply (`Iterates.mul`);
* `Iterates` — a function that does on every argument what `n` applications of another one do.
-/

namespace CallByValue

/-- Applies `g` to `a`, then to what came out, and so on, `n` times in all. -/
def applyTimes (depth : Nat) (g : Value) : (n : Nat) → (a : Value) → Run Value Value
  | 0, a => pure a
  | n + 1, a => applyTimes depth g n a >>= fun b => apply depth g b

/-- The iterated application, under each limit. -/
def iteration (g : Value) : (n : Nat) → (a : Value) → Limited Value
  | 0, a => pure a
  | n + 1, a => iteration g n a >>= fun b => application g b

theorem iteration_succ (g : Value) (n : Nat) (a : Value) :
    iteration g (n + 1) a = iteration g n a >>= fun b => application g b := rfl

@[simp] theorem run_iteration (g : Value) (n : Nat) (a : Value) (depth : Nat) :
    (iteration g n a).run depth = applyTimes depth g n a := by
  induction n with
  | zero => rfl
  | succ n ih =>
    rw [iteration_succ, Limited.run_bind, ih]
    rfl

/-- Iterations of one function add up. -/
theorem iteration_add (g : Value) (m n : Nat) (a : Value) :
    iteration g (m + n) a = iteration g m a >>= fun b => iteration g n b := by
  induction n with
  | zero => exact (bind_pure _).symm
  | succ n ih =>
    rw [← Nat.add_assoc, iteration_succ, ih, bind_assoc]
    rfl

/-- What an iteration returns is present, if what it starts from is. -/
theorem iteration_present {g a v : Value} {n : Nat} (ha : a.Present)
    (hv : (iteration g n a).Returns v) : v.Present := by
  obtain ⟨d, hv⟩ := hv
  cases n with
  | zero =>
    obtain rfl := Except.ok.inj hv
    exact ha
  | succ n =>
    obtain ⟨b, -, hb⟩ := Run.outcome_bind_eq_ok hv
    exact (evaluate_apply_present d).2 hb

/-- The function `w` does on every argument what `n` applications of `g` do. -/
def Iterates (g : Value) (n : Nat) (w : Value) : Prop :=
  w.Present ∧ ∀ a : Value, a.Present → application w a ≈ iteration g n a

/-- Iterations multiply: `m` times a function that iterates `n` times. -/
theorem Iterates.mul {g w : Value} {n : Nat} (hw : Iterates g n w) (m : Nat) {a : Value}
    (ha : a.Present) : iteration w m a ≈ iteration g (m * n) a := by
  induction m with
  | zero =>
    rw [Nat.zero_mul]
    exact Setoid.refl _
  | succ m ih =>
    rw [iteration_succ, Nat.add_one_mul, iteration_add g]
    exact Limited.bind_congr ih fun b hb => hw.2 b (iteration_present ha hb)

end CallByValue
