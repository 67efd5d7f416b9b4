import CallByValue.Value

/-!
# Runs

A **run** records what was noted on the way, in order, and how it ended: with a result or in a
fault. Runs form a monad: what follows a result adds its notes, and a fault ends the run with the
notes made so far.

* `Run` — the monad, with its laws;
* `Event` — the notes of a whole program: lines it writes and calls it spies on.
-/

namespace CallByValue

/-- A run that notes objects of type `ω` and ends with a result of type `α` or in a fault. -/
structure Run (ω α : Type) where
  /-- what was noted, in order -/
  notes : List ω
  /-- how the run ended -/
  outcome : Except Fault α

namespace Run

variable {ω ψ α β γ : Type}

/-- Ends at once with a result. -/
protected def pure (a : α) : Run ω α := ⟨[], .ok a⟩

/-- Ends at once in a fault. -/
def fail (fault : Fault) : Run ω α := ⟨[], .error fault⟩

/-- Notes one object. -/
def note (o : ω) : Run ω Unit := ⟨[o], .ok ()⟩

/-- Goes on with the result of a run, unless it ended in a fault. -/
protected def bind (run : Run ω α) (next : α → Run ω β) : Run ω β :=
  match run.outcome with
  | .ok a =>
    let rest := next a
    ⟨run.notes ++ rest.notes, rest.outcome⟩
  | .error fault => ⟨run.notes, .error fault⟩

instance : Monad (Run ω) where
  pure := Run.pure
  bind := Run.bind

/-- The run that ends at once as the host computation did. -/
def ofExcept (e : Except HostError α) : Run ω α := ⟨[], e.mapError .host⟩

/-- The run that ends at once with a text that was made, or in what kept it from that. -/
def ofText (e : Except Obstacle α) : Run ω α := ⟨[], e.mapError Obstacle.fault⟩

/-- The run with each note replaced by another. -/
def mapNotes (f : ω → ψ) (run : Run ω α) : Run ψ α := ⟨run.notes.map f, run.outcome⟩

/-! ## Laws -/

@[ext] theorem ext {r s : Run ω α} (hn : r.notes = s.notes) (ho : r.outcome = s.outcome) :
    r = s := by
  cases r; cases s
  subst hn; subst ho
  rfl

theorem pure_def (a : α) : (pure a : Run ω α) = ⟨[], .ok a⟩ := rfl

theorem bind_def (run : Run ω α) (next : α → Run ω β) : run >>= next = run.bind next := rfl

/-- After a result the next run adds its notes. -/
theorem bind_ok (notes : List ω) (a : α) (next : α → Run ω β) :
    (⟨notes, .ok a⟩ : Run ω α) >>= next = ⟨notes ++ (next a).notes, (next a).outcome⟩ := rfl

/-- After a fault nothing follows. -/
@[simp] theorem bind_error (notes : List ω) (fault : Fault) (next : α → Run ω β) :
    (⟨notes, .error fault⟩ : Run ω α) >>= next = ⟨notes, .error fault⟩ := rfl

theorem bind_of_ok {run : Run ω α} {a : α} (h : run.outcome = .ok a) (next : α → Run ω β) :
    run >>= next = ⟨run.notes ++ (next a).notes, (next a).outcome⟩ := by
  obtain ⟨notes, outcome⟩ := run
  obtain rfl : outcome = .ok a := h
  rfl

theorem bind_of_error {run : Run ω α} {fault : Fault} (h : run.outcome = .error fault)
    (next : α → Run ω β) : run >>= next = ⟨run.notes, .error fault⟩ := by
  obtain ⟨notes, outcome⟩ := run
  obtain rfl : outcome = .error fault := h
  rfl

/-- Inversion: what follows gave the result, from a result that came before. -/
theorem outcome_bind_eq_ok {run : Run ω α} {next : α → Run ω β} {b : β}
    (h : (run >>= next).outcome = .ok b) :
    ∃ a, run.outcome = .ok a ∧ (next a).outcome = .ok b := by
  cases ho : run.outcome with
  | error fault =>
    rw [bind_of_error ho] at h
    cases h
  | ok a =>
    rw [bind_of_ok ho] at h
    exact ⟨a, rfl, h⟩

/-- A result alone changes nothing in what follows. -/
@[simp] theorem pure_bind' (a : α) (next : α → Run ω β) :
    (pure a : Run ω α) >>= next = next a := by
  simp [pure_def, bind_ok]

instance : LawfulMonad (Run ω) := LawfulMonad.mk' _
  (fun run => by
    obtain ⟨notes, _ | a⟩ := run
    · rfl
    · exact ext (by simp [Functor.map, Run.bind, Run.pure]) rfl)
  (fun a next => pure_bind' a next)
  (fun run next after => by
    obtain ⟨notes, _ | a⟩ := run
    · rfl
    · simp only [bind_ok]
      cases h : (next a).outcome with
      | error fault => simp [bind_def, Run.bind, h]
      | ok b => simp [bind_def, Run.bind, h, List.append_assoc])

end Run

/-! ## Events -/

/-- What a program notes: the lines it writes, and the arguments of its spies. -/
inductive Event where
  /-- a line of output -/
  | line (text : String)
  /-- a line of output for complaints -/
  | complaint (text : String)
  /-- a spy was called with this value -/
  | call (argument : Value)

namespace Event

/-- Writes some lines. -/
def print (lines : List String) : Run Event Unit := ⟨lines.map .line, .ok ()⟩

/-- What is written to the output, line by line. -/
def output (events : List Event) : String :=
  String.join (events.map fun
    | .line text => text ++ "\n"
    | _ => "")

@[simp] theorem output_nil : output [] = "" := rfl

theorem output_append (events more : List Event) :
    output (events ++ more) = output events ++ output more := by
  simp [output]

/-- A line is written with its end. -/
theorem output_line (text : String) (events : List Event) :
    output (.line text :: events) = text ++ "\n" ++ output events := by
  simp [output]

/-- What is written to the output for complaints, line by line. -/
def complaints (events : List Event) : String :=
  String.join (events.map fun
    | .complaint text => text ++ "\n"
    | _ => "")

/-- The arguments that spies were called with. -/
def calls (events : List Event) : List Value :=
  events.filterMap fun
    | .call argument => some argument
    | _ => none

end Event

end CallByValue
