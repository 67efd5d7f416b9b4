import CallByValue.Proofs.Depth

/-!
# Runs that are followed

Two evaluations that do not take the same steps cannot be run side by side under one limit. Instead,
a run under some limit is **followed** by a computation, which may need another limit to come to a
related end. What the one side does in between, without an effect on its end, is a **stutter**.

* `Limited.Raises` — a computation ends in a fault, other than that of the limit;
* `Run.FollowedBy` — a computation follows a run: it returns a related result, or raises a related
  fault;
* `Run.FollowedBy.bind` — following is kept by what comes next;
* `Run.FollowedBy.stutter_left`, `Run.FollowedBy.stutter_right` — either side may pass its result on
  once more.
-/

namespace CallByValue

variable {α β γ δ : Type}

/-! ## Faults without a limit -/

namespace Limited

/-- Under some limit the computation ends in this fault, which is not that of the limit. -/
def Raises (c : Limited α) (fault : Fault) : Prop :=
  fault ≠ .depthExceeded ∧ ∃ n, (c.run n).outcome = .error fault

variable {c d : Limited α} {fault : Fault}

/-- A computation raises a fault when it ends in it. -/
theorem raises_iff : c.Raises fault ↔ ∃ notes, c.Ends ⟨notes, .error fault⟩ := by
  constructor
  · rintro ⟨hne, n, hn⟩
    exact ⟨(c.run n).notes, Run.finished_error_iff.mpr hne, n, Run.ext rfl hn⟩
  · rintro ⟨notes, hf, n, hn⟩
    exact ⟨Run.finished_error_iff.mp hf, n, by rw [hn]⟩

/-- Equivalent computations raise the same faults. -/
theorem raises_congr (h : c ≈ d) (fault : Fault) : c.Raises fault ↔ d.Raises fault := by
  rw [raises_iff, raises_iff]
  exact exists_congr fun notes => h _

/-- After a fault nothing follows. -/
theorem Raises.bind (h : c.Raises fault) (next : α → Limited β) : (c >>= next).Raises fault := by
  obtain ⟨notes, hc⟩ := raises_iff.mp h
  exact raises_iff.mpr ⟨notes, hc.bind_error next⟩

/-- What follows a result may raise a fault. -/
theorem Returns.bind_raises {next : α → Limited β} {a : α} (hc : c.Returns a)
    (hn : (next a).Raises fault) : (c >>= next).Raises fault := by
  obtain ⟨notes, hc⟩ := returns_iff.mp hc
  obtain ⟨more, hn⟩ := raises_iff.mp hn
  exact raises_iff.mpr ⟨notes ++ more, hc.bind_ok hn⟩

end Limited

/-! ## Following -/

namespace Run

/-- The computation follows the run: where the run has a result it returns a related one, and where
the run ended in a fault it raises a related one. A run that reached the limit is followed by every
computation. -/
structure FollowedBy (value : α → β → Prop) (fault : Fault → Fault → Prop) (run : Run Value α)
    (c : Limited β) : Prop where
  /-- a result -/
  returns : ∀ a, run.outcome = .ok a → ∃ b, c.Returns b ∧ value a b
  /-- a fault, other than that of the limit -/
  raises : ∀ f, run.outcome = .error f → f ≠ .depthExceeded → ∃ g, c.Raises g ∧ fault f g

namespace FollowedBy

variable {value : α → β → Prop} {fault : Fault → Fault → Prop} {run : Run Value α} {c d : Limited β}

/-- A result is followed by a computation that returns a related one. -/
theorem pure {a : α} {b : β} (hc : c.Returns b) (h : value a b) :
    FollowedBy value fault (pure a : Run Value α) c where
  returns a' ha := ⟨b, hc, Except.ok.inj ha ▸ h⟩
  raises f hf := by cases hf

/-- A fault is followed by a computation that raises a related one. -/
theorem fail {f g : Fault} (hc : c.Raises g) (h : fault f g) :
    FollowedBy value fault (Run.fail f : Run Value α) c where
  returns a ha := by cases ha
  raises f' hf _ := ⟨g, hc, Except.error.inj hf ▸ h⟩

/-- The fault of the limit is followed by every computation. -/
theorem depthExceeded : FollowedBy value fault (Run.fail .depthExceeded : Run Value α) c where
  returns a ha := by cases ha
  raises f hf hne := absurd (Except.error.inj hf).symm hne

/-- An equivalent computation follows the run as well. -/
theorem congr (h : run.FollowedBy value fault c) (hcd : c ≈ d) :
    run.FollowedBy value fault d where
  returns a ha := by
    obtain ⟨b, hb, hab⟩ := h.returns a ha
    exact ⟨b, (Limited.returns_congr hcd b).mp hb, hab⟩
  raises f hf hne := by
    obtain ⟨g, hg, hfg⟩ := h.raises f hf hne
    exact ⟨g, (Limited.raises_congr hcd g).mp hg, hfg⟩

/-- Related results can be followed by computations that follow what comes next. -/
theorem bind {value' : γ → δ → Prop} {run : Run Value α} {c : Limited β}
    {next : α → Run Value γ} {next' : β → Limited δ} (h : run.FollowedBy value fault c)
    (hn : ∀ a b, value a b → (next a).FollowedBy value' fault (next' b)) :
    (run >>= next).FollowedBy value' fault (c >>= next') := by
  cases ho : run.outcome with
  | error f =>
    rw [bind_of_error ho]
    refine ⟨nofun, fun g hg hne => ?_⟩
    obtain rfl := Except.error.inj hg
    obtain ⟨g, hg, hfg⟩ := h.raises f ho hne
    exact ⟨g, hg.bind next', hfg⟩
  | ok a =>
    obtain ⟨b, hb, hab⟩ := h.returns a ho
    have hnext := hn a b hab
    rw [bind_of_ok ho]
    refine ⟨fun a' ha' => ?_, fun f hf hne => ?_⟩
    · obtain ⟨b', hb', hab'⟩ := hnext.returns a' ha'
      exact ⟨b', hb.bind hb', hab'⟩
    · obtain ⟨g, hg, hfg⟩ := hnext.raises f hf hne
      exact ⟨g, hb.bind_raises hg, hfg⟩

/-- The run may pass its result on once more. -/
theorem stutter_left {next : α → Run Value α} (h : run.FollowedBy value fault c)
    (hn : ∀ a b, value a b → (next a).outcome = .ok a) :
    (run >>= next).FollowedBy value fault c := by
  cases ho : run.outcome with
  | error f =>
    rw [bind_of_error ho]
    exact ⟨nofun, fun g hg hne => h.raises g (ho.trans hg) hne⟩
  | ok a =>
    obtain ⟨b, hb, hab⟩ := h.returns a ho
    rw [bind_of_ok ho, hn a b hab]
    exact ⟨fun a' ha' => ⟨b, hb, Except.ok.inj ha' ▸ hab⟩, nofun⟩

/-- The computation may pass its result on once more. -/
theorem stutter_right {next : β → Limited β} (h : run.FollowedBy value fault c)
    (hn : ∀ a b, value a b → (next b).Returns b) :
    run.FollowedBy value fault (c >>= next) where
  returns a ha := by
    obtain ⟨b, hb, hab⟩ := h.returns a ha
    exact ⟨b, hb.bind (hn a b hab), hab⟩
  raises f hf hne := by
    obtain ⟨g, hg, hfg⟩ := h.raises f hf hne
    exact ⟨g, hg.bind next, hfg⟩

end FollowedBy

end Run

end CallByValue
