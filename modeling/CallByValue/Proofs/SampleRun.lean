import CallByValue.Proofs.Limits
import CallByValue.Proofs.Nesting
import CallByValue.Proofs.Scope

/-!
# What a sample run writes

The run of a sample under a fatal handler writes the text of the term, a warning if the term is
open, and then its value, or the reason why there is none. Names may be any texts: they are written
as they are, wherever they occur. All of it is subject to the limit on depth, so that of a term that
is too high nothing is written but that the limit was reached.

* `Sample.warningText` — the warning about a free name, with the lines that point at it;
* `Sample.exists_warning` — nothing is written about a closed term, and that warning about the
  smallest free name of an open one;
* `Sample.conclude` — the run behind the warning, and `Sample.exists_conclude_eq` what it comes to;
* `Sample.runUnder_of_value`, `Sample.runUnder_of_fault` — the runs that come to a value or to a
  fault;
* `Sample.runUnder_of_height` — the runs of terms that are too high;
* `Sample.runUnder_writes` — all that is written, and how the run ends.
-/

namespace CallByValue

namespace Sample

variable {host : Text.Host}

/-! ## The warning -/

/-- The warning about a term that is shown as `shown` and has `name` free at an `offset`: a line
that says so and, if there is anything to point at, the lines that point at it. -/
def warningText (shown name : String) (offset : Nat) : String :=
  String.join ["warning: '", shown, "' has free variable '", name, "'\n"] ++
    if shown = "" then "" else "  " ++ shown ++ "\n" ++ pointer offset (name.length - 1) ++ "\n"

theorem warningText_ne_empty (shown name : String) (offset : Nat) :
    warningText shown name offset ≠ "" := by
  intro h
  simp [warningText] at h

/-- The report of a free `name` at an `offset` in the text of a term. -/
def openReport (shown name : String) (offset : Nat) : Report :=
  (openNotice shown name offset).reportOf shown [name]

/-- The span of the warning stops behind the name. -/
theorem openReport_stop (shown name : String) (offset : Nat) :
    (openReport shown name offset).stop = offset + name.length := by
  have hne : (offset : Int) + name.length ≠ -1 := by omega
  simp only [openReport, Notice.reportOf, openNotice]
  exact if_neg hne

section

variable {shown name : String} {offset : Nat} (h : offset + name.length ≤ shown.length)
include h

/-- There is room for the underline, if there is for the text. -/
theorem openReport_fits (hroom : shown.length ≤ host.room) :
    (openReport shown name offset).Fits host := by
  have hlt := host.room_lt
  have hstart : (openReport shown name offset).start = offset := rfl
  refine ⟨?_, ?_⟩
  · rw [hstart]
    refine ⟨⟨?_, ?_⟩, ?_⟩ <;> omega
  · rw [hstart, openReport_stop]
    refine ⟨⟨?_, ?_⟩, ?_⟩ <;> omega

/-- The lines that point at the name: its span is not crossed, so the text is shown as it is. -/
theorem openReport_diagnose (hoff : ∀ ink text, host.colored ink text = text)
    (hroom : shown.length ≤ host.room) :
    (openReport shown name offset).diagnose host .magenta =
      .ok ("  " ++ shown ++ "\n" ++ pointer offset (name.length - 1)) := by
  have hstart : (openReport shown name offset).start = offset := rfl
  have hsnippet : (openReport shown name offset).snippet = shown := rfl
  have hentry : (openReport shown name offset).entry ≤
      max (openReport shown name offset).stop 1 := by
    rw [Report.entry, openReport_stop, hstart, hsnippet]
    omega
  rw [Report.diagnose_eq_ok hoff .magenta (openReport_fits h hroom),
    (Report.textLine_eq_iff hoff .magenta _).mpr hentry, openReport_stop, hstart, hsnippet]
  have hblanks : (max (offset : Int) 0).toNat = offset := by omega
  have htildes : (max 0 (max ((offset : Int) + name.length) 1 - offset - 1)).toNat =
      name.length - 1 := by omega
  rw [hblanks, htildes]

/-- What is written for the warning. -/
theorem exists_warn_eq (hoff : ∀ ink text, host.colored ink text = text)
    (hroom : shown.length ≤ host.room) (depth : Nat) (fatal : Bool) :
    ∃ notes, Handler.warn depth ⟨host, fatal⟩ (openNotice shown name offset) = ⟨notes, .ok ()⟩ ∧
      Event.output notes = warningText shown name offset := by
  have hwarn : Handler.warn depth ⟨host, fatal⟩ (openNotice shown name offset) =
      (openReport shown name offset).printWarning host := by
    rw [Handler.warn, openNotice_report]
    rfl
  have hmessage : (openReport shown name offset).message host =
      "'" ++ shown ++ "' has free variable '" ++ name ++ "'" := by
    rw [openReport, openNotice_message, hoff, hoff]
  have hpointed : (openReport shown name offset).isPointed = decide (shown ≠ "") :=
    Bool.and_true _
  rw [hwarn, Report.printWarning, Report.print, hmessage, hoff, hpointed,
    openReport_diagnose h hoff hroom]
  by_cases hs : shown = ""
  · rw [decide_eq_false (not_not.mpr hs)]
    refine ⟨[.line ("warning: " ++ ("'" ++ shown ++ "' has free variable '" ++ name ++ "'"))],
      rfl, ?_⟩
    rw [← String.toList_inj]
    simp [warningText, hs, Event.output_line]
  · rw [decide_eq_true hs]
    refine ⟨[.line ("warning: " ++ ("'" ++ shown ++ "' has free variable '" ++ name ++ "'")),
      .line ("  " ++ shown ++ "\n" ++ pointer offset (name.length - 1))], rfl, ?_⟩
    rw [← String.toList_inj]
    simp [warningText, hs, Event.output_line]

end

variable {t : Term} {depth : Nat}

/-- Nothing is written about a closed term. -/
theorem warnIfOpen_of_closed (h : Handler) (shown : String) (ht : t.Native)
    (hd : t.height < depth) (hc : t.isClosed = true) : warnIfOpen depth h shown t = pure () := by
  rw [warnIfOpen, ht.isClosedWithin_eq, withinDepth_of_le hd, hc]
  rfl

/-- About an open term a warning is written, which points at the smallest free name. -/
theorem exists_warnIfOpen_eq (h : Handler) (ht : t.Native) (hd : t.height < depth)
    (hc : t.isClosed = false) :
    ∃ (x : String) (p : Nat), x ∈ t.freeNames ∧ (∀ y ∈ t.freeNames, x ≤ y) ∧
      t.position x = .ok (some p) ∧ p + x.length ≤ t.text.length ∧
      Text.between t.text p (p + x.length) = x ∧
      warnIfOpen depth h t.text t = h.warn depth (openNotice t.text x p) := by
  have hle : t.height ≤ depth := Nat.le_of_lt hd
  cases hs : Term.sortNames t.freeNames with
  | nil =>
    have hempty := t.isEmpty_sortNames
    rw [hs, hc] at hempty
    cases hempty
  | cons x rest =>
    obtain ⟨hx, hleast⟩ := Term.sortNames_head hs
    obtain ⟨before, after, hp, htext⟩ := Term.position_of_mem ht hx
    obtain ⟨found, hfound, hf⟩ := ht.freePosition_eq x hle
    obtain rfl : some before.length = found := Except.ok.inj (hp.symm.trans hfound)
    refine ⟨x, before.length, hx, hleast, hp, ?_, ?_, ?_⟩
    · rw [htext, String.length_append, String.length_append]
      omega
    · rw [htext]
      exact Text.between_append before x after
    · rw [warnIfOpen, ht.isClosedWithin_eq, withinDepth_of_le hd, hc, ht.freeSet_eq,
        withinDepth_of_le hle, hs]
      change (Run.ofText (t.freePosition x depth) >>= fun offset =>
        h.warn depth (openNotice t.text x offset)) = _
      rw [hf]
      rfl

/-- What the warning writes; it never ends the run. -/
theorem exists_warning (hoff : ∀ ink text, host.colored ink text = text) (fatal : Bool)
    (ht : t.Native) (hd : t.height < depth) (hroom : t.text.length ≤ host.room) :
    ∃ notes, warnIfOpen depth ⟨host, fatal⟩ t.text t = ⟨notes, .ok ()⟩ ∧
      (Event.output notes = "" ↔ t.isClosed = true) ∧
      (t.isClosed = false → ∃ (x : String) (p : Nat),
        x ∈ t.freeNames ∧ (∀ y ∈ t.freeNames, x ≤ y) ∧ t.position x = .ok (some p) ∧
        p + x.length ≤ t.text.length ∧ Text.between t.text p (p + x.length) = x ∧
        Event.output notes = warningText t.text x p) := by
  cases hc : t.isClosed with
  | true => exact ⟨[], warnIfOpen_of_closed _ t.text ht hd hc, by simp, nofun⟩
  | false =>
    obtain ⟨x, p, hx, hleast, hp, hle, hname, hopen⟩ :=
      exists_warnIfOpen_eq ⟨host, fatal⟩ ht hd hc
    obtain ⟨notes, hwarn, hout⟩ := exists_warn_eq hle hoff hroom depth fatal
    exact ⟨notes, hopen.trans hwarn,
      ⟨fun h => absurd (hout.symm.trans h) (warningText_ne_empty _ _ _), nofun⟩,
      fun _ => ⟨x, p, hx, hleast, hp, hle, hname, hout⟩⟩

/-! ## The run -/

/-- What the run of a sample does behind the warning. -/
def conclude (depth : Nat) (sample : Sample) : Run Event Value := do
  let value ← ((evaluate depth .empty sample.term).mapNotes .call).worded depth
  let result ← .ofText (value.renderWithin depth)
  Event.print ["Result: " ++ result]
  if sample.numeric then
    let number ← ((Church.decodeNumeral depth value).mapNotes .call).worded depth
    let decoded ← .ofText ((Text.writeInt number).mapError Obstacle.ofLimit)
    Event.print ["Decoded: " ++ decoded]
  return value

/-- The parts of a run, one after the other. -/
theorem run_eq (depth : Nat) (handler? : Option Handler) (sample : Sample) :
    sample.run depth handler? =
      Run.ofText (sample.term.renderWithin depth) >>= fun shown =>
        Event.print ["Evaluating expression: " ++ shown] >>= fun _ =>
          (match handler? with
            | some h => warnIfOpen depth h shown sample.term
            | none => pure ()) >>= fun _ => conclude depth sample := by
  cases handler? <;> rfl

/-- The conclusion shows the value of the term, or ends in the variable that is blamed, which is
free in the term, or in the limit: that was reached by evaluation, or the value is too high to be
shown. -/
theorem exists_conclude_eq (ht : t.Native) (depth : Nat) :
    (∃ v text, (evaluate depth .empty t).outcome = .ok v ∧ v.render = .ok text ∧
        v.renderWithin depth = .ok text ∧
        conclude depth ⟨t, false⟩ = ⟨[.line ("Result: " ++ text)], .ok v⟩) ∨
    (∃ x ∈ t.freeNames, (evaluate depth .empty t).outcome = .error (.unbound x) ∧
        conclude depth ⟨t, false⟩ = .fail (.unbound x)) ∨
    (((evaluate depth .empty t).outcome = .error .depthExceeded ∨
        ∃ v, (evaluate depth .empty t).outcome = .ok v ∧ v.renderWithin depth = .error .tooDeep) ∧
      conclude depth ⟨t, false⟩ = .fail .depthExceeded) := by
  rw [conclude]
  rcases (evaluate_empty_scoped depth ht).outcomes with ⟨v, hv, hvn, -⟩ | ⟨x, hx, hv⟩ | hv
  · obtain ⟨height, text, hr, hall⟩ := hvn.exists_renderWithin_eq
    rw [hv]
    change _ ∨ _ ∨ (_ ∧ (Run.ofText (v.renderWithin depth) >>= _) = _)
    -- what was evaluated within the limit may still be too high to be shown
    rcases Nat.lt_or_ge depth height with hlt | hge
    · have hw : v.renderWithin depth = .error .tooDeep := by rw [hall, withinDepth_of_lt hlt]
      exact .inr (.inr ⟨.inr ⟨v, rfl, hw⟩, by rw [hw]; rfl⟩)
    · have hw : v.renderWithin depth = .ok text := by rw [hall, withinDepth_of_le hge]
      refine .inl ⟨v, text, rfl, hr, hw, ?_⟩
      change (Run.ofText (v.renderWithin depth) >>= _) = _
      rw [hw]
      rfl
  · rw [hv]
    exact .inr (.inl ⟨x, hx, rfl, rfl⟩)
  · rw [hv]
    exact .inr (.inr ⟨.inl rfl, rfl⟩)

/-! ## The end of the run -/

/-- A fault that is told in one line ends a run under a fatal handler with that line. -/
theorem runUnder_of_told (hoff : ∀ ink text, host.colored ink text = text) {sample : Sample}
    {notes : List Event} {fault : Fault} {r : Report}
    (hrun : sample.run depth (some ⟨host, true⟩) = ⟨notes, .error fault⟩)
    (hr : fault.told? = some r) (hp : r.isPointed = false) (hi : r.internal = false) :
    runUnder depth ⟨host, true⟩ (.ok sample) =
      ⟨notes ++ [.line ("error: " ++ r.message host)], .error (.exit "1")⟩ := by
  have hs : Handler.setback? ⟨host, true⟩ fault = none := by
    rw [Handler.setback?_of_told hr, Report.setback?_of_not_isPointed hp]
    rfl
  have hlines : r.errorLines host = ["error: " ++ r.message host] := by
    simp [Report.errorLines, hp, hi, hoff]
  change Handler.guard ⟨host, true⟩ (sample.run depth (some ⟨host, true⟩)) = _
  rw [Handler.guard_of_told (congrArg Run.outcome hrun) hr hs, hrun, hlines]
  rfl

/-- That the limit was reached is told in one line. -/
theorem runUnder_of_depthExceeded (hoff : ∀ ink text, host.colored ink text = text)
    {sample : Sample} {notes : List Event}
    (hrun : sample.run depth (some ⟨host, true⟩) = ⟨notes, .error .depthExceeded⟩) :
    runUnder depth ⟨host, true⟩ (.ok sample) =
      ⟨notes ++ [.line "error: maximum recursion depth exceeded (term may diverge)"],
        .error (.exit "1")⟩ := by
  rw [runUnder_of_told hoff hrun rfl rfl rfl, Handler.depth_message]
  rfl

section

variable {notes : List Event} (ht : t.Native) (hd : t.height < depth)
  (hw : warnIfOpen depth ⟨host, true⟩ t.text t = ⟨notes, .ok ()⟩)
include ht hd hw

/-- The run up to the warning, of a term that is not too high. -/
theorem run_of_warning :
    Sample.run depth (some ⟨host, true⟩) ⟨t, false⟩ =
      ⟨.line ("Evaluating expression: " ++ t.text) :: notes, .ok ()⟩ >>= fun _ =>
        conclude depth ⟨t, false⟩ := by
  rw [run_eq, ht.renderWithin_eq, withinDepth_of_le (Nat.le_of_lt hd)]
  change Event.print _ >>= (fun _ => warnIfOpen depth ⟨host, true⟩ t.text t >>= _) = _
  rw [hw]
  rfl

/-- A run that comes to a value ends with it. -/
theorem runUnder_of_value {v : Value} {last : String}
    (hc : conclude depth ⟨t, false⟩ = ⟨[.line last], .ok v⟩) :
    runUnder depth ⟨host, true⟩ (.ok ⟨t, false⟩) =
      ⟨.line ("Evaluating expression: " ++ t.text) :: (notes ++ [.line last]), .ok (some v)⟩ := by
  have hrun := run_of_warning ht hd hw
  rw [hc, Run.bind_ok] at hrun
  change Handler.guard ⟨host, true⟩ (Sample.run depth (some ⟨host, true⟩) ⟨t, false⟩) = _
  rw [Handler.guard_ok (congrArg Run.outcome hrun), hrun]
  rfl

/-- A run that comes to a fault which is told in one line ends with that line. -/
theorem runUnder_of_fault (hoff : ∀ ink text, host.colored ink text = text) {fault : Fault}
    {r : Report} (hc : conclude depth ⟨t, false⟩ = .fail fault) (hr : fault.told? = some r)
    (hp : r.isPointed = false) (hi : r.internal = false) :
    runUnder depth ⟨host, true⟩ (.ok ⟨t, false⟩) =
      ⟨.line ("Evaluating expression: " ++ t.text) ::
        (notes ++ [.line ("error: " ++ r.message host)]), .error (.exit "1")⟩ := by
  have hrun := run_of_warning ht hd hw
  rw [hc, Run.bind_ok] at hrun
  rw [runUnder_of_told hoff hrun hr hp hi]
  change (⟨_ :: ((notes ++ []) ++ _), _⟩ : Run Event (Option Value)) = _
  rw [List.append_nil]

end

/-- Of a term that is higher than the limit nothing is shown. Of one that is just as high the text
is, but it is not found out whether the term is closed. -/
theorem runUnder_of_height (depth : Nat) (hoff : ∀ ink text, host.colored ink text = text)
    (ht : t.Native) :
    (depth < t.height → runUnder depth ⟨host, true⟩ (.ok ⟨t, false⟩) =
      ⟨[.line "error: maximum recursion depth exceeded (term may diverge)"],
        .error (.exit "1")⟩) ∧
    (depth = t.height → runUnder depth ⟨host, true⟩ (.ok ⟨t, false⟩) =
      ⟨[.line ("Evaluating expression: " ++ t.text),
        .line "error: maximum recursion depth exceeded (term may diverge)"],
        .error (.exit "1")⟩) := by
  refine ⟨fun hlt => ?_, ?_⟩
  · have hrun : Sample.run depth (some ⟨host, true⟩) ⟨t, false⟩ = ⟨[], .error .depthExceeded⟩ := by
      rw [run_eq, ht.renderWithin_eq, withinDepth_of_lt hlt]
      rfl
    exact runUnder_of_depthExceeded hoff hrun
  · rintro rfl
    -- asking whether the term is closed takes one level more than showing it
    have hrun : Sample.run t.height (some ⟨host, true⟩) ⟨t, false⟩ =
        ⟨[.line ("Evaluating expression: " ++ t.text)], .error .depthExceeded⟩ := by
      rw [run_eq, ht.renderWithin_eq, withinDepth_of_le (Nat.le_refl _)]
      change Event.print _ >>= (fun _ => warnIfOpen t.height ⟨host, true⟩ t.text t >>= _) = _
      rw [warnIfOpen, ht.isClosedWithin_eq, withinDepth_of_lt (Nat.lt_succ_self _)]
      rfl
    exact runUnder_of_depthExceeded hoff hrun

/-- The text of the first line, of the warning and of the last line. -/
theorem output_lines (first last : String) (notes : List Event) :
    Event.output (.line first :: (notes ++ [.line last])) =
      first ++ "\n" ++ Event.output notes ++ (last ++ "\n") := by
  rw [Event.output_line, Event.output_append, Event.output_line, Event.output_nil]
  simp only [String.append_empty, String.append_assoc]

/-- **What a sample run writes**, under a fatal handler without colour, for any term without foreign
leaves. If the term is lower than the limit on depth and there is room for its text, that is: the
text; if the term is open the warning that points at its smallest free name; and then the value,
which is the value of the term, or the variable that was blamed, which is free in the term, or that
the limit was reached, in evaluation or in showing the value. The last two end the program. Of a
term that is just as high as the limit only the text is written before that, and of a higher one
nothing. -/
theorem runUnder_writes {host : Text.Host} (hoff : ∀ ink text, host.colored ink text = text)
    {t : Term} (ht : t.Native) (depth : Nat) :
    ∃ shown : String, t.render = .ok shown ∧
      (t.height < depth → shown.length ≤ host.room → ∃ warning result : String,
        Event.output (runUnder depth ⟨host, true⟩ (.ok ⟨t, false⟩)).notes =
          "Evaluating expression: " ++ shown ++ "\n" ++ warning ++ result ∧
        (warning = "" ↔ t.isClosed = true) ∧
        (t.isClosed = false → ∃ (x : String) (p : Nat),
          x ∈ t.freeNames ∧ (∀ y ∈ t.freeNames, x ≤ y) ∧ t.position x = .ok (some p) ∧
          p + x.length ≤ shown.length ∧ Text.between shown p (p + x.length) = x ∧
          warning = warningText shown x p) ∧
        ((∃ v text, (evaluate depth .empty t).outcome = .ok v ∧ v.render = .ok text ∧
            v.renderWithin depth = .ok text ∧
            (runUnder depth ⟨host, true⟩ (.ok ⟨t, false⟩)).outcome = .ok (some v) ∧
            result = "Result: " ++ text ++ "\n") ∨
          (∃ x ∈ t.freeNames, t.isClosed = false ∧
            (evaluate depth .empty t).outcome = .error (.unbound x) ∧
            (runUnder depth ⟨host, true⟩ (.ok ⟨t, false⟩)).outcome = .error (.exit "1") ∧
            result = "error: unbound variable '" ++ x ++ "'\n") ∨
          (((evaluate depth .empty t).outcome = .error .depthExceeded ∨
              ∃ v, (evaluate depth .empty t).outcome = .ok v ∧
                v.renderWithin depth = .error .tooDeep) ∧
            (runUnder depth ⟨host, true⟩ (.ok ⟨t, false⟩)).outcome = .error (.exit "1") ∧
            result = "error: maximum recursion depth exceeded (term may diverge)\n"))) ∧
      (depth = t.height →
        Event.output (runUnder depth ⟨host, true⟩ (.ok ⟨t, false⟩)).notes =
          "Evaluating expression: " ++ shown ++ "\n" ++
            "error: maximum recursion depth exceeded (term may diverge)\n" ∧
        (runUnder depth ⟨host, true⟩ (.ok ⟨t, false⟩)).outcome = .error (.exit "1")) ∧
      (depth < t.height →
        Event.output (runUnder depth ⟨host, true⟩ (.ok ⟨t, false⟩)).notes =
          "error: maximum recursion depth exceeded (term may diverge)\n" ∧
        (runUnder depth ⟨host, true⟩ (.ok ⟨t, false⟩)).outcome = .error (.exit "1")) := by
  obtain ⟨hhigher, hjust⟩ := runUnder_of_height depth hoff ht
  refine ⟨t.text, ht.render, fun hd hroom => ?_, fun heq => ?_, fun hlt => ?_⟩
  · obtain ⟨notes, hw, hempty, hopen⟩ := exists_warning hoff true ht hd hroom
    -- a value, a variable that is blamed, or the limit
    rcases exists_conclude_eq ht depth with ⟨v, text, hv, hr, hs, hc⟩ | ⟨x, hx, hv, hc⟩ | ⟨hv, hc⟩
    · rw [runUnder_of_value ht hd hw hc]
      exact ⟨Event.output notes, _, output_lines _ _ _, hempty, hopen,
        .inl ⟨v, text, hv, hr, hs, rfl, rfl⟩⟩
    · have hopened : t.isClosed = false := by
        cases hclosed : t.isClosed with
        | false => rfl
        | true =>
          rw [Term.isClosed_iff.mp hclosed] at hx
          cases hx
      rw [runUnder_of_fault ht hd hw hoff hc rfl (Bool.and_false _) rfl, Fault.unbound_message,
        hoff]
      refine ⟨Event.output notes, _, output_lines _ _ _, hempty, hopen,
        .inr (.inl ⟨x, hx, hopened, hv, rfl, ?_⟩)⟩
      simp only [String.append_assoc]
      rfl
    · rw [runUnder_of_fault ht hd hw hoff hc rfl rfl rfl, Handler.depth_message]
      exact ⟨Event.output notes, _, output_lines _ _ _, hempty, hopen, .inr (.inr ⟨hv, rfl, rfl⟩)⟩
  · rw [hjust heq]
    exact ⟨by rw [Event.output_line]; rfl, rfl⟩
  · rw [hhigher hlt]
    exact ⟨rfl, rfl⟩

/-- An open term with brackets for names, and an empty one for a parameter. -/
def braced : Term := .app (.var "\x7d") (.abs "" (.var "\x7b"))

/-- The warning is about the smaller of the two names, and the error about the one that is reached
first. With a limit of three nothing is written but the term, and with less not even that. -/
theorem braced_writes : (∀ ink text, (Text.terminal false).colored ink text = text) ∧
    braced.Native ∧
    Event.output (runUnder 4 ⟨Text.terminal false, true⟩ (.ok ⟨braced, false⟩)).notes =
      "Evaluating expression: (\x7d (λ. \x7b))\n" ++ warningText "(\x7d (λ. \x7b))" "\x7b" 7 ++
        "error: unbound variable '\x7d'\n" ∧
    Event.output (runUnder 3 ⟨Text.terminal false, true⟩ (.ok ⟨braced, false⟩)).notes =
      "Evaluating expression: (\x7d (λ. \x7b))\n" ++
        "error: maximum recursion depth exceeded (term may diverge)\n" ∧
    Event.output (runUnder 2 ⟨Text.terminal false, true⟩ (.ok ⟨braced, false⟩)).notes =
      "error: maximum recursion depth exceeded (term may diverge)\n" := by
  have hoff : ∀ ink text, (Text.terminal false).colored ink text = text := fun _ _ => rfl
  have hnative : braced.Native := by decide
  obtain ⟨shown, hs, hwrites, -⟩ := runUnder_writes hoff hnative 4
  obtain ⟨shown', hs', -, hjust, -⟩ := runUnder_writes hoff hnative 3
  obtain ⟨-, -, -, -, hhigher⟩ := runUnder_writes hoff hnative 2
  obtain rfl : "(\x7d (λ. \x7b))" = shown := Except.ok.inj hs
  obtain rfl : "(\x7d (λ. \x7b))" = shown' := Except.ok.inj hs'
  obtain ⟨warning, result, hout, -, hopen, hresult⟩ := hwrites (by decide) (by decide)
  have hfault : (evaluate 4 .empty braced).outcome = .error (.unbound "\x7d") := rfl
  have hwarning : warning = warningText "(\x7d (λ. \x7b))" "\x7b" 7 := by
    obtain ⟨x, p, hx, hleast, hp, -, -, hw⟩ := hopen (by decide)
    have hx' : x = "\x7d" ∨ x = "\x7b" := by simpa [braced] using hx
    rcases hx' with rfl | rfl
    · exact absurd (hleast "\x7b" (by decide)) (by decide)
    · cases hp
      exact hw
  have hend : result = "error: unbound variable '\x7d'\n" := by
    rcases hresult with ⟨v, -, hv, -⟩ | ⟨x, -, -, hx, -, hr⟩ | ⟨hd | ⟨v, hv, -⟩, -⟩
    · cases hfault.symm.trans hv
    · cases hfault.symm.trans hx
      exact hr
    · cases hfault.symm.trans hd
    · cases hfault.symm.trans hv
  rw [hwarning, hend] at hout
  exact ⟨hoff, hnative, hout, (hjust rfl).1, (hhigher (by decide)).1⟩

/-! ## A term that is too high -/

/-- The body of a numeral is as high as its number says. -/
theorem height_iterated (n : Nat) : (Church.iterated n).height = n + 1 := by
  induction n with
  | zero => rfl
  | succ n ih =>
    have hone : (Term.var "f").height = 1 := rfl
    rw [Church.iterated, Term.height, ih, hone]
    omega

theorem native_iterated (n : Nat) : (Church.iterated n).Native := by
  induction n with
  | zero => exact trivial
  | succ n ih => exact ⟨trivial, ih⟩

/-- The numeral of six thousand is a closed term of the calculus, but the limit keeps its text from
being written. -/
theorem numeral_unwritten :
    (Church.numeral 6000).Native ∧
      ∀ rest : String,
        Event.output (runUnder defaultDepth ⟨Text.terminal false, true⟩
          (.ok ⟨Church.numeral 6000, false⟩)).notes ≠ "Evaluating expression: " ++ rest := by
  have hnative : (Church.numeral 6000).Native := native_iterated 6000
  have hheight : defaultDepth < (Church.numeral 6000).height := by
    rw [Church.numeral, Term.height, Term.height, height_iterated]
    decide
  refine ⟨hnative, fun rest heq => ?_⟩
  rw [(runUnder_of_height defaultDepth (fun _ _ => rfl) hnative).1 hheight,
    ← String.toList_inj] at heq
  simp [Event.output_line] at heq

end Sample

end CallByValue
