import CallByValue.Proofs.Color.Filling
import CallByValue.Proofs.SampleRun

/-!
# Colour is decoration

A program that runs in colour does what it does without: it ends alike, and erasing the terminal
codes from what it writes leaves what is written without colour. Its own texts must hold no codes,
and its notices have to be plain.

* `Run.Decorates` — two runs that end alike, where one writes what the other does, decorated;
* `Handler.guard_decorates` — handlers keep to that, whatever fault they answer;
* `Script.run_decorates`, `Sample.run_decorates` — scripts and samples, in colour and without;
* `color_is_decoration` — so colour neither changes how they end nor what they say.
-/

namespace CallByValue

namespace Event

/-- A decorated line, and what is written after it. -/
theorem decorates_line {shown plain : String} {events events' : List Event}
    (hline : Text.Decorates shown plain)
    (hrest : Text.Decorates (output events) (output events')) :
    Text.Decorates (output (.line shown :: events)) (output (.line plain :: events')) := by
  rw [output_line, output_line]
  exact (hline.append (.literal rfl)).append hrest

theorem decorates_nil : Text.Decorates (output []) (output []) := .literal rfl

/-- Nothing is written of the calls of spies. -/
theorem output_calls (values : List Value) : output (values.map .call) = "" := by
  induction values with
  | nil => rfl
  | cons v rest ih => simpa [output] using ih

end Event

/-! ## Pairs of runs -/

/-- The two runs end alike, in a fault without codes or with a result that meets a condition, and
what the first one writes **decorates** what the second one does. -/
structure Run.Decorates {α : Type} (result : α → Prop) (shown plain : Run Event α) : Prop where
  /-- what is written in colour decorates what is written without -/
  output : Text.Decorates (Event.output shown.notes) (Event.output plain.notes)
  /-- the runs end alike -/
  outcome : shown.outcome = plain.outcome
  /-- a result meets the condition -/
  result : ∀ a, plain.outcome = .ok a → result a
  /-- what is reported of a fault holds no code -/
  fault : ∀ f, plain.outcome = .error f → f.CodeFree

namespace Run.Decorates

variable {α β : Type} {result : α → Prop} {shown plain : Run Event α}

protected theorem pure {a : α} (h : result a) :
    Run.Decorates result (pure a) (pure a) where
  output := Event.decorates_nil
  outcome := rfl
  result _ ha := Except.ok.inj ha ▸ h
  fault _ hf := by cases hf

theorem fail {f : Fault} (h : f.CodeFree) : Run.Decorates result (Run.fail f) (Run.fail f) where
  output := Event.decorates_nil
  outcome := rfl
  result _ ha := by cases ha
  fault _ hf := Except.error.inj hf ▸ h

/-- A host computation writes nothing. -/
theorem ofExcept {e : Except HostError α} (hok : ∀ a, e = .ok a → result a)
    (herror : ∀ error, e = .error error → error.CodeFree) :
    Run.Decorates result (Run.ofExcept e) (Run.ofExcept e) := by
  cases e with
  | ok a => exact .pure (hok a rfl)
  | error error => exact .fail (herror error rfl)

/-- Making a text writes nothing either. -/
theorem ofText {e : Except Obstacle α} (h : Made result e) :
    Run.Decorates result (Run.ofText e) (Run.ofText e) := by
  cases e with
  | ok a => exact .pure h
  | error o => exact .fail (Obstacle.CodeFree.fault h)

/-- Nor does evaluation, whose fault is put into words. -/
theorem calls {run : Run Value α} {note : Value → Prop} (h : run.Meets note result Fault.CodeFree)
    (depth : Nat) :
    Run.Decorates result ((run.mapNotes .call).worded depth)
      ((run.mapNotes .call).worded depth) where
  output := by
    change Text.Decorates (Event.output (run.notes.map .call)) (Event.output (run.notes.map .call))
    rw [Event.output_calls]
    exact .literal rfl
  outcome := rfl
  result a ha := by
    change run.outcome.mapError (Fault.worded depth) = .ok a at ha
    cases ho : run.outcome with
    | ok a' =>
      rw [ho] at ha
      exact h.result a (ho.trans ha)
    | error raised =>
      rw [ho] at ha
      cases ha
  fault f hf := by
    change run.outcome.mapError (Fault.worded depth) = .error f at hf
    cases ho : run.outcome with
    | ok a =>
      rw [ho] at hf
      cases hf
    | error raised =>
      rw [ho] at hf
      obtain rfl := Except.error.inj hf
      exact (h.fault raised ho).worded depth

/-- A decorated line. -/
theorem line {text text' : String} (h : Text.Decorates text text') :
    Run.Decorates (fun _ => True) (Event.print [text]) (Event.print [text']) where
  output := Event.decorates_line h Event.decorates_nil
  outcome := rfl
  result _ _ := trivial
  fault _ hf := by cases hf

/-- What follows a result has to be decorated for results that meet the condition. -/
theorem bind {next next' : α → Run Event β} {result' : β → Prop}
    (h : Run.Decorates result shown plain)
    (hn : ∀ a, result a → Run.Decorates result' (next a) (next' a)) :
    Run.Decorates result' (shown >>= next) (plain >>= next') := by
  cases ho : plain.outcome with
  | error f =>
    rw [Run.bind_of_error ho, Run.bind_of_error (h.outcome.trans ho)]
    exact ⟨h.output, rfl, nofun, fun g hg => Except.error.inj hg ▸ h.fault f ho⟩
  | ok a =>
    have hnext := hn a (h.result a ho)
    rw [Run.bind_of_ok ho, Run.bind_of_ok (h.outcome.trans ho)]
    refine ⟨?_, hnext.outcome, hnext.result, hnext.fault⟩
    rw [Event.output_append, Event.output_append]
    exact h.output.append hnext.output

end Run.Decorates

/-! ## Reports -/

section

variable {on off : Text.Host} (hosts : on.Recolors off)
include hosts

/-- There is room for the same repetitions, with colour and without. -/
theorem repeated_recolors (count : Int) (c : Char) :
    repeated on count c = repeated off count c := by
  rw [repeated, repeated, hosts.room]

omit hosts in
/-- A repeated character is no code, and neither is what is said where it cannot be repeated. -/
theorem repeated_codeFree (host : Text.Host) (count : Int) {c : Char} (hc : c ≠ '\x1b') :
    (∃ error : HostError, error.CodeFree ∧ repeated host count c = .error error) ∨
      ∃ text, Text.CodeFree text ∧ repeated host count c = .ok text := by
  have hcount : HostError.countTooLarge.CodeFree := ⟨.literal rfl, .literal rfl⟩
  have hroom : HostError.noRoom.CodeFree := ⟨.literal rfl, .literal rfl⟩
  rw [repeated]
  split
  · exact .inl ⟨_, hcount, rfl⟩
  · split
    · exact .inl ⟨_, hroom, rfl⟩
    · exact .inr ⟨_, .ofList fun hmem => hc (List.eq_of_mem_replicate hmem).symm, rfl⟩

namespace Report

/-- The underline decorates the one without colour, if there is room for it. -/
theorem underline_decorates (r : Report) (ink : Text.Ink) :
    (∃ error : HostError, error.CodeFree ∧ r.underline on ink = .error error ∧
        r.underline off ink = .error error) ∨
      ∃ shown plain, Text.Decorates shown plain ∧ r.underline on ink = .ok shown ∧
        r.underline off ink = .ok plain := by
  rw [underline, underline, repeated_recolors hosts, repeated_recolors hosts]
  obtain ⟨error, he, hblanks⟩ | ⟨blanks, hb, hblanks⟩ :=
    repeated_codeFree off r.start (by decide : ' ' ≠ '\x1b')
  · rw [hblanks]
    exact .inl ⟨error, he, rfl, rfl⟩
  · obtain ⟨error, he, htildes⟩ | ⟨tildes, ht, htildes⟩ :=
      repeated_codeFree off (r.spanStop - r.start - 1) (by decide : '~' ≠ '\x1b')
    · rw [hblanks, htildes]
      exact .inl ⟨error, he, rfl, rfl⟩
    · rw [hblanks, htildes]
      have hindent : Text.CodeFree ("  " ++ blanks) := .append (.literal rfl) hb
      have hspan : Text.CodeFree ("^" ++ tildes) := .append (.literal rfl) ht
      exact .inr ⟨_, _, hindent.decorates.append (hspan.colored hosts ink), rfl, rfl⟩

namespace CodeFree

variable {r : Report}

/-- The span is cut out of the offending text before it is set off, so it is the same span either
way. -/
theorem decorates_textLine (h : r.CodeFree) (ink : Text.Ink) :
    Text.Decorates (r.textLine on ink) (r.textLine off ink) :=
  have hbefore : Text.CodeFree ("  " ++ Text.upTo r.snippet r.start) :=
    .append (.literal rfl) (h.snippet.upTo _)
  (hbefore.decorates.append ((h.snippet.between _ _).colored hosts ink)).append
    (h.snippet.onward _).decorates

/-- All that is printed for a report behind a label. -/
theorem print_decorates (h : r.CodeFree) (ink : Text.Ink) {label label' : String}
    (hl : Text.Decorates label label') :
    Run.Decorates (fun _ => True) (r.print on ink label) (r.print off ink label') := by
  rw [print, print]
  refine (Run.Decorates.line (hl.append (h.decorates_message hosts))).bind fun _ _ => ?_
  split
  · rw [diagnose, diagnose]
    obtain ⟨error, he, hon, hoff⟩ | ⟨shown, plain, hd, hon, hoff⟩ := underline_decorates hosts r ink
    · rw [hon, hoff]
      exact .fail he
    · rw [hon, hoff]
      exact .line (((h.decorates_textLine hosts ink).append (.literal rfl)).append hd)
  · exact .pure trivial

end CodeFree

end Report

/-! ## Handlers -/

namespace Handler

/-- A warning whose report is the same for all hosts. -/
theorem warn_decorates {depth : Nat} {notice : Notice}
    (h : (∃ o : Obstacle, o.CodeFree ∧ ∀ host, notice.report host depth = .error o) ∨
      ∃ r : Report, r.CodeFree ∧ ∀ host, notice.report host depth = .ok r) (fatal : Bool) :
    Run.Decorates (fun _ => True) (warn depth ⟨on, fatal⟩ notice)
      (warn depth ⟨off, fatal⟩ notice) := by
  rw [warn, warn]
  obtain ⟨o, ho, hall⟩ | ⟨r, hr, hall⟩ := h
  · rw [hall, hall]
    exact .fail ho.fault
  · rw [hall, hall]
    exact hr.print_decorates hosts .magenta
      (Text.CodeFree.colored hosts (.literal rfl : Text.CodeFree "warning: ") .magenta)

theorem report_decorates {r : Report} (h : r.CodeFree) (fatal : Bool) :
    Run.Decorates (fun _ => True) (report ⟨on, fatal⟩ r) (report ⟨off, fatal⟩ r) := by
  have hlabel := Text.CodeFree.colored hosts (.literal rfl : Text.CodeFree "error: ") .red
  have horigin := Text.CodeFree.colored hosts (.literal rfl : Text.CodeFree "[internal] ") .red
  have hprint : Run.Decorates (fun _ => True) (r.printError on) (r.printError off) := by
    refine h.print_decorates hosts .red ?_
    split
    · exact horigin.append hlabel
    · exact Text.Decorates.append (.literal rfl) hlabel
  refine hprint.bind fun _ _ => ?_
  cases fatal with
  | false => exact .pure trivial
  | true => exact .fail trivial

theorem throw_decorates {f : Fault} (h : f.CodeFree) (fatal : Bool) :
    Run.Decorates (fun _ => True) (throw ⟨on, fatal⟩ f) (throw ⟨off, fatal⟩ f) := by
  rw [throw, throw]
  cases hr : f.report? with
  | some r => exact report_decorates hosts (h.of_report? hr) fatal
  | none => exact .fail ⟨.literal rfl, HostError.codeFree_lacking h.className (.literal rfl)⟩

end Handler

end

namespace Fault.CodeFree

variable {f : Fault}

/-- What a handler tells of a fault without codes. -/
theorem of_told? (h : f.CodeFree) {r : Report} (hr : f.told? = some r) : r.CodeFree := by
  cases f with
  | interrupted detail =>
    obtain rfl := Option.some.inj hr
    exact Report.codeFree_of_constant (.literal rfl) rfl Handler.interrupt_message
      Notice.codeFree_obstacle
  | depthExceeded =>
    obtain rfl := Option.some.inj hr
    exact Report.codeFree_of_constant (.literal rfl) rfl Handler.depth_message
      Notice.codeFree_obstacle
  | _ => exact h.of_report? hr

/-- The details of a fault that handlers do not know. -/
theorem detail (h : f.CodeFree) (hu : f.Unknown) : Text.CodeFree f.detail := by
  cases f with
  | interrupted detail => cases hu.2
  | exit code => exact absurd rfl (hu.1 code)
  | host error => exact h.message
  | derived name base => exact h.2.2
  | _ => exact .literal rfl

/-- The report of a fault that handlers do not know. -/
theorem unknownError (h : f.CodeFree) {words : String} (hw : Text.CodeFree words) :
    (Handler.unknownError f words).CodeFree :=
  have hsaid : Text.CodeFree (f.className ++ ": " ++ words) :=
    (h.className.append (.literal rfl)).append hw
  Report.codeFree_of_one hsaid rfl rfl (Handler.unknownError_message f words)
    Notice.codeFree_obstacle

end Fault.CodeFree

section

variable {on off : Text.Host} (hosts : on.Recolors off)
include hosts

namespace Handler

/-- What a handler does about a fault without codes. -/
theorem answer_decorates {f : Fault} (h : f.CodeFree) (fatal : Bool) :
    Run.Decorates (fun _ => True) (answer ⟨on, fatal⟩ f) (answer ⟨off, fatal⟩ f) := by
  rcases f.exit_or_told_or_unknown with ⟨code, rfl⟩ | ⟨r, hr⟩ | hu
  · exact .fail trivial
  · rw [answer_of_told hr, answer_of_told hr]
    exact report_decorates hosts (h.of_told? hr) fatal
  · rw [answer_of_unknown hu, answer_of_unknown hu, passOn, passOn]
    obtain ⟨g, hg, hall⟩ | ⟨words, hw, hall⟩ := h.words (h.detail hu)
    · simp only [hall]
      exact .fail hg
    · simp only [hall]
      exact (report_decorates hosts (h.unknownError hw) fatal).bind fun _ _ => .fail h

/-- A handler decorates what a program does in colour, and lets it end alike. -/
theorem guard_decorates {α : Type} {result : α → Prop} {shown plain : Run Event α}
    (h : Run.Decorates result shown plain) (fatal : Bool) :
    Run.Decorates (fun _ => True) (guard ⟨on, fatal⟩ shown) (guard ⟨off, fatal⟩ plain) := by
  cases ho : plain.outcome with
  | ok a =>
    rw [guard_ok ho, guard_ok (h.outcome.trans ho)]
    exact ⟨h.output, rfl, fun _ _ => trivial, nofun⟩
  | error f =>
    have hanswer : Run.Decorates (fun _ => True) (answer ⟨on, fatal⟩ f) (answer ⟨off, fatal⟩ f) :=
      answer_decorates hosts (h.fault f ho) fatal
    rw [guard_error ho, guard_error (h.outcome.trans ho)]
    refine ⟨?_, congrArg (Except.map fun _ => none) hanswer.outcome, fun _ _ => trivial, ?_⟩
    · rw [Event.output_append, Event.output_append]
      exact h.output.append hanswer.output
    · intro g hg
      cases ha : (answer ⟨off, fatal⟩ f).outcome with
      | ok _ =>
        rw [ha] at hg
        cases hg
      | error g' =>
        rw [ha] at hg
        obtain rfl := Except.error.inj hg
        exact hanswer.fault g' ha

end Handler

end

/-! ## Scripts -/

/-- What the step prints, reports, raises or evaluates holds no code, and notices are plain. -/
def Act.IsPlain : Act → Prop
  | .print text => Text.CodeFree text
  | .warn notice => notice.IsPlain
  | .throw cause => cause.IsPlain
  | .raise cause => cause.IsPlain
  | .evaluate env term => env.CodeFree ∧ term.CodeFree

/-- All steps of the script are plain. -/
def Script.IsPlain : Script → Prop
  | .done => True
  | .step act rest => act.IsPlain ∧ rest.IsPlain
  | .guarded _ body rest => body.IsPlain ∧ rest.IsPlain

/-- The evaluation of a term without codes. -/
theorem evaluate_decorates (depth : Nat) {env : Env} {t : Term} (henv : env.CodeFree)
    (ht : t.CodeFree) :
    Run.Decorates Value.CodeFree (((evaluate depth env t).mapNotes .call).worded depth)
      (((evaluate depth env t).mapNotes .call).worded depth) :=
  .calls ((codeFreedom.evaluate_apply depth).1 env t henv ht) depth

section

variable {on off : Text.Host} (hosts : on.Recolors off)
include hosts

theorem Act.run_decorates {act : Act} (h : act.IsPlain) (depth : Nat) (fatal : Bool) :
    Run.Decorates (fun _ => True) (act.run depth ⟨on, fatal⟩) (act.run depth ⟨off, fatal⟩) := by
  cases act with
  | print text => exact .line (Text.CodeFree.decorates h)
  | warn notice => exact Handler.warn_decorates hosts (Notice.IsPlain.report h depth) fatal
  | throw cause =>
    obtain ⟨o, ho, hall⟩ | ⟨f, hf, hall⟩ := Cause.IsPlain.build h depth
    · simp only [Act.run, hall]
      exact .fail ho.fault
    · simp only [Act.run, hall]
      exact Handler.throw_decorates hosts hf fatal
  | raise cause =>
    obtain ⟨f, hf, hall⟩ := Cause.IsPlain.outcome h depth
    simp only [Act.run, hall]
    exact .fail hf
  | evaluate env term =>
    exact (evaluate_decorates depth h.1 h.2).bind fun v hv =>
      (Run.Decorates.ofText (hv.made_render depth)).bind fun shown hs => .line hs.decorates

/-- A plain script, step by step; handlers inside are in colour when those around them are. -/
theorem Script.run_decorates (depth : Nat) {script : Script} (h : script.IsPlain) (fatal : Bool) :
    Run.Decorates (fun _ => True) (script.run depth ⟨on, fatal⟩)
      (script.run depth ⟨off, fatal⟩) := by
  induction script generalizing fatal with
  | done => exact .pure trivial
  | step act rest ih => exact (Act.run_decorates hosts h.1 depth fatal).bind fun _ _ => ih h.2 fatal
  | guarded inner body rest ihb ihr =>
    exact (Handler.guard_decorates hosts (ihb h.1 inner) inner).bind fun _ _ => ihr h.2 fatal

/-! ## Samples -/

namespace Sample

theorem warnIfOpen_decorates (depth : Nat) {shown : String} (hs : Text.CodeFree shown) {t : Term}
    (ht : t.CodeFree) (fatal : Bool) :
    Run.Decorates (fun _ => True) (warnIfOpen depth ⟨on, fatal⟩ shown t)
      (warnIfOpen depth ⟨off, fatal⟩ shown t) := by
  refine (Run.Decorates.ofText (ht.made_isClosed depth)).bind fun closed _ => ?_
  split
  · exact .pure trivial
  · refine (Run.Decorates.ofText (ht.made_freeSet depth)).bind fun names hn => ?_
    cases names with
    | nil => exact .pure trivial
    | cons name rest =>
      have hname : Text.CodeFree name := hn name List.mem_cons_self
      refine (Run.Decorates.ofText (ht.made_freePosition name depth)).bind fun offset _ => ?_
      have hreport : ((openNotice shown name offset).reportOf shown [name]).CodeFree :=
        Report.codeFree_of_two hs rfl rfl hname rfl (openNotice_message shown name offset)
          Notice.codeFree_obstacle
      exact Handler.warn_decorates hosts
        (.inr ⟨_, hreport, fun host => openNotice_report shown name offset host depth⟩) fatal

omit hosts in
/-- The handler has no part in the conclusion. -/
theorem conclude_decorates (depth : Nat) {sample : Sample} (h : sample.term.CodeFree) :
    Run.Decorates Value.CodeFree (conclude depth sample) (conclude depth sample) := by
  have hempty : Env.empty.CodeFree := trivial
  refine (evaluate_decorates depth hempty h).bind fun v hv => ?_
  refine (Run.Decorates.ofText (hv.made_render depth)).bind fun result hr => ?_
  have hresult : Text.CodeFree ("Result: " ++ result) := .append (.literal rfl) hr
  refine (Run.Decorates.line hresult.decorates).bind fun _ _ => ?_
  split
  · refine (Run.Decorates.calls (hv.decodeNumeral depth) depth).bind fun number _ => ?_
    have hmade : Made Text.CodeFree ((Text.writeInt number).mapError Obstacle.ofLimit) :=
      .ofLimit fun _ hs => Text.eq_of_writeInt hs ▸ Text.codeFree_ofInt number
    refine (Run.Decorates.ofText hmade).bind fun decoded hd => ?_
    have hdecoded : Text.CodeFree ("Decoded: " ++ decoded) := .append (.literal rfl) hd
    exact (Run.Decorates.line hdecoded.decorates).bind fun _ _ => .pure hv
  · exact .pure hv

/-- A sample whose term holds no codes, without a handler or with one. -/
theorem run_decorates (depth : Nat) {sample : Sample} (h : sample.term.CodeFree)
    (handled : Option Bool) :
    Run.Decorates Value.CodeFree (sample.run depth (handled.map (Handler.mk on)))
      (sample.run depth (handled.map (Handler.mk off))) := by
  rw [run_eq, run_eq]
  refine (Run.Decorates.ofText (h.made_render depth)).bind fun shown hs => ?_
  have hfirst : Text.CodeFree ("Evaluating expression: " ++ shown) := .append (.literal rfl) hs
  refine (Run.Decorates.line hfirst.decorates).bind fun _ _ => ?_
  have hrest := conclude_decorates depth h
  cases handled with
  | none => exact hrest
  | some fatal => exact (warnIfOpen_decorates hosts depth hs h fatal).bind fun _ _ => hrest

end Sample

end

namespace Sample

/-- There is a sample whose term holds no codes, or there is none, which is said without codes. -/
structure FoundCodeFree (found : Except HostError Sample) : Prop where
  /-- the term of a sample holds no codes -/
  term : ∀ sample, found = .ok sample → sample.term.CodeFree
  /-- that there is no sample is said without codes -/
  error : ∀ error, found = .error error → error.CodeFree

/-- The terms of the samples that have a name hold no codes. -/
theorem codeFree_named : ∀ entry ∈ named, entry.2.term.CodeFree := by
  simp only [named, List.forall_mem_cons, Term.CodeFree, Church.const, Church.plus, Church.numeral,
    Church.iterated]
  repeat' apply And.intro
  all_goals first | exact .literal rfl | exact List.forall_mem_nil _

/-- Looking for a sample by a name without codes. -/
theorem find_codeFree {name : String} (h : Text.CodeFree name) : FoundCodeFree (find name) := by
  rw [find]
  cases hl : named.lookup name with
  | none =>
    refine ⟨nofun, fun _ he => ?_⟩
    obtain rfl := Except.error.inj he
    exact ⟨.literal rfl, Text.CodeFree.quote h⟩
  | some sample =>
    obtain ⟨before, after, heq, -⟩ := List.lookup_eq_some_iff.mp hl
    have hmem : (name, sample) ∈ named :=
      heq ▸ List.mem_append_right before List.mem_cons_self
    exact ⟨fun _ hs => Except.ok.inj hs ▸ codeFree_named _ hmem, nofun⟩

/-- A sample that is looked for, without a handler or with one. -/
theorem runFound_decorates {on off : Text.Host} (hosts : on.Recolors off) (depth : Nat)
    {found : Except HostError Sample} (h : FoundCodeFree found) (handled : Option Bool) :
    Run.Decorates Value.CodeFree
      (Run.ofExcept found >>= fun sample => sample.run depth (handled.map (Handler.mk on)))
      (Run.ofExcept found >>= fun sample => sample.run depth (handled.map (Handler.mk off))) := by
  have hfound : Run.Decorates (fun sample => sample.term.CodeFree) (Run.ofExcept found)
      (Run.ofExcept found) := .ofExcept h.term h.error
  exact hfound.bind fun _ hs => run_decorates hosts depth hs handled

end Sample

/-! ## Colour on and off -/

/-- The two runs end alike, and erasing the codes from what the first one writes leaves what the
second one writes. -/
def Run.AgreeWithoutCodes {α : Type} (shown plain : Run Event α) : Prop :=
  shown.outcome = plain.outcome ∧
    Text.eraseCodes (Event.output shown.notes) = Event.output plain.notes

theorem Run.Decorates.agreeWithoutCodes {α : Type} {result : α → Prop} {shown plain : Run Event α}
    (h : Run.Decorates result shown plain) : Run.AgreeWithoutCodes shown plain :=
  ⟨h.outcome, h.output.eraseCodes_eq⟩

/-- **Colour is decoration**: whether it is on or off, a plain script ends alike and writes the same
apart from codes, with any handlers in it and around it. So does a sample, without a handler, with
one that it tells about free names, and with one around it as well. -/
theorem color_is_decoration {on off : Text.Host} (hosts : on.Recolors off) (depth : Nat) :
    (∀ (fatal : Bool) (script : Script), script.IsPlain →
      Run.AgreeWithoutCodes (script.run depth ⟨on, fatal⟩) (script.run depth ⟨off, fatal⟩)) ∧
    ∀ found : Except HostError Sample, Sample.FoundCodeFree found →
      (∀ handled : Option Bool, Run.AgreeWithoutCodes
        (Run.ofExcept found >>= fun sample => sample.run depth (handled.map (Handler.mk on)))
        (Run.ofExcept found >>= fun sample => sample.run depth (handled.map (Handler.mk off)))) ∧
      ∀ fatal : Bool, Run.AgreeWithoutCodes (Sample.runUnder depth ⟨on, fatal⟩ found)
        (Sample.runUnder depth ⟨off, fatal⟩ found) := by
  refine ⟨fun fatal script h => (Script.run_decorates hosts depth h fatal).agreeWithoutCodes,
    fun found h => ⟨fun handled => ?_, fun fatal => ?_⟩⟩
  · exact (Sample.runFound_decorates hosts depth h handled).agreeWithoutCodes
  · exact (Handler.guard_decorates hosts
      (Sample.runFound_decorates hosts depth h (some fatal)) fatal).agreeWithoutCodes

/-- A handler around a warning with two snippets and an open term, and a line behind it. -/
def painted : Script :=
  .guarded false
    (.step (.warn { template := "{0} in {1}", snippets := .list [.text "x", .text "(x y)"] })
      (.step (.evaluate .empty (.var "z")) .done))
    (.step (.print "on") .done)

theorem painted_isPlain : painted.IsPlain := by
  have hscan : Text.Template.scan "{0} in {1}".toList =
      [.field ⟨['0'], none, []⟩, .literal ' ', .literal 'i', .literal 'n', .literal ' ',
        .field ⟨['1'], none, []⟩] := by decide +kernel
  have hnotice : Notice.IsPlain
      { template := "{0} in {1}", snippets := .list [.text "x", .text "(x y)"] } := by
    refine ⟨.literal rfl, fun field hf => ?_, ⟨.literal rfl, .literal rfl, trivial⟩⟩
    rw [hscan] at hf
    have hfield : field = ⟨['0'], none, []⟩ ∨ field = ⟨['1'], none, []⟩ := by simpa using hf
    rcases hfield with rfl | rfl
    · exact ⟨List.forall_mem_singleton.mpr rfl, rfl, rfl⟩
    · exact ⟨List.forall_mem_singleton.mpr rfl, rfl, rfl⟩
  exact ⟨⟨hnotice, ⟨trivial, .literal rfl⟩, trivial⟩, .literal rfl, trivial⟩

/-- What is left of the script and of an open sample in colour, which is not what they write. -/
theorem painted_erased :
    (Text.terminal true).Recolors (Text.terminal false) ∧ painted.IsPlain ∧
      Sample.FoundCodeFree (Sample.find "unbound") ∧
      Event.output (painted.run 1 ⟨Text.terminal true, false⟩).notes ≠
        "warning: x in (x y)\n  x\n  ^\nerror: unbound variable 'z'\non\n" ∧
      Text.eraseCodes (Event.output (painted.run 1 ⟨Text.terminal true, false⟩).notes) =
        "warning: x in (x y)\n  x\n  ^\nerror: unbound variable 'z'\non\n" ∧
      (Sample.runUnder 4 ⟨Text.terminal true, true⟩ (Sample.find "unbound")).outcome =
        .error (.exit "1") := by
  have hosts := Text.recolors_terminal
  have hfound : Sample.FoundCodeFree (Sample.find "unbound") :=
    Sample.find_codeFree (.literal rfl)
  refine ⟨hosts, painted_isPlain, hfound, by decide +kernel, ?_, ?_⟩
  · rw [((color_is_decoration hosts 1).1 false painted painted_isPlain).2]
    decide +kernel
  · rw [(((color_is_decoration hosts 4).2 _ hfound).2 true).1]
    rfl

end CallByValue
