import CallByValue.Church
import CallByValue.Diagnosis
import CallByValue.Handler
import CallByValue.Proofs.Blueprint
import CallByValue.Sample
import CallByValue.Text.Terminal

/-!
# The wording of reports

A notice with a plain template can be put into words whatever its snippets are, and its report says
what the template says, with the snippets set off as the host has it. This gives the wording of all
reports that the program makes by itself.

* `Notice.exists_eq_reportOf`, `Notice.report_eq_reportOf` — a notice that can be built gives the
  report of its snippets;
* `Notice.reportOf_constant`, `Notice.reportOf_one`, `Notice.reportOf_two` — the messages of
  templates with no field, one and two;
* `Fault.unbound_message` and so on — the wording of each report of the program;
* `Notice.report_filled` — what reports are made from a blueprint.
-/

namespace CallByValue

open Text.Template (Blueprint Segment)

namespace Notice

variable {n : Notice} {host : Text.Host} {depth : Nat}

/-! ## Building reports -/

/-- A notice that can be built has a first snippet, and gives the report of its snippets. -/
theorem exists_eq_reportOf {r : Report} (h : n.report host depth = .ok r) :
    ∃ first rest, n.snippetTexts depth = .ok (first :: rest) ∧ r = n.reportOf first rest := by
  rw [report] at h
  obtain ⟨texts, htexts, h⟩ := ok_of_bind h
  obtain ⟨shown, -, h⟩ := ok_of_bind h
  cases texts with
  | nil => cases h
  | cons first rest =>
    obtain ⟨plain, -, h⟩ := ok_of_bind h
    exact ⟨first, rest, htexts, (Except.ok.inj h).symm⟩

/-- A notice whose message can be made, in colour and without, gives the report of its snippets. -/
theorem report_eq_reportOf {first : String} {rest : List String} {shown plain : String}
    (hs : n.snippetTexts depth = .ok (first :: rest))
    (hm : n.message host (first :: rest) = .ok shown)
    (hu : n.message host.uncolored (first :: rest) = .ok plain) :
    n.report host depth = .ok (n.reportOf first rest) := by
  rw [report, hs]
  change (n.message host (first :: rest)).mapError Obstacle.host >>= _ = _
  rw [hm]
  change (n.message host.uncolored (first :: rest)).mapError Obstacle.host >>= _ = _
  rw [hu]
  rfl

/-- A notice without snippets makes no report. -/
theorem report_of_nil {shown : String} (hs : n.snippetTexts depth = .ok [])
    (hm : n.message host [] = .ok shown) : n.report host depth = .error (.host .noSnippet) := by
  rw [report, hs]
  change (n.message host []).mapError Obstacle.host >>= _ = _
  rw [hm]
  rfl

/-- A message that cannot be made is no report. -/
theorem report_of_message_error {texts : List String} {error : HostError}
    (hs : n.snippetTexts depth = .ok texts) (hm : n.message host texts = .error error) :
    n.report host depth = .error (.host error) := by
  rw [report, hs]
  change (n.message host texts).mapError Obstacle.host >>= _ = _
  rw [hm]
  rfl

/-- The span of a report is that of the notice it was built from, where minus one stands for the end
of the offending text. -/
theorem span_of_report {r : Report} (h : n.report host depth = .ok r) :
    r.start = n.start ∧ r.stop = if n.stop = -1 then (r.snippet.length : Int) else n.stop := by
  obtain ⟨first, rest, -, rfl⟩ := exists_eq_reportOf h
  exact ⟨rfl, rfl⟩

/-- Texts in a list are their own texts. -/
theorem itemTexts_of_texts (depth : Nat) (snippets : List String) :
    itemTexts depth (snippets.map .text) = .ok snippets := by
  induction snippets with
  | nil => rfl
  | cons snippet rest ih =>
    rw [List.map_cons, itemTexts, ih]
    rfl

/-- The snippets of a list of texts are these texts. -/
theorem snippetTexts_of_texts {snippets : List String}
    (h : n.snippets = .list (snippets.map .text)) (depth : Nat) :
    n.snippetTexts depth = .ok snippets := by
  rw [snippetTexts, h]
  exact itemTexts_of_texts depth snippets

/-! ## Messages of plain templates -/

/-- The message of a blueprint that has its snippets. -/
theorem message_eq_filled {b : Blueprint} {texts : List String} (ht : n.template = b.text)
    (hi : ∀ i ∈ b.indices, i < texts.length) (host : Text.Host) :
    n.message host texts = .ok (b.filled (texts.map (host.colored .plain))) := by
  rw [message, ht, Blueprint.fill_eq_filled (by simpa using hi)]
  rfl

/-- The message of a blueprint that lacks a snippet. -/
theorem message_eq_error {b : Blueprint} {texts : List String} {i : Nat} (ht : n.template = b.text)
    (hi : b.indices.find? (texts.length ≤ ·) = some i) (host : Text.Host) :
    n.message host texts = .error (.template (.noSuchSnippet i)) := by
  rw [message, ht, Blueprint.fill_eq_error (by simpa using hi)]
  rfl

/-- The report of a blueprint that has its snippets says what the blueprint says. -/
theorem reportOf_message {b : Blueprint} {first : String} {rest : List String}
    (ht : n.template = b.text) (hi : ∀ i ∈ b.indices, i < (first :: rest).length)
    (host : Text.Host) :
    (n.reportOf first rest).message host =
      b.filled ((first :: rest).map (host.colored .plain)) := by
  change (n.message host (first :: rest)).toOption.getD "" = _
  rw [message_eq_filled ht hi]
  rfl

/-- A notice with a blueprint that has its snippets can be built. -/
theorem report_of_blueprint {b : Blueprint} {first : String} {rest : List String}
    (ht : n.template = b.text) (hi : ∀ i ∈ b.indices, i < (first :: rest).length)
    (hs : n.snippetTexts depth = .ok (first :: rest)) (host : Text.Host) :
    n.report host depth = .ok (n.reportOf first rest) :=
  report_eq_reportOf hs (message_eq_filled ht hi host) (message_eq_filled ht hi host.uncolored)

/-- Wording alone, as a template. -/
def constant (text : String) : Blueprint := .automatic [.wording text]

/-- One snippet between two texts, as a template. -/
def one (before after : String) : Blueprint :=
  .automatic [.wording before, .field (), .wording after]

/-- Two snippets with texts around and between them, as a template. -/
def two (before between after : String) : Blueprint :=
  .automatic [.wording before, .field (), .wording between, .field (), .wording after]

/-- The message of a template that is wording alone. -/
theorem reportOf_constant {text : String} (ht : n.template = (constant text).text) (first : String)
    (host : Text.Host) : (n.reportOf first []).message host = text := by
  rw [reportOf_message ht (by intro i hi; cases hi)]
  exact String.append_empty

theorem one_indices {before after : String} {first : String} :
    ∀ i ∈ (one before after).indices, i < [first].length := by
  intro i hi
  obtain rfl := List.mem_singleton.mp hi
  exact Nat.zero_lt_one

/-- The message of a template with one snippet. -/
theorem reportOf_one {before after : String} (ht : n.template = (one before after).text)
    (first : String) (host : Text.Host) :
    (n.reportOf first []).message host = before ++ host.colored .plain first ++ after := by
  rw [reportOf_message ht one_indices]
  change before ++ (host.colored .plain first ++ (after ++ "")) = _
  rw [String.append_empty, String.append_assoc]

theorem two_indices {before between after : String} {first second : String} :
    ∀ i ∈ (two before between after).indices, i < [first, second].length := by
  intro i hi
  have hcases : i = 0 ∨ i = 1 := by simpa using (show i ∈ [0, 1] from hi)
  rcases hcases with rfl | rfl
  · exact Nat.zero_lt_two
  · exact Nat.one_lt_two

/-- The message of a template with two snippets. -/
theorem reportOf_two {before between after : String}
    (ht : n.template = (two before between after).text) (first second : String)
    (host : Text.Host) :
    (n.reportOf first [second]).message host = before ++ host.colored .plain first ++ between ++
      host.colored .plain second ++ after := by
  rw [reportOf_message ht two_indices]
  change before ++ (host.colored .plain first ++ (between ++ (host.colored .plain second ++
    (after ++ "")))) = _
  simp only [String.append_empty, String.append_assoc]

end Notice

/-! ## The reports of the program -/

/-- What is said of a variable without a binding. -/
theorem Fault.unbound_message (name : String) (host : Text.Host) :
    (Fault.unboundNotice.reportOf name []).message host =
      "unbound variable '" ++ host.colored .plain name ++ "'" :=
  Notice.reportOf_one (by decide) name host

/-- What is said of something applied that is not a function. -/
theorem Fault.notApplicable_message (text : String) (host : Text.Host) :
    (Fault.notApplicableNotice.reportOf text []).message host =
      "'" ++ host.colored .plain text ++ "' is not a function and cannot be applied" :=
  Notice.reportOf_one (by decide) text host

/-- What is said of something that was taken for a numeral. -/
theorem Value.notANumeral_message (text : String) (host : Text.Host) :
    (Value.notANumeralNotice.reportOf text []).message host =
      "'" ++ host.colored .plain text ++ "' is not a Church numeral" :=
  Notice.reportOf_one (by decide) text host

/-- What is said of a host function whose result is no value. -/
theorem Fault.notAValue_message (name text : String) (host : Text.Host) :
    (Fault.notAValueNotice.reportOf name [text]).message host =
      "primitive '" ++ host.colored .plain name ++ "' returned '" ++ host.colored .plain text ++
        "', which is not a value" :=
  Notice.reportOf_two (by decide) name text host

namespace Church

/-- What is said of a datum that is no natural number. -/
theorem notNatural_message (text : String) (host : Text.Host) :
    (notNaturalNotice.reportOf text []).message host =
      "expected natural number, got '" ++ host.colored .plain text ++ "'" :=
  Notice.reportOf_one (by decide) text host

/-- What is said of something that was taken for a truth value. -/
theorem notABool_message (text : String) (host : Text.Host) :
    (notABoolNotice.reportOf text []).message host =
      "'" ++ host.colored .plain text ++ "' is not a Church boolean" :=
  Notice.reportOf_one (by decide) text host

end Church

namespace Handler

/-- What is said of an interruption. -/
theorem interrupt_message (host : Text.Host) :
    (interruptNotice.reportOf "" []).message host = "keyboard interrupt" :=
  Notice.reportOf_constant (by decide) "" host

/-- What is said when the limit on depth was reached. -/
theorem depth_message (host : Text.Host) :
    (depthNotice.reportOf "" []).message host =
      "maximum recursion depth exceeded (term may diverge)" :=
  Notice.reportOf_constant (by decide) "" host

/-- What is said of any other fault: its class and its words. -/
theorem unknownError_message (fault : Fault) (words : String) (host : Text.Host) :
    (unknownError fault words).message host =
      "unknown error: '" ++ host.colored .plain (fault.className ++ ": " ++ words) ++ "'" :=
  Notice.reportOf_one (by decide) _ host

end Handler

namespace Sample

/-- The template of the warning about a free name has two fields. -/
theorem openNotice_template (shown name : String) (offset : Int) :
    (openNotice shown name offset).template =
      (Notice.two "'" "' has free variable '" "'").text :=
  (by decide : "'{}' has free variable '{}'" = (Notice.two "'" "' has free variable '" "'").text)

/-- The warning about a free name can be built, whatever the two texts are. -/
theorem openNotice_report (shown name : String) (offset : Int) (host : Text.Host) (depth : Nat) :
    (openNotice shown name offset).report host depth =
      .ok ((openNotice shown name offset).reportOf shown [name]) := by
  have hs : (openNotice shown name offset).snippetTexts depth = .ok [shown, name] :=
    Notice.itemTexts_of_texts depth [shown, name]
  exact Notice.report_of_blueprint (openNotice_template shown name offset) Notice.two_indices hs
    host

/-- What is said of a free name. -/
theorem openNotice_message (shown name : String) (offset : Int) (host : Text.Host) :
    ((openNotice shown name offset).reportOf shown [name]).message host =
      "'" ++ host.colored .plain shown ++ "' has free variable '" ++ host.colored .plain name ++
        "'" :=
  Notice.reportOf_two (openNotice_template shown name offset) shown name host

end Sample

/-! ## Reports of blueprints -/

namespace Notice

variable {n : Notice} {b : Blueprint} {snippets : List String}

/-- **Templates are filled faithfully.** A notice with the template of a blueprint and a list of
texts as its snippets makes a report if there is a first snippet and every number that is asked for
is that of a snippet: its message is the wording with the snippets as the host sets them off, and
without colour as they are; it is about the first one, and its span ends where the notice says, or
with that snippet. Otherwise the leftmost number that no snippet has is blamed; and if there is no
number to blame, the lack of a first snippet is. -/
theorem report_filled (ht : n.template = b.text) (hs : n.snippets = .list (snippets.map .text))
    (host : Text.Host) (depth : Nat) :
    (∀ snippet rest, snippets = snippet :: rest → (∀ i ∈ b.indices, i < snippets.length) →
      ∃ r : Report, n.report host depth = .ok r ∧
        r.message host = b.filled (snippets.map (host.colored .plain)) ∧
        r.message host.uncolored = b.filled snippets ∧
        (Fault.report r).message host = b.filled snippets ∧ r.snippet = snippet ∧
        r.start = n.start ∧ r.stop = if n.stop = -1 then (snippet.length : Int) else n.stop) ∧
    (∀ i, b.indices.find? (snippets.length ≤ ·) = some i →
      ∃ e : HostError, n.report host depth = .error (.host e) ∧ e.errorClass = .indexError ∧
        e.message =
          "Replacement index " ++ Text.ofNat i ++ " out of range for positional args tuple") ∧
    (snippets = [] → b.indices = [] →
      ∃ e : HostError, n.report host depth = .error (.host e) ∧ e.errorClass = .indexError ∧
        e.message = "list index out of range") := by
  have htexts : n.snippetTexts depth = .ok snippets := snippetTexts_of_texts hs depth
  refine ⟨?_, fun i hi => ?_, ?_⟩
  · rintro first rest rfl hi
    have hplain : (n.reportOf first rest).message host.uncolored = b.filled (first :: rest) := by
      rw [reportOf_message ht hi]
      exact congrArg b.filled (List.map_id' (first :: rest))
    exact ⟨n.reportOf first rest, report_of_blueprint ht hi htexts host,
      reportOf_message ht hi host, hplain, hplain, rfl, rfl, rfl⟩
  · exact ⟨_, report_of_message_error htexts (message_eq_error ht hi host), rfl, rfl⟩
  · rintro rfl hi
    have hnone : ∀ i ∈ b.indices, i < ([] : List String).length := by simp [hi]
    exact ⟨_, report_of_nil htexts (message_eq_filled ht hnone host), rfl, rfl⟩

/-- The number zero, as it is written. -/
def zero : Text.Template.Numeral := ⟨['0'], 0, by decide, by decide, by decide⟩

/-- The number seven, with a zero in front. -/
def seven : Text.Template.Numeral := ⟨['0', '7'], 7, by decide, by decide, by decide⟩

/-- A field between brackets, and the same field again. -/
def bracketed : Blueprint :=
  .numbered [.wording "\x7b", .field zero, .wording "\x7d ", .field zero]

/-- A notice about a snippet that looks like a field. -/
def fieldLike : Notice where
  template := "\x7b\x7b\x7b0\x7d\x7d\x7d \x7b0\x7d"
  snippets := .list [.text "\x7b1\x7d"]

/-- A notice that asks for a snippet it does not have. -/
def lacking : Notice where
  template := "\x7b07\x7d"
  snippets := .list [.text "a", .text "b"]

/-- A snippet that looks like a field is inserted as it is; of two snippets there is no seventh. -/
theorem fieldLike_filled :
    fieldLike.template = bracketed.text ∧ fieldLike.snippets = .list (["\x7b1\x7d"].map .text) ∧
      (∃ r : Report, fieldLike.report (Text.terminal false) 1 = .ok r ∧
        r.message (Text.terminal false) = "\x7b\x7b1\x7d\x7d \x7b1\x7d" ∧ r.stop = 3) ∧
      ∃ e : HostError, lacking.report (Text.terminal false) 1 = .error (.host e) ∧
        e.message = "Replacement index 7 out of range for positional args tuple" := by
  have ht : fieldLike.template = bracketed.text := by decide
  have hs : fieldLike.snippets = .list (["\x7b1\x7d"].map .text) := rfl
  have ht' : lacking.template = (Blueprint.numbered [.field seven]).text := by decide
  have hs' : lacking.snippets = .list (["a", "b"].map .text) := rfl
  obtain ⟨r, hr, hmessage, -, -, -, -, hstop⟩ :=
    (report_filled ht hs (Text.terminal false) 1).1 "\x7b1\x7d" [] rfl (by decide)
  obtain ⟨e, he, -, hsaid⟩ := (report_filled ht' hs' (Text.terminal false) 1).2.1 7 rfl
  exact ⟨ht, hs, ⟨r, hr, hmessage.trans (by decide), hstop⟩, e, he, hsaid.trans (by decide)⟩

end Notice

end CallByValue
