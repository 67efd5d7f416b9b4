import CallByValue.Proofs.Color.Erasure
import CallByValue.Proofs.FreeNames
import CallByValue.Proofs.Invariant
import CallByValue.Proofs.Wording

/-!
# Terms, values and faults without terminal codes

Where no name and no text of the host holds a terminal code, none comes up in what is shown of terms
and values, and evaluation leads to no others. Messages are **worded** in parts, of which some are
set off in bold.

* `Datum.CodeFree`, `Term.CodeFree`, `Value.CodeFree` and so on — no code in any name or text;
* `Made` — what is made within limits, or is kept from that by an obstacle without codes;
* `Report.CodeFree` — a message of parts without codes, about a text without codes;
* `Fault.CodeFree.worded`, `Fault.CodeFree.words` — a fault without codes is put into words that do
  not depend on the host, or ends in another fault without codes;
* `codeFreedom` — the invariant: evaluation keeps to values and faults without codes.
-/

namespace CallByValue

/-! ## Host data -/

section Datum

variable {τ : Type}

mutual

/-- No text and no floating-point number in the datum holds a code, and its objects are fine. -/
def Datum.CodeFree (object : τ → Prop) : Datum τ → Prop
  | .null => True
  | .bool _ => True
  | .int _ => True
  | .float decimal => Text.CodeFree decimal
  | .text s => Text.CodeFree s
  | .list items => Datum.AllCodeFree object items
  | .object o => object o

/-- The same for each item of a list. -/
def Datum.AllCodeFree (object : τ → Prop) : List (Datum τ) → Prop
  | [] => True
  | item :: items => item.CodeFree object ∧ Datum.AllCodeFree object items

end

variable {object : τ → Prop}

variable [Embedded τ]

mutual

/-- The text of a datum in which texts stand in quotes. -/
theorem Datum.CodeFree.dump (ho : ∀ o, object o → Text.CodeFree (Embedded.dump o)) :
    ∀ {d : Datum τ}, d.CodeFree object → Text.CodeFree d.dump
  | .null, _ => .literal rfl
  | .bool true, _ => .literal rfl
  | .bool false, _ => .literal rfl
  | .int i, _ => Text.codeFree_ofInt i
  | .float _, h => h
  | .text _, h => Text.CodeFree.quote h
  | .list _, h =>
    .around rfl (.intercalate (.literal rfl) (Datum.AllCodeFree.dumpAll ho h)) rfl
  | .object o, h => ho o h

/-- The texts of the items of a list. -/
theorem Datum.AllCodeFree.dumpAll (ho : ∀ o, object o → Text.CodeFree (Embedded.dump o)) :
    ∀ {items : List (Datum τ)}, Datum.AllCodeFree object items →
      ∀ s ∈ Datum.dumpAll items, Text.CodeFree s
  | [], _, _, hs => by cases hs
  | item :: items, h, s, hs => by
    rw [Datum.dumpAll] at hs
    rcases List.mem_cons.mp hs with rfl | hs
    · exact Datum.CodeFree.dump ho h.1
    · exact Datum.AllCodeFree.dumpAll ho h.2 s hs

end

/-- The text of a datum on its own. -/
theorem Datum.CodeFree.display (ho : ∀ o, object o → Text.CodeFree (Embedded.dump o))
    {d : Datum τ} (h : d.CodeFree object) : Text.CodeFree d.display := by
  cases d with
  | text s => exact h
  | _ => exact h.dump ho

/-- The kind of a datum. -/
theorem Datum.codeFree_kindName (ho : ∀ o : τ, Text.CodeFree (Embedded.kindName o)) (d : Datum τ) :
    Text.CodeFree d.kindName := by
  cases d with
  | object o => exact ho o
  | _ => exact .literal rfl

end Datum

/-! ## Terms -/

namespace Term

/-- No name in the term and no foreign leaf holds a code. -/
def CodeFree : Term → Prop
  | .var x => Text.CodeFree x
  | .abs x body => Text.CodeFree x ∧ body.CodeFree
  | .app fn arg => fn.CodeFree ∧ arg.CodeFree
  | .foreign d => d.CodeFree fun _ => False

/-- The text of a foreign leaf. -/
theorem codeFree_dump_foreign {d : Datum Empty} (h : d.CodeFree fun _ => False) :
    Text.CodeFree d.dump := h.dump fun _ => False.elim

namespace CodeFree

variable {t : Term}

theorem dump (h : t.CodeFree) : Text.CodeFree t.dump := by
  induction t with
  | var x => exact .around rfl (.quote h) rfl
  | abs x body ih => exact .pair rfl (.quote h.1) rfl (ih h.2) rfl
  | app fn arg ihf iha => exact .pair rfl (ihf h.1) rfl (iha h.2) rfl
  | foreign d => exact codeFree_dump_foreign h

end CodeFree

/-- A term that is held by a datum. -/
theorem codeFree_dump_object (t : Term) (h : t.CodeFree) : Text.CodeFree (Embedded.dump t) :=
  h.dump

/-- The kind of a foreign leaf. -/
theorem codeFree_kindName_foreign (d : Datum Empty) : Text.CodeFree d.kindName :=
  d.codeFree_kindName fun o => o.elim

/-- The kind of a term that is held by a datum. -/
theorem codeFree_kindName_object (t : Term) : Text.CodeFree (Embedded.kindName t) := by
  cases t with
  | foreign d => exact codeFree_kindName_foreign d
  | _ => exact .literal rfl

end Term

/-! ## Obstacles -/

/-- What the error says, and the name of its class, hold no code. -/
structure HostError.CodeFree (e : HostError) : Prop where
  /-- the name of the class -/
  name : Text.CodeFree e.errorClass.name
  /-- what the error says -/
  message : Text.CodeFree e.message

/-- An error that is an obstacle holds no code. -/
def Obstacle.CodeFree : Obstacle → Prop
  | .tooDeep => True
  | .host e => e.CodeFree

/-- Something that lacks a part. -/
theorem HostError.codeFree_lacking {kindName part : String} (hk : Text.CodeFree kindName)
    (hp : Text.CodeFree part) : Text.CodeFree (HostError.lacking kindName part) :=
  .pair rfl hk rfl hp rfl

/-- The limits on texts are obstacles without codes. -/
theorem Obstacle.codeFree_ofLimit (limit : Text.Limit) : (Obstacle.ofLimit limit).CodeFree := by
  cases limit with
  | depth => exact trivial
  | digits => exact ⟨.literal rfl, .append (.around rfl (Text.codeFree_ofNat _) rfl) (.literal rfl)⟩

/-- What is **made** meets a condition, or an obstacle without codes keeps it from being made. -/
def Made {α : Type} (result : α → Prop) : Except Obstacle α → Prop
  | .ok a => result a
  | .error o => o.CodeFree

namespace Made

variable {α β : Type} {result : α → Prop} {result' : β → Prop}

protected theorem pure {a : α} (h : result a) : Made result (pure a) := h

/-- What is made next has to meet its condition for results that do. -/
theorem bind {x : Except Obstacle α} {next : α → Except Obstacle β} (h : Made result x)
    (hn : ∀ a, result a → Made result' (next a)) : Made result' (x >>= next) := by
  cases x with
  | ok a => exact hn a h
  | error o => exact h

/-- The limits on texts are obstacles without codes. -/
theorem ofLimit {x : Except Text.Limit α} (h : ∀ a, x = .ok a → result a) :
    Made result (x.mapError Obstacle.ofLimit) := by
  cases x with
  | ok a => exact h a rfl
  | error limit => exact Obstacle.codeFree_ofLimit limit

end Made

/-- A datum is shown on its own without codes. -/
theorem Datum.CodeFree.made_display {d : Datum Term} (h : d.CodeFree Term.CodeFree) (depth : Nat) :
    Made Text.CodeFree ((d.displayWithin depth).mapError Obstacle.ofLimit) :=
  .ofLimit fun _ hs => Datum.eq_display hs ▸ h.display Term.codeFree_dump_object

/-- Something that is no term has no function part, which is said without codes. -/
theorem HostError.codeFree_noFunctionPart (d : Datum Empty) : (noFunctionPart d).CodeFree :=
  ⟨.literal rfl, codeFree_lacking (Term.codeFree_kindName_foreign d) (.literal rfl)⟩

namespace Term.CodeFree

variable {t : Term}

/-- A term is shown without codes, by induction on the limit on depth. -/
theorem made_render (h : t.CodeFree) (depth : Nat) : Made Text.CodeFree (t.renderWithin depth) := by
  induction depth generalizing t with
  | zero => exact trivial
  | succ depth ih =>
    cases t with
    | var x => exact h
    | abs x body => exact (ih h.2).bind fun _ hb => .pure (.pair rfl h.1 rfl hb rfl)
    | app fn arg =>
      exact (ih h.1).bind fun _ hf => (ih h.2).bind fun _ ha => .pure (.pair rfl hf rfl ha rfl)
    | foreign d =>
      have hdump : Made (fun _ => True) ((d.dumpWithin depth).mapError Obstacle.ofLimit) :=
        .ofLimit fun _ _ => trivial
      exact hdump.bind fun _ _ => ⟨.literal rfl, .append (.literal rfl) (codeFree_dump_foreign h)⟩

/-- Free names hold no codes. -/
theorem made_freeSet (h : t.CodeFree) (depth : Nat) :
    Made (fun names => ∀ x ∈ names, Text.CodeFree x) (t.freeSet depth) := by
  induction depth generalizing t with
  | zero => exact trivial
  | succ depth ih =>
    cases t with
    | var y => exact List.forall_mem_singleton.mpr h
    | abs y body => exact (ih h.2).bind fun _ hb x hx => hb x (List.mem_filter.mp hx).1
    | app fn arg =>
      refine (ih h.1).bind fun _ hf => (ih h.2).bind fun _ ha x hx => ?_
      exact (List.mem_append.mp ((mem_sortNames _).mp hx)).elim (hf x) (ha x)
    | foreign d => exact HostError.codeFree_noFunctionPart d

theorem made_isClosed (h : t.CodeFree) (depth : Nat) :
    Made (fun _ => True) (t.isClosedWithin depth) := by
  cases depth with
  | zero => exact trivial
  | succ depth => exact (h.made_freeSet depth).bind fun _ _ => trivial

/-- Why no position was found is said without codes. -/
theorem made_freePosition (h : t.CodeFree) (name : String) (depth : Nat) :
    Made (fun _ => True) (t.freePosition name depth) := by
  induction depth generalizing t with
  | zero => exact trivial
  | succ depth ih =>
    cases t with
    | var x => exact trivial
    | abs x body =>
      rw [freePosition]
      split
      · exact trivial
      · exact (ih h.2).bind fun _ _ => trivial
    | app fn arg =>
      refine (ih h.1).bind fun offset _ => ?_
      split
      · exact trivial
      · refine (ih h.2).bind fun offset' _ => ?_
        -- only behind an occurrence in the argument is the text of the function made
        split
        · exact trivial
        · exact (h.1.made_render depth).bind fun _ _ => trivial
    | foreign d => exact HostError.codeFree_noFunctionPart d

end Term.CodeFree

/-! ## Messages -/

namespace Text

/-- A part of a message. -/
inductive Part where
  /-- wording, which is shown as it is -/
  | wording (text : String)
  /-- a snippet, which is set off -/
  | snippet (text : String)

namespace Part

/-- The text of a part. -/
def text : Part → String
  | .wording text => text
  | .snippet text => text

/-- The part as it is shown, where `mark` sets snippets off. -/
def shown (mark : String → String) : Part → String
  | .wording text => text
  | .snippet text => mark text

/-- A part that is not set off is shown as its text. -/
theorem shown_id (p : Part) : p.shown (fun text => text) = p.text := by
  cases p <;> rfl

/-- The parts one after the other. -/
def showAll (mark : String → String) (parts : List Part) : String :=
  String.join (parts.map (shown mark))

/-- Where snippets are in bold, the text decorates the one where they are not. -/
theorem decorates_showAll {on off : Host} (hosts : on.Recolors off) {parts : List Part}
    (h : ∀ p ∈ parts, Text.CodeFree p.text) :
    Decorates (showAll (on.colored .plain) parts) (showAll (off.colored .plain) parts) := by
  refine Decorates.join fun p hp => ?_
  cases p with
  | wording text => exact (h _ hp).decorates
  | snippet text => exact (h _ hp).colored hosts .plain

end Part

end Text

/-- The message of the report has parts, of which the snippets are set off in bold, and neither they
nor the offending text hold a code. -/
structure Report.CodeFree (r : Report) : Prop where
  /-- the offending text holds no code -/
  snippet : Text.CodeFree r.snippet
  /-- the message has parts that hold no code -/
  message : ∃ parts : List Text.Part, (∀ p ∈ parts, Text.CodeFree p.text) ∧
    ∀ host : Text.Host, r.message host = Text.Part.showAll (host.colored .plain) parts
  /-- what keeps the report from being put into words holds no code -/
  obstacle : ∀ depth o, r.obstacle? depth = some o → o.CodeFree

/-- Nothing keeps the report that is made of texts from being put into words. -/
theorem Notice.codeFree_obstacle {n : Notice} {first : String} {rest : List String} (depth : Nat)
    (o : Obstacle) (h : (n.reportOf first rest).obstacle? depth = some o) : o.CodeFree := by
  cases h

namespace Report

variable {before between after : List Char} {r : Report}

/-- A report whose message is wording alone. -/
theorem codeFree_of_constant (hr : Text.CodeFree r.snippet) (hb : before.contains '\x1b' = false)
    (hmessage : ∀ host : Text.Host, r.message host = String.ofList before)
    (ho : ∀ depth o, r.obstacle? depth = some o → o.CodeFree) : r.CodeFree where
  snippet := hr
  message := ⟨[.wording (String.ofList before)],
    by simp [Text.Part.text, Text.CodeFree.literal hb],
    fun host => by simp [hmessage, Text.Part.showAll, Text.Part.shown]⟩
  obstacle := ho

/-- A report whose message sets off the offending text. -/
theorem codeFree_of_one (hr : Text.CodeFree r.snippet) (hb : before.contains '\x1b' = false)
    (ha : after.contains '\x1b' = false)
    (hmessage : ∀ host : Text.Host, r.message host =
      String.ofList before ++ host.colored .plain r.snippet ++ String.ofList after)
    (ho : ∀ depth o, r.obstacle? depth = some o → o.CodeFree) : r.CodeFree where
  snippet := hr
  message := ⟨[.wording (String.ofList before), .snippet r.snippet, .wording (String.ofList after)],
    by simp [Text.Part.text, Text.CodeFree.literal hb, hr, Text.CodeFree.literal ha],
    fun host => by simp [hmessage, Text.Part.showAll, Text.Part.shown, String.append_assoc]⟩
  obstacle := ho

/-- A report whose message sets off the offending text and a second snippet. -/
theorem codeFree_of_two {second : String} (hr : Text.CodeFree r.snippet)
    (hb : before.contains '\x1b' = false) (hm : between.contains '\x1b' = false)
    (hs : Text.CodeFree second) (ha : after.contains '\x1b' = false)
    (hmessage : ∀ host : Text.Host, r.message host =
      String.ofList before ++ host.colored .plain r.snippet ++ String.ofList between ++
        host.colored .plain second ++ String.ofList after)
    (ho : ∀ depth o, r.obstacle? depth = some o → o.CodeFree) : r.CodeFree where
  snippet := hr
  message := ⟨[.wording (String.ofList before), .snippet r.snippet,
      .wording (String.ofList between), .snippet second, .wording (String.ofList after)],
    by simp [Text.Part.text, Text.CodeFree.literal hb, hr, Text.CodeFree.literal hm, hs,
      Text.CodeFree.literal ha],
    fun host => by simp [hmessage, Text.Part.showAll, Text.Part.shown, String.append_assoc]⟩
  obstacle := ho

/-- The message in colour decorates the one without. -/
theorem CodeFree.decorates_message {on off : Text.Host} (hosts : on.Recolors off)
    (h : r.CodeFree) : Text.Decorates (r.message on) (r.message off) := by
  obtain ⟨parts, hparts, hshown⟩ := h.message
  rw [hshown, hshown]
  exact Text.Part.decorates_showAll hosts hparts

/-- Without colour the message is the same for any two hosts, and holds no code. -/
theorem CodeFree.exists_uncolored (h : r.CodeFree) :
    ∃ text, Text.CodeFree text ∧ ∀ host : Text.Host, r.message host.uncolored = text := by
  obtain ⟨parts, hparts, hshown⟩ := h.message
  refine ⟨Text.Part.showAll (fun text => text) parts, .join fun p hp => ?_, fun host => hshown _⟩
  rw [p.shown_id]
  exact hparts p hp

end Report

/-! ## Values and faults -/

/-- What a host function sees holds no code. -/
def Look.CodeFree : Look → Prop
  | .closure param body => Text.CodeFree param ∧ body.CodeFree
  | .primitive name => Text.CodeFree name
  | .constant datum => datum.CodeFree Term.CodeFree
  | .foreign datum => datum.CodeFree Term.CodeFree

mutual

/-- No name and no text in the value holds a code. -/
def Value.CodeFree : Value → Prop
  | .closure env param body => env.CodeFree ∧ Text.CodeFree param ∧ body.CodeFree
  | .primitive name action => Text.CodeFree name ∧ action.CodeFree
  | .constant datum => datum.CodeFree Term.CodeFree
  | .foreign datum => datum.CodeFree Term.CodeFree

/-- No name that is bound, and no value that it is bound to, holds a code. -/
def Env.CodeFree : Env → Prop
  | .empty => True
  | .extend parent name value => parent.CodeFree ∧ Text.CodeFree name ∧ value.CodeFree

/-- What the action gives back, applies or raises holds no code, unless it sees one. -/
def Action.CodeFree : Action → Prop
  | .successor => True
  | .spy => True
  | .always result => result.CodeFree
  | .callWith value => value.CodeFree
  | .fail fault => fault.CodeFree
  | .inspect choose => ∀ look : Look, look.CodeFree → (choose look).CodeFree
  | .andThen first next => first.CodeFree ∧ next.CodeFree

/-- What is reported of the fault holds no code, and neither does the name of a class that is
derived. -/
def Fault.CodeFree : Fault → Prop
  | .unbound name => Text.CodeFree name
  | .notApplicable value => value.CodeFree
  | .report r => r.CodeFree
  | .depthExceeded => True
  | .interrupted _ => True
  | .exit _ => True
  | .host error => error.CodeFree
  | .unspeakable errorClass instead => Text.CodeFree errorClass.name ∧ instead.CodeFree
  | .derived name base => Text.CodeFree name ∧ base.CodeFree ∧ Text.CodeFree base.detail

end

theorem Env.CodeFree.names : ∀ {env : Env}, env.CodeFree → ∀ x ∈ env.names, Text.CodeFree x
  | .empty, _, _, hx => by cases hx
  | .extend parent name value, h, x, hx => by
    rcases List.mem_cons.mp hx with rfl | hx
    · exact h.2.1
    · exact Env.CodeFree.names h.1 x hx

namespace Value.CodeFree

variable {v : Value}

theorem display (h : v.CodeFree) : Text.CodeFree v.display := by
  cases v with
  | closure env param body =>
    have henv : Text.CodeFree env.display :=
      .around rfl (.intercalate (.literal rfl) h.1.names) rfl
    have hparam : Text.CodeFree (Text.quote param) := h.2.1.quote
    exact ((Text.CodeFree.pair rfl henv rfl hparam rfl).append h.2.2.dump).append (.literal rfl)
  | primitive name action => exact .around rfl h.1 rfl
  | constant datum => exact Datum.CodeFree.display Term.codeFree_dump_object h
  | foreign datum => exact Datum.CodeFree.display Term.codeFree_dump_object h

/-- What is seen of a value without codes. -/
theorem look (h : v.CodeFree) : v.look.CodeFree := by
  cases v with
  | closure env param body => exact h.2
  | primitive name action => exact h.1
  | constant datum => exact h
  | foreign datum => exact h

/-- A value is shown without codes. -/
theorem made_render (h : v.CodeFree) (depth : Nat) : Made Text.CodeFree (v.renderWithin depth) := by
  cases depth with
  | zero => exact trivial
  | succ depth =>
    cases v with
    | closure env param body =>
      exact (h.2.2.made_render depth).bind fun _ hb => .pure (.pair rfl h.2.1 rfl hb rfl)
    | primitive name action => exact h.display
    | constant datum => exact Datum.CodeFree.made_display h depth
    | foreign datum => exact Datum.CodeFree.made_display h depth

end Value.CodeFree

/-- What keeps a value from being shown in full holds no code. -/
theorem Value.codeFree_obstacle? {v : Value} {depth : Nat} {o : Obstacle}
    (h : v.obstacle? depth = some o) : o.CodeFree := by
  rw [obstacle?] at h
  split at h
  · cases h
  · obtain rfl := Option.some.inj h
    exact Obstacle.codeFree_ofLimit _

theorem Obstacle.CodeFree.fault {o : Obstacle} (h : o.CodeFree) : o.fault.CodeFree := by
  cases o with
  | tooDeep => exact trivial
  | host e => exact h

theorem Fault.codeFree_unbound {name : String} (h : Text.CodeFree name) :
    (Fault.unboundNotice.reportOf name []).CodeFree :=
  Report.codeFree_of_one h rfl rfl (Fault.unbound_message name) Notice.codeFree_obstacle

theorem Value.CodeFree.notApplicable {v : Value} (h : v.CodeFree) :
    { Fault.notApplicableNotice.reportOf v.display [] with
      obstacle? := v.obstacle? : Report }.CodeFree :=
  Report.codeFree_of_one h.display rfl rfl (Fault.notApplicable_message v.display)
    fun _ _ => Value.codeFree_obstacle?

theorem Value.CodeFree.notANumeral {v : Value} (h : v.CodeFree) : v.notANumeral.CodeFree :=
  Report.codeFree_of_one h.display rfl rfl (Value.notANumeral_message v.display)
    fun _ _ => Value.codeFree_obstacle?

namespace Fault.CodeFree

/-- The report of a fault without codes; a derived class keeps the report of its base. -/
theorem of_report? {f : Fault} (h : f.CodeFree) {r : Report} (hr : f.report? = some r) :
    r.CodeFree := by
  cases f with
  | unbound name => exact Option.some.inj hr ▸ Fault.codeFree_unbound h
  | notApplicable value => exact Option.some.inj hr ▸ Value.CodeFree.notApplicable h
  | report r' => exact Option.some.inj hr ▸ h
  | derived name base => exact of_report? (f := base) h.2.1 hr
  | _ => cases hr

variable {f : Fault}

/-- What keeps a fault from being put into words holds no code. -/
theorem of_obstacle? (h : f.CodeFree) {depth : Nat} {o : Obstacle}
    (ho : f.obstacle? depth = some o) : o.CodeFree := by
  unfold Fault.obstacle? at ho
  split at ho
  · next r hr => exact (h.of_report? hr).obstacle depth o ho
  · split at ho
    · cases ho
    · obtain rfl := Option.some.inj ho
      exact Obstacle.codeFree_ofLimit _
  · cases ho

/-- What is raised in place of a fault holds no code. -/
theorem worded (h : f.CodeFree) (depth : Nat) : (f.worded depth).CodeFree := by
  rw [Fault.worded]
  split
  · exact h
  · next o ho => exact (h.of_obstacle? ho).fault

/-- The name of the class. -/
theorem className (h : f.CodeFree) : Text.CodeFree f.className := by
  cases f with
  | host error => exact h.name
  | unspeakable errorClass instead => exact h.1
  | derived name base => exact h.1
  | _ => exact .literal rfl

/-- What a fault says does not depend on the host. -/
theorem exists_message (h : f.CodeFree) (hd : Text.CodeFree f.detail) :
    ∃ text, Text.CodeFree text ∧ ∀ host, f.message host = text := by
  cases hr : f.report? with
  | some r =>
    obtain ⟨text, htext, hall⟩ := (h.of_report? hr).exists_uncolored
    exact ⟨text, htext, fun host => by rw [Fault.message, hr]; exact hall host⟩
  | none => exact ⟨f.detail, hd, fun host => by rw [Fault.message, hr]⟩

/-- A fault has the same words for any host, or ends in the same fault when it is asked for them. -/
theorem words : ∀ {f : Fault}, f.CodeFree → Text.CodeFree f.detail →
    (∃ g : Fault, g.CodeFree ∧ ∀ host, f.words host = .error g) ∨
      ∃ text, Text.CodeFree text ∧ ∀ host, f.words host = .ok text
  | .unspeakable _ instead, h, _ => .inl ⟨instead, h.2, fun _ => rfl⟩
  | .derived _ base, h, hd => words (f := base) h.2.1 hd
  | .unbound _, h, hd | .notApplicable _, h, hd | .report _, h, hd | .depthExceeded, h, hd
  | .interrupted _, h, hd | .exit _, h, hd | .host _, h, hd => by
    obtain ⟨text, htext, hall⟩ := exists_message h hd
    exact .inr ⟨text, htext, fun host => congrArg Except.ok (hall host)⟩

end Fault.CodeFree

/-! ## Evaluation -/

/-- A run that notes and gives back values without codes, and raises only faults without them. -/
abbrev Run.IsCodeFree (run : Run Value Value) : Prop :=
  run.Meets Value.CodeFree Value.CodeFree Fault.CodeFree

theorem Fault.codeFree_notAValue {name : String} {datum : Datum Term} (hn : Text.CodeFree name)
    (hd : datum.CodeFree Term.CodeFree) : (Fault.notAValue name datum).CodeFree := by
  refine Report.codeFree_of_two hn rfl rfl (hd.dump Term.codeFree_dump_object) rfl
    (Fault.notAValue_message name datum.dump) fun depth o ho => ?_
  dsimp only at ho
  split at ho
  · cases ho
  · obtain rfl := Option.some.inj ho
    exact Obstacle.codeFree_ofLimit _

theorem Value.CodeFree.accept {v : Value} {name : String} (h : v.CodeFree)
    (hn : Text.CodeFree name) : (v.accept name).IsCodeFree := by
  cases v with
  | foreign datum => exact .fail (Fault.codeFree_notAValue hn h)
  | _ => exact .pure h

theorem Value.CodeFree.successor {v : Value} (h : v.CodeFree) : v.successor.IsCodeFree := by
  rw [Value.successor]
  cases v.integer? with
  | none => exact .fail h.notANumeral
  | some i => exact .pure trivial

/-- A host function that holds no code itself. -/
theorem Action.CodeFree.perform {call : Value → Value → Run Value Value}
    (hc : ∀ f a : Value, f.CodeFree → a.CodeFree → (call f a).IsCodeFree) :
    ∀ (action : Action) {argument : Value}, action.CodeFree → argument.CodeFree →
      (action.perform call argument).IsCodeFree
  | .successor, _, _, ha => ha.successor
  | .spy, _, _, ha => .noted ha ha
  | .always _, _, h, _ => .pure h
  | .callWith value, argument, h, ha => hc argument value ha h
  | .fail _, _, h, _ => .fail h
  | .inspect choose, argument, h, ha =>
    Action.CodeFree.perform hc (choose argument.look) (h _ ha.look) ha
  | .andThen first next, _, h, ha =>
    (Action.CodeFree.perform hc first h.1 ha).bind fun _ hr =>
      Action.CodeFree.perform hc next h.2 hr

/-- Evaluation leads to values and faults without codes only. -/
def codeFreedom : Invariant where
  value := Value.CodeFree
  env := Env.CodeFree
  term := Term.CodeFree
  fault := Fault.CodeFree
  bound h := ⟨h.2.2, h.1⟩
  capture he ht := ⟨he, ht⟩
  parts ht := ht
  enter hf ha := ⟨⟨hf.1, hf.2.1, ha⟩, hf.2.2⟩
  perform hp ha hc := (Action.CodeFree.perform hc _ hp.2 ha).bind fun _ hv => hv.accept hp.1
  unbound ht := ht
  notATerm hd := ⟨.literal rfl, .append (.literal rfl) (Term.codeFree_dump_foreign hd)⟩
  notApplicable hv := hv
  depthExceeded := trivial

/-- Decoding a numeral applies it, and may fail with what came out. -/
theorem Value.CodeFree.decodeNumeral {v : Value} (h : v.CodeFree) (depth : Nat) :
    (Church.decodeNumeral depth v).Meets Value.CodeFree (fun _ => True) Fault.CodeFree := by
  have hap := (codeFreedom.evaluate_apply depth).2
  have hsucc : Church.successor.CodeFree := ⟨.literal rfl, trivial⟩
  have hzero : (Value.constant (.int 0)).CodeFree := trivial
  refine (hap v Church.successor h hsucc).bind fun f hf =>
    (hap f (.constant (.int 0)) hf hzero).bind fun r hr => ?_
  split
  · exact .pure trivial
  · exact .fail hr.notANumeral

end CallByValue
