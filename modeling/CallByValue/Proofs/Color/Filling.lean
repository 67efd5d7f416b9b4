import CallByValue.Proofs.Color.Content

/-!
# Filling plain templates

The fields of a **plain** template stand for snippets as they are. It can be filled whichever way
the snippets are set off, or it cannot, whichever way they are: what is filled in is looked up by
number and never looked into.

* `Template.scan_codeFree` — the characters of a template, and what is said of one that cannot be
  read;
* `Template.fill_uniform` — filling a plain template is the same for all ways to set off snippets;
* `Notice.IsPlain.report` — so the report of a notice does not depend on the host;
* `Cause.IsPlain.outcome` — and neither does the fault that comes of a plain cause.
-/

namespace CallByValue

namespace Text.Template

/-! ## The pieces of a template -/

/-- The piece adds no code: neither its character, nor what is said of an error. -/
def Piece.CodeFree : Piece → Prop
  | .literal c => c ≠ '\x1b'
  | .field _ => True
  | .broken error => (HostError.template error).CodeFree

/-- Inside a layout a bracket opens one level more. -/
theorem scanLayout_open (name : List Char) (conversion : Option Char) (depth : Nat)
    (layout rest : List Char) : scanLayout name conversion depth layout ('{' :: rest) =
      scanLayout name conversion (depth + 1) ('{' :: layout) rest := by
  cases depth <;> simp [scanLayout]

/-- Inside a layout other characters are read one by one. -/
theorem scanLayout_cons (name : List Char) (conversion : Option Char) (depth : Nat)
    (layout rest : List Char) {c : Char} (hc : c ≠ '}') (ho : c ≠ '{') :
    scanLayout name conversion depth layout (c :: rest) =
      scanLayout name conversion depth (c :: layout) rest := by
  cases depth <;> simp [scanLayout, hc, ho]

/-- The pieces of a template without codes, by induction on the way it is read. -/
theorem scan_codeFree {text : List Char} (h : '\x1b' ∉ text) : ∀ p ∈ scan text, p.CodeFree := by
  have hclose : (HostError.template .strayClose).CodeFree := ⟨.literal rfl, .literal rfl⟩
  have hopen : (HostError.template .strayOpen).CodeFree := ⟨.literal rfl, .literal rfl⟩
  have hfield : (HostError.template .unclosedField).CodeFree := ⟨.literal rfl, .literal rfl⟩
  have hnested : (HostError.template .nestedOpen).CodeFree := ⟨.literal rfl, .literal rfl⟩
  have hmissing : (HostError.template .missingConversion).CodeFree := ⟨.literal rfl, .literal rfl⟩
  have hstray : (HostError.template .strayAfterConversion).CodeFree := ⟨.literal rfl, .literal rfl⟩
  have hlayout : (HostError.template .unclosedLayout).CodeFree := ⟨.literal rfl, .literal rfl⟩
  revert h
  -- the five readers call one another; each adds only characters of the text and these errors
  apply scan.induct (fun text => '\x1b' ∉ text → ∀ p ∈ scan text, p.CodeFree)
    (fun name text => '\x1b' ∉ text → ∀ p ∈ scanName name text, p.CodeFree)
    (fun name text => '\x1b' ∉ text → ∀ p ∈ scanItem name text, p.CodeFree)
    (fun name text => '\x1b' ∉ text → ∀ p ∈ scanConversion name text, p.CodeFree)
    (fun name conversion depth layout text =>
      '\x1b' ∉ text → ∀ p ∈ scanLayout name conversion depth layout text, p.CodeFree)
  all_goals grind [scan, scanName, scanItem, scanConversion, scanLayout, scanLayout_open,
    scanLayout_cons, Piece.CodeFree]

/-! ## Plain fields -/

/-- A digit does not start a code. -/
theorem ne_escape_of_digit {c : Char} (h : (digitValue? c).isSome = true) : c ≠ '\x1b' := by
  rintro rfl
  exact absurd h (by decide)

variable {name : List Char} {numbering : Numbering} {error : Error}

/-- Of a number only its size can be wrong. -/
theorem codeFree_readIndex_error {digits : List Char} {n : Nat}
    (he : readIndex n digits = .error error) : (HostError.template error).CodeFree := by
  induction digits generalizing n with
  | nil => cases he
  | cons c rest ih =>
    rw [readIndex] at he
    split at he
    · cases he
    · split at he
      · exact ih he
      · obtain rfl := Except.error.inj he
        exact ⟨.literal rfl, .literal rfl⟩

/-- What is wrong with the number of a snippet is said without codes. -/
theorem codeFree_number_error (h : ∀ c ∈ name, (digitValue? c).isSome = true)
    (he : number numbering name = .error error) : (HostError.template error).CodeFree := by
  cases name with
  | nil =>
    cases numbering with
    | manual =>
      obtain rfl := Except.error.inj he
      exact ⟨.literal rfl, .literal rfl⟩
    | undecided => cases he
    | automatic next => cases he
  | cons c rest =>
    cases hi : readIndex 0 (c :: rest) with
    | error e =>
      simp only [number, hi] at he
      obtain rfl := Except.error.inj he
      exact codeFree_readIndex_error hi
    | ok found =>
      simp only [number, hi] at he
      cases found with
      | none =>
        obtain rfl := Except.error.inj he
        have hname : Text.CodeFree (String.ofList (c :: rest)) :=
          .ofList fun hmem => ne_escape_of_digit (h _ hmem) rfl
        exact ⟨.literal rfl, hname.quote⟩
      | some index =>
        cases numbering with
        | automatic next =>
          obtain rfl := Except.error.inj he
          exact ⟨.literal rfl, .literal rfl⟩
        | undecided => cases he
        | manual => cases he

/-! ## Filling -/

variable {texts : List String}

/-- Filling is **uniform** in the host and in the way snippets are set off: it fails with one error,
or gives one list of parts. -/
def Uniform (filled : Host → (String → String) → Filled) : Prop :=
  (∃ e : Error, (HostError.template e).CodeFree ∧ ∀ host mark, filled host mark = .error e) ∨
    ∃ (parts : List Part) (next : Numbering), (∀ p ∈ parts, Text.CodeFree p.text) ∧
      ∀ host mark, filled host mark = .ok ((Part.showAll mark parts).toList, next)

/-- A plain field is replaced by one snippet, however snippets are set off, or by none. -/
theorem replace_uniform (ht : ∀ s ∈ texts, Text.CodeFree s) {field : Field} (h : field.IsPlain)
    (expandLayout : Host → (String → String) → Numbering → List Char → Filled)
    (numbering : Numbering) :
    Uniform fun host mark =>
      replace host (expandLayout host mark) (texts.map mark) numbering field := by
  simp only [Uniform, replace_of_isPlain _ h, List.getElem?_map]
  cases hn : number numbering field.name with
  | error e => exact .inl ⟨e, codeFree_number_error h.digits hn, fun _ _ => rfl⟩
  | ok found =>
    simp only [ok_bind]
    cases hs : texts[found.1]? with
    | none =>
      have herror : (HostError.template (.noSuchSnippet found.1)).CodeFree :=
        ⟨.literal rfl, .around rfl (codeFree_ofNat found.1) rfl⟩
      exact .inl ⟨.noSuchSnippet found.1, herror, fun _ _ => rfl⟩
    | some text =>
      have htext : Text.CodeFree text := ht text (List.mem_of_getElem? hs)
      refine .inr ⟨[.snippet text], found.2, by simpa [Part.text] using htext, fun _ mark => ?_⟩
      simp [Part.showAll, Part.shown]

/-- The pieces of a template with plain fields are filled uniformly, piece by piece. -/
theorem fillPieces_uniform (ht : ∀ s ∈ texts, Text.CodeFree s)
    (expandLayout : Host → (String → String) → Numbering → List Char → Filled)
    {pieces : List Piece} (hc : ∀ p ∈ pieces, p.CodeFree)
    (hf : ∀ field, .field field ∈ pieces → field.IsPlain) (numbering : Numbering) :
    Uniform fun host mark =>
      fillPieces host (expandLayout host mark) (texts.map mark) numbering pieces := by
  induction pieces generalizing numbering with
  | nil => exact .inr ⟨[], numbering, by simp, fun _ _ => rfl⟩
  | cons piece rest ih =>
    have hrest := fun numbering => ih (fun p hp => hc p (List.mem_cons_of_mem piece hp))
      (fun field hp => hf field (List.mem_cons_of_mem piece hp)) numbering
    cases piece with
    | literal c =>
      obtain ⟨e, he, hall⟩ | ⟨parts, next, hparts, hall⟩ := hrest numbering
      · refine .inl ⟨e, he, fun host mark => ?_⟩
        simp only [fillPieces, hall host mark]
        rfl
      · have hchar : Text.CodeFree (String.singleton c) :=
          .ofList fun h => hc _ List.mem_cons_self (List.mem_singleton.mp h).symm
        refine .inr ⟨.wording (String.singleton c) :: parts, next, ?_, fun host mark => ?_⟩
        · exact List.forall_mem_cons.mpr ⟨hchar, hparts⟩
        · simp [fillPieces, hall host mark, ok_bind, Part.showAll, Part.shown, pure, Except.pure]
    | field field =>
      obtain ⟨e, he, hall⟩ | ⟨inserted, between, hinserted, hall⟩ :=
        replace_uniform ht (hf field List.mem_cons_self) expandLayout numbering
      · refine .inl ⟨e, he, fun host mark => ?_⟩
        simp only [fillPieces, hall host mark]
        rfl
      · -- the field has been counted, so what follows is filled under the next numbering
        obtain ⟨e, he, hall'⟩ | ⟨parts, next, hparts, hall'⟩ := hrest between
        · refine .inl ⟨e, he, fun host mark => ?_⟩
          simp only [fillPieces, hall host mark, ok_bind, hall' host mark]
          rfl
        · refine .inr ⟨inserted ++ parts, next, ?_, fun host mark => ?_⟩
          · exact fun p hp => (List.mem_append.mp hp).elim (hinserted p) (hparts p)
          · simp [fillPieces, hall host mark, ok_bind, hall' host mark, Part.showAll, pure,
              Except.pure]
    | broken error => exact .inl ⟨error, hc _ List.mem_cons_self, fun _ _ => rfl⟩

/-- **A plain template is filled uniformly**: whatever the host is and however snippets are set off,
it cannot be filled for one and the same reason, or the message has one and the same parts. -/
theorem fill_uniform {template : String} (hc : Text.CodeFree template)
    (hf : ∀ field, .field field ∈ scan template.toList → field.IsPlain)
    (ht : ∀ s ∈ texts, Text.CodeFree s) :
    (∃ e : Error, (HostError.template e).CodeFree ∧
        ∀ host mark, fill host template (texts.map mark) = .error e) ∨
      ∃ parts : List Part, (∀ p ∈ parts, Text.CodeFree p.text) ∧
        ∀ host mark, fill host template (texts.map mark) = .ok (Part.showAll mark parts) := by
  obtain ⟨e, he, hall⟩ | ⟨parts, next, hparts, hall⟩ :=
    fillPieces_uniform ht (fun host mark => expand host (texts.map mark) 1) (scan_codeFree hc) hf
      .undecided
  · refine .inl ⟨e, he, fun host mark => ?_⟩
    simp only [fill_eq, hall host mark]
    rfl
  · refine .inr ⟨parts, hparts, fun host mark => ?_⟩
    simp only [fill_eq, hall host mark, ok_bind, String.ofList_toList]
    rfl

end Text.Template

/-! ## Notices -/

/-- The notice is **plain**: all fields of its template are, and neither template nor snippets hold
a code. -/
structure Notice.IsPlain (n : Notice) : Prop where
  /-- the template holds no code -/
  template : Text.CodeFree n.template
  /-- the fields of the template are empty or numbers -/
  fields : ∀ field, .field field ∈ Text.Template.scan n.template.toList → field.IsPlain
  /-- the snippets hold no code -/
  snippets : n.snippets.CodeFree Term.CodeFree

namespace Notice

variable {n : Notice} {depth : Nat}

/-- The texts of items without codes. -/
theorem made_itemTexts {items : List (Datum Term)} (h : Datum.AllCodeFree Term.CodeFree items)
    (depth : Nat) : Made (fun texts => ∀ s ∈ texts, Text.CodeFree s) (itemTexts depth items) := by
  induction items with
  | nil => exact List.forall_mem_nil _
  | cons item items ih =>
    exact (Datum.CodeFree.made_display h.1 depth).bind fun _ htext =>
      (ih h.2).bind fun _ hrest => .pure (List.forall_mem_cons.mpr ⟨htext, hrest⟩)

/-- The texts of the snippets of a plain notice. -/
theorem IsPlain.made_snippetTexts (h : n.IsPlain) (depth : Nat) :
    Made (fun texts => ∀ s ∈ texts, Text.CodeFree s) (n.snippetTexts depth) := by
  have hs := h.snippets
  rw [snippetTexts]
  split
  · exact List.forall_mem_singleton.mpr (.literal rfl)
  · next text heq =>
    rw [heq] at hs
    exact List.forall_mem_singleton.mpr hs
  · next items heq =>
    rw [heq] at hs
    exact made_itemTexts hs depth
  · have hkind : Text.CodeFree n.snippets.kindName :=
      n.snippets.codeFree_kindName Term.codeFree_kindName_object
    exact ⟨.literal rfl, .around rfl hkind rfl⟩

/-- **The report of a plain notice does not depend on the host**: it cannot be made for one and the
same reason, or it is one and the same report. -/
theorem IsPlain.report (h : n.IsPlain) (depth : Nat) :
    (∃ o : Obstacle, o.CodeFree ∧ ∀ host, n.report host depth = .error o) ∨
      ∃ r : Report, r.CodeFree ∧ ∀ host, n.report host depth = .ok r := by
  -- the host has no part in the texts of the snippets, and filling is uniform in what it does
  have hmade := h.made_snippetTexts depth
  cases hn : n.snippetTexts depth with
  | error o =>
    rw [hn] at hmade
    refine .inl ⟨o, hmade, fun host => ?_⟩
    rw [Notice.report, hn]
    rfl
  | ok texts =>
    rw [hn] at hmade
    have htexts : ∀ s ∈ texts, Text.CodeFree s := hmade
    obtain ⟨e, he, hall⟩ | ⟨parts, hparts, hall⟩ :=
      Text.Template.fill_uniform h.template h.fields htexts
    · refine .inl ⟨.host (.template e), he, fun host => report_of_message_error hn ?_⟩
      rw [Notice.message, hall]
      rfl
    · have hmessage (host : Text.Host) : n.message host texts =
          .ok (Text.Part.showAll (host.colored .plain) parts) := by
        rw [Notice.message, hall]
        rfl
      cases texts with
      | nil =>
        exact .inl ⟨.host .noSnippet, ⟨.literal rfl, .literal rfl⟩,
          fun host => report_of_nil hn (hmessage host)⟩
      | cons first rest =>
        refine .inr ⟨n.reportOf first rest, ⟨?_, ⟨parts, hparts, fun host => ?_⟩,
          codeFree_obstacle⟩,
          fun host => report_eq_reportOf hn (hmessage host) (hmessage host.uncolored)⟩
        · exact htexts first List.mem_cons_self
        · change (n.message host (first :: rest)).toOption.getD "" = _
          rw [hmessage]
          rfl

end Notice

/-! ## Causes -/

/-- The cause is a fault without codes, or a plain notice. -/
def Cause.IsPlain : Cause → Prop
  | .fault f => f.CodeFree
  | .notice n => n.IsPlain

/-- What a plain cause describes does not depend on the host. -/
theorem Cause.IsPlain.build {cause : Cause} (h : cause.IsPlain) (depth : Nat) :
    (∃ o : Obstacle, o.CodeFree ∧ ∀ host, cause.build host depth = .error o) ∨
      ∃ f : Fault, f.CodeFree ∧ ∀ host, cause.build host depth = .ok f := by
  cases cause with
  | fault f =>
    cases ho : f.obstacle? depth with
    | none => exact .inr ⟨f, h, fun _ => by rw [Cause.build, ho]⟩
    | some o =>
      exact .inl ⟨o, Fault.CodeFree.of_obstacle? h ho, fun _ => by rw [Cause.build, ho]⟩
  | notice n =>
    obtain ⟨o, ho, hall⟩ | ⟨r, hr, hall⟩ := Notice.IsPlain.report h depth
    · refine .inl ⟨o, ho, fun host => ?_⟩
      rw [Cause.build, hall]
      rfl
    · refine .inr ⟨.report r, hr, fun host => ?_⟩
      rw [Cause.build, hall]
      rfl

/-- What comes of a plain cause does not depend on the host. -/
theorem Cause.IsPlain.outcome {cause : Cause} (h : cause.IsPlain) (depth : Nat) :
    ∃ f : Fault, f.CodeFree ∧ ∀ host, cause.outcome host depth = f := by
  obtain ⟨o, ho, hall⟩ | ⟨f, hf, hall⟩ := h.build depth
  · exact ⟨o.fault, ho.fault, fun host => by rw [Cause.outcome, hall]⟩
  · exact ⟨f, hf, fun host => by rw [Cause.outcome, hall]⟩

end CallByValue
