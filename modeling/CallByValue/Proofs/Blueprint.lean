import CallByValue.Text.Template
import Mathlib.Data.List.TakeWhile

/-!
# Plain templates and what they are filled to

The fields of a **plain** template stand for snippets as they are. A plain template is written from
a **blueprint**: wording, in which brackets are written twice, and fields, which either all stand in
order or are all numbered. Reading the template back gives the blueprint, however the wording and
the snippets look, so each field is replaced by its snippet and nothing else is touched.

* `Field.IsPlain`, `replace_of_isPlain` — a plain field, and what replaces it;
* `Numeral`, `Segment`, `Blueprint` — decimal numbers as they are written, the segments of a
  template, and plain templates with their text, their wording and the numbers of their snippets;
* `Resolves` — pieces that were read, and the segments that they stand for under a numbering;
* `Blueprint.resolves` — the text of a blueprint is read back as its segments;
* `Blueprint.fill_eq_filled`, `Blueprint.fill_eq_error` — filling inserts the snippets, or blames
  the first number that no snippet has.
-/

namespace CallByValue

namespace Text.Template

/-! ## Plain fields -/

/-- The field is **plain**: it is empty or a number, and has neither a conversion nor a layout. -/
structure Field.IsPlain (field : Field) : Prop where
  /-- the name is empty or a number -/
  digits : ∀ c ∈ field.name, (digitValue? c).isSome = true
  /-- there is no conversion -/
  conversion : field.conversion = none
  /-- there is no layout -/
  layout : field.layout = []

/-- Digits begin no step. -/
theorem isStep_of_digit {c : Char} (h : (digitValue? c).isSome = true) : isStep c = false := by
  rw [isStep, Bool.or_eq_false_iff, decide_eq_false_iff_not, decide_eq_false_iff_not]
  constructor
  · rintro rfl
    exact absurd h (by decide)
  · rintro rfl
    exact absurd h (by decide)

/-- What follows a result. -/
theorem ok_bind {α β : Type} (a : α) (next : α → Except Error β) :
    (Except.ok a >>= next) = next a := rfl

/-- A plain field is replaced by a snippet as it is. -/
theorem replace_of_isPlain (host : Host) {field : Field} (h : field.IsPlain)
    (expandLayout : Numbering → List Char → Filled) (snippets : List String)
    (numbering : Numbering) :
    replace host expandLayout snippets numbering field =
      number numbering field.name >>= fun found =>
        match snippets[found.1]? with
        | none => .error (.noSuchSnippet found.1)
        | some snippet => .ok (snippet.toList, found.2) := by
  obtain ⟨name, conversion, layout⟩ := field
  obtain rfl : conversion = none := h.conversion
  obtain rfl : layout = [] := h.layout
  have hpath : ∀ c ∈ name, (!isStep c) = true := fun c hc => by
    rw [isStep_of_digit (h.digits c hc)]
    rfl
  rw [replace, locate, List.takeWhile_eq_self_iff.mpr hpath, List.dropWhile_eq_nil_iff.mpr hpath]
  cases number numbering name with
  | error e => rfl
  | ok found =>
    obtain ⟨index, next⟩ := found
    simp only [ok_bind]
    cases snippets[index]? with
    | none => rfl
    | some snippet => simp [steps, follow, Host.subject, convert, Except.mapError, ok_bind]

/-- Filling a template fills its pieces. -/
theorem fill_eq (host : Host) (template : String) (snippets : List String) :
    fill host template snippets =
      fillPieces host (expand host snippets 1) snippets .undecided (scan template.toList) >>=
        fun filled => pure (String.ofList filled.1) := rfl

/-! ## Blueprints -/

/-- A decimal number that fits a machine word, as it is written; zeros may lead it. -/
structure Numeral where
  /-- the digits, of any script -/
  digits : List Char
  /-- the number that they write -/
  value : Nat
  /-- there is at least one digit -/
  digits_ne_nil : digits ≠ []
  /-- the digits write the number -/
  reads : readDigits? digits = some value
  /-- the number fits a machine word -/
  value_lt : value < wordLimit

/-- A segment of a template, with fields of type `φ`. -/
inductive Segment (φ : Type) where
  /-- text that is taken as it is -/
  | wording (text : String)
  /-- a field -/
  | field (f : φ)

/-- A text as it is written in a template: brackets are written twice. -/
def doubled : List Char → List Char
  | [] => []
  | c :: rest => if c = '{' ∨ c = '}' then c :: c :: doubled rest else c :: doubled rest

namespace Segment

variable {φ : Type}

/-- The template with these segments, where `name` is what is written between the brackets of a
field. -/
def written (name : φ → List Char) : List (Segment φ) → List Char
  | [] => []
  | .wording text :: rest => doubled text.toList ++ written name rest
  | .field f :: rest => '{' :: (name f ++ '}' :: written name rest)

/-- The segments with the fields numbered in order, from `next` on. -/
def counted (next : Nat) : List (Segment Unit) → List (Segment Nat)
  | [] => []
  | .wording text :: rest => .wording text :: counted next rest
  | .field () :: rest => .field next :: counted (next + 1) rest

/-- The segments with the fields numbered as they are written. -/
def valued : List (Segment Numeral) → List (Segment Nat)
  | [] => []
  | .wording text :: rest => .wording text :: valued rest
  | .field numeral :: rest => .field numeral.value :: valued rest

/-- The numbers of the fields, from left to right. -/
def indices : List (Segment Nat) → List Nat
  | [] => []
  | .wording _ :: rest => indices rest
  | .field i :: rest => i :: indices rest

/-- The text with the snippets in place of the fields. -/
def filled (snippets : List String) : List (Segment Nat) → String
  | [] => ""
  | .wording text :: rest => text ++ filled snippets rest
  | .field i :: rest => snippets.getD i "" ++ filled snippets rest

end Segment

/-- A plain template: the fields all stand in order, or are all numbered. -/
inductive Blueprint where
  /-- the fields stand in order -/
  | automatic (segments : List (Segment Unit))
  /-- the fields are numbered -/
  | numbered (segments : List (Segment Numeral))

namespace Blueprint

/-- The template that is written from a blueprint. -/
def text : Blueprint → String
  | automatic segments => String.ofList (Segment.written (fun _ => []) segments)
  | numbered segments => String.ofList (Segment.written Numeral.digits segments)

/-- The segments, with the number of its snippet for each field. -/
def segments : Blueprint → List (Segment Nat)
  | automatic segments => Segment.counted 0 segments
  | numbered segments => Segment.valued segments

/-- The numbers of the snippets that are asked for, from left to right. -/
def indices (b : Blueprint) : List Nat := Segment.indices b.segments

/-- The wording with the snippets inserted as they are. -/
def filled (b : Blueprint) (snippets : List String) : String := Segment.filled snippets b.segments

end Blueprint

/-! ## Reading a template back -/

/-- Wording is read back character by character. -/
theorem scan_doubled (text rest : List Char) :
    scan (doubled text ++ rest) = text.map .literal ++ scan rest := by
  induction text with
  | nil => rfl
  | cons c text ih =>
    rw [doubled]
    split
    · next h =>
      rcases h with rfl | rfl
      · simp [scan, ih]
      · simp [scan, ih]
    · next h =>
      rw [not_or] at h
      simp [scan, h.1, h.2, ih]

/-- A digit is none of the marks, which are no digits. -/
theorem ne_mark_of_digit {c mark : Char} (h : (digitValue? c).isSome = true)
    (hmark : (digitValue? mark).isSome = false) : c ≠ mark := by
  rintro rfl
  rw [h] at hmark
  cases hmark

/-- The digits of a name are read up to the bracket that closes the field. -/
theorem scanName_digits {digits : List Char} (h : ∀ c ∈ digits, (digitValue? c).isSome = true)
    (name rest : List Char) : scanName name (digits ++ '}' :: rest) =
      .field ⟨name.reverse ++ digits, none, []⟩ :: scan rest := by
  induction digits generalizing name with
  | nil => simp [scanName]
  | cons c digits ih =>
    have hc := h c List.mem_cons_self
    have hclose : c ≠ '}' := ne_mark_of_digit hc (by decide)
    have hlayout : c ≠ ':' := ne_mark_of_digit hc (by decide)
    have hconversion : c ≠ '!' := ne_mark_of_digit hc (by decide)
    have hopen : c ≠ '{' := ne_mark_of_digit hc (by decide)
    have hitem : c ≠ '[' := ne_mark_of_digit hc (by decide)
    rw [List.cons_append, scanName, if_neg hclose, if_neg hlayout, if_neg hconversion,
      if_neg hopen, if_neg hitem, ih fun d hd => h d (List.mem_cons_of_mem c hd)]
    simp

/-- A field whose name is empty or a number is read back. -/
theorem scan_field {digits : List Char} (h : ∀ c ∈ digits, (digitValue? c).isSome = true)
    (rest : List Char) : scan ('{' :: (digits ++ '}' :: rest)) =
      .field ⟨digits, none, []⟩ :: scan rest := by
  have hname : scan ('{' :: (digits ++ '}' :: rest)) = scanName [] (digits ++ '}' :: rest) := by
    cases digits with
    | nil => simp [scan]
    | cons c digits =>
      have hopen : c ≠ '{' := ne_mark_of_digit (h c List.mem_cons_self) (by decide)
      simp [scan, hopen]
  rw [hname, scanName_digits h]
  rfl

/-! ## Numbers of snippets -/

/-- One more digit of a number that is read from the left. -/
def nextDigit (number : Option Nat) (c : Char) : Option Nat := do
  return 10 * (← number) + (← digitValue? c)

theorem Numeral.foldl_digits (numeral : Numeral) :
    numeral.digits.foldl nextDigit (some 0) = some numeral.value := numeral.reads

/-- Where digits are read on from a number, each of them is a digit. -/
theorem foldl_nextDigit_cons {n v : Nat} {c : Char} {digits : List Char}
    (h : (c :: digits).foldl nextDigit (some n) = some v) :
    ∃ d, digitValue? c = some d ∧ digits.foldl nextDigit (some (10 * n + d)) = some v := by
  have hnone : ∀ l : List Char, l.foldl nextDigit none = none := by
    intro l
    induction l with
    | nil => rfl
    | cons c l ih => exact ih
  rw [List.foldl_cons] at h
  cases hc : digitValue? c with
  | none =>
    have hnext : nextDigit (some n) c = none := by simp [nextDigit, hc]
    rw [hnext, hnone] at h
    cases h
  | some d =>
    have hnext : nextDigit (some n) c = some (10 * n + d) := by simp [nextDigit, hc]
    rw [hnext] at h
    exact ⟨d, rfl, h⟩

/-- Reading on makes a number no smaller. -/
theorem le_of_foldl_nextDigit {n v : Nat} {digits : List Char}
    (h : digits.foldl nextDigit (some n) = some v) : n ≤ v := by
  induction digits generalizing n with
  | nil => exact le_of_eq (Option.some.inj h)
  | cons c digits ih =>
    obtain ⟨d, -, h⟩ := foldl_nextDigit_cons h
    have hle := ih h
    omega

/-- A number that fits a machine word is read, since all that is read on the way fits too. -/
theorem readIndex_of_foldl {n v : Nat} {digits : List Char}
    (h : digits.foldl nextDigit (some n) = some v) (hv : v < wordLimit) :
    readIndex n digits = .ok (some v) := by
  induction digits generalizing n with
  | nil =>
    rw [readIndex, Option.some.inj h]
  | cons c digits ih =>
    obtain ⟨d, hd, h⟩ := foldl_nextDigit_cons h
    have hfits : 10 * n + d < wordLimit := lt_of_le_of_lt (le_of_foldl_nextDigit h) hv
    rw [readIndex, hd]
    simp only [if_pos hfits]
    exact ih h

/-- What writes a number consists of digits. -/
theorem isSome_digitValue?_of_foldl {n v : Nat} {digits : List Char}
    (h : digits.foldl nextDigit (some n) = some v) :
    ∀ c ∈ digits, (digitValue? c).isSome = true := by
  induction digits generalizing n with
  | nil => simp
  | cons c digits ih =>
    obtain ⟨d, hd, h⟩ := foldl_nextDigit_cons h
    exact List.forall_mem_cons.mpr ⟨by rw [hd]; rfl, ih h⟩

theorem Numeral.isPlain (numeral : Numeral) : Field.IsPlain ⟨numeral.digits, none, []⟩ :=
  ⟨isSome_digitValue?_of_foldl numeral.foldl_digits, rfl, rfl⟩

/-- A numbered field leads to the snippet of its number, unless fields stood in order before. -/
theorem Numeral.number {numbering : Numbering} (numeral : Numeral)
    (hn : numbering = .undecided ∨ numbering = .manual) :
    number numbering numeral.digits = .ok (numeral.value, .manual) := by
  have hread : readIndex 0 numeral.digits = .ok (some numeral.value) :=
    readIndex_of_foldl numeral.foldl_digits numeral.value_lt
  obtain ⟨digits, value, hne, hreads, hlt⟩ := numeral
  cases digits with
  | nil => exact absurd rfl hne
  | cons c digits =>
    simp only [Template.number, hread]
    rcases hn with rfl | rfl
    · rfl
    · rfl

/-! ## Pieces and segments -/

/-- The pieces stand for the segments, where fields are numbered as `numbering` has it. -/
inductive Resolves : Numbering → List Piece → List (Segment Nat) → Prop where
  /-- nothing is left -/
  | nil (numbering : Numbering) : Resolves numbering [] []
  /-- wording stands for itself -/
  | wording {numbering : Numbering} {pieces : List Piece} {segments : List (Segment Nat)}
    (text : String) (h : Resolves numbering pieces segments) :
    Resolves numbering (text.toList.map .literal ++ pieces) (.wording text :: segments)
  /-- a plain field stands for the snippet of its number -/
  | field {numbering next : Numbering} {pieces : List Piece} {segments : List (Segment Nat)}
    {field : Field} {i : Nat} (hf : field.IsPlain)
    (hi : number numbering field.name = .ok (i, next)) (h : Resolves next pieces segments) :
    Resolves numbering (.field field :: pieces) (.field i :: segments)

/-- Fields that stand in order are numbered from left to right. -/
theorem resolves_counted (segments : List (Segment Unit)) {numbering : Numbering} {next : Nat}
    (hn : number numbering [] = .ok (next, .automatic (next + 1))) :
    Resolves numbering (scan (Segment.written (fun _ => []) segments))
      (Segment.counted next segments) := by
  induction segments generalizing numbering next with
  | nil => exact .nil numbering
  | cons segment rest ih =>
    cases segment with
    | wording text =>
      rw [Segment.written, scan_doubled]
      exact .wording text (ih hn)
    | field f =>
      have hnone : ∀ c ∈ ([] : List Char), (digitValue? c).isSome = true := by simp
      have hread := scan_field hnone (Segment.written (fun _ => []) rest)
      rw [Segment.written, hread]
      exact .field ⟨by simp, rfl, rfl⟩ hn (ih rfl)

/-- Numbered fields have the numbers that are written. -/
theorem resolves_valued (segments : List (Segment Numeral)) {numbering : Numbering}
    (hn : numbering = .undecided ∨ numbering = .manual) :
    Resolves numbering (scan (Segment.written Numeral.digits segments))
      (Segment.valued segments) := by
  induction segments generalizing numbering with
  | nil => exact .nil numbering
  | cons segment rest ih =>
    cases segment with
    | wording text =>
      rw [Segment.written, scan_doubled]
      exact .wording text (ih hn)
    | field numeral =>
      rw [Segment.written, scan_field numeral.isPlain.digits]
      exact .field numeral.isPlain (numeral.number hn) (ih (.inr rfl))

/-- **The text of a blueprint is read back** as its segments. -/
theorem Blueprint.resolves (b : Blueprint) :
    Resolves .undecided (scan b.text.toList) b.segments := by
  cases b with
  | automatic segments =>
    rw [text, String.toList_ofList]
    exact resolves_counted segments rfl
  | numbered segments =>
    rw [text, String.toList_ofList]
    exact resolves_valued segments (.inl rfl)

/-! ## Filling -/

section Filling

variable {host : Host} {expandLayout : Numbering → List Char → Filled} {snippets : List String}
  {numbering : Numbering} {pieces : List Piece} {segments : List (Segment Nat)}

/-- Wording is put in front of what follows. -/
theorem fillPieces_literals (text : List Char) :
    fillPieces host expandLayout snippets numbering (text.map .literal ++ pieces) =
      (fillPieces host expandLayout snippets numbering pieces).map fun filled =>
        (text ++ filled.1, filled.2) := by
  induction text with
  | nil =>
    cases h : fillPieces host expandLayout snippets numbering pieces <;> simp [h, Except.map]
  | cons c text ih =>
    rw [List.map_cons, List.cons_append, fillPieces, ih]
    cases fillPieces host expandLayout snippets numbering pieces <;> rfl

/-- A plain field is replaced by its snippet, if there is one. -/
theorem replace_of_number {field : Field} {i : Nat} {next : Numbering} (hf : field.IsPlain)
    (hi : number numbering field.name = .ok (i, next)) :
    replace host expandLayout snippets numbering field =
      match snippets[i]? with
      | none => .error (.noSuchSnippet i)
      | some snippet => .ok (snippet.toList, next) := by
  rw [replace_of_isPlain host hf, hi]
  rfl

/-- Where all snippets exist, they are inserted. -/
theorem Resolves.fillPieces_eq_filled (h : Resolves numbering pieces segments)
    (hi : ∀ i ∈ Segment.indices segments, i < snippets.length) :
    ∃ next, fillPieces host expandLayout snippets numbering pieces =
      .ok ((Segment.filled snippets segments).toList, next) := by
  induction h with
  | nil numbering => exact ⟨numbering, rfl⟩
  | wording text _ ih =>
    obtain ⟨next, hrest⟩ := ih hi
    refine ⟨next, ?_⟩
    rw [fillPieces_literals, hrest, Segment.filled, String.toList_append]
    rfl
  | @field _ _ _ segments field i hf hnumber _ ih =>
    obtain ⟨hlt, hrest⟩ := List.forall_mem_cons.mp hi
    obtain ⟨next, hfilled⟩ := ih hrest
    refine ⟨next, ?_⟩
    rw [fillPieces, replace_of_number hf hnumber, List.getElem?_eq_getElem hlt, ok_bind]
    simp only [hfilled, ok_bind]
    rw [Segment.filled, String.toList_append, List.getD_eq_getElem?_getD,
      List.getElem?_eq_getElem hlt]
    rfl

/-- The first number that no snippet has is blamed. -/
theorem Resolves.fillPieces_eq_error (h : Resolves numbering pieces segments) {i : Nat}
    (hi : (Segment.indices segments).find? (snippets.length ≤ ·) = some i) :
    fillPieces host expandLayout snippets numbering pieces = .error (.noSuchSnippet i) := by
  induction h with
  | nil numbering => cases hi
  | wording text _ ih =>
    rw [fillPieces_literals, ih hi]
    rfl
  | @field _ _ _ segments field j hf hnumber _ ih =>
    rw [fillPieces, replace_of_number hf hnumber]
    rw [Segment.indices, List.find?_cons] at hi
    by_cases hj : snippets.length ≤ j
    · rw [decide_eq_true hj] at hi
      rw [List.getElem?_eq_none hj, Option.some.inj hi]
      rfl
    · rw [decide_eq_false hj] at hi
      rw [List.getElem?_eq_getElem (Nat.lt_of_not_le hj), ok_bind]
      simp only [ih hi]
      rfl

end Filling

namespace Blueprint

variable {host : Host} {b : Blueprint} {snippets : List String}

/-- A blueprint is filled with its snippets, if there are enough of them. -/
theorem fill_eq_filled (h : ∀ i ∈ b.indices, i < snippets.length) :
    fill host b.text snippets = .ok (b.filled snippets) := by
  obtain ⟨next, hfilled⟩ : ∃ next, fillPieces host (expand host snippets 1) snippets .undecided
      (scan b.text.toList) = .ok ((b.filled snippets).toList, next) :=
    b.resolves.fillPieces_eq_filled h
  rw [fill_eq, hfilled, ok_bind, String.ofList_toList]
  rfl

/-- The first number that no snippet has keeps a blueprint from being filled. -/
theorem fill_eq_error {i : Nat} (h : b.indices.find? (snippets.length ≤ ·) = some i) :
    fill host b.text snippets = .error (.noSuchSnippet i) := by
  rw [fill_eq, b.resolves.fillPieces_eq_error h]
  rfl

end Blueprint

end Text.Template

end CallByValue
