import CallByValue.Proofs.Wording

/-!
# The lines that point at a span

A report may come with any two offsets for its span: they may be negative, lie outside the text or
cross. Two lines are shown for it wherever there is room for them. The first is the offending text,
which is disturbed only when the span starts behind the column where it stops; the second holds a
caret and tildes, and is made if their numbers can be counted and there is room for so many.

* `pointer` — a line of blanks, a caret and tildes, and the columns that it marks
  (`isMarked_pointer`);
* `Report.Fits` — there is room for the second line (`Report.underline_eq_ok`), and what is wrong
  otherwise (`Report.underline_eq_error`);
* `Report.textLine_eq_iff`, `Report.length_textLine_of_crossed` — when the offending text is shown
  as it is, and that it is longer otherwise;
* `Fault.diagnose_layout` — the two lines for every span.
-/

namespace CallByValue

/-! ## The second line -/

/-- A line with a caret behind so many blanks, and so many tildes behind the caret. Like the
offending text it is indented by two. -/
def pointer (blanks tildes : Nat) : String :=
  "  " ++ String.ofList (List.replicate blanks ' ') ++ "^" ++
    String.ofList (List.replicate tildes '~')

/-- There is a character other than the blank in this column of a line. -/
def IsMarked (line : String) (column : Nat) : Prop :=
  ∃ c, line.toList[column]? = some c ∧ c ≠ ' '

theorem toList_pointer (blanks tildes : Nat) :
    (pointer blanks tildes).toList =
      List.replicate (2 + blanks) ' ' ++ '^' :: List.replicate tildes '~' := by
  have hblanks : List.replicate (2 + blanks) ' ' = ' ' :: ' ' :: List.replicate blanks ' ' := by
    rw [Nat.add_comm]
    rfl
  simp [pointer, hblanks]

/-- The caret and the tildes mark the columns behind the blanks. -/
theorem isMarked_pointer (blanks tildes column : Nat) :
    IsMarked (pointer blanks tildes) column ↔
      2 + blanks ≤ column ∧ column ≤ 2 + blanks + tildes := by
  rw [IsMarked, toList_pointer]
  rcases Nat.lt_or_ge column (2 + blanks) with hlt | hge
  · rw [List.getElem?_append_left (by rwa [List.length_replicate]),
      List.getElem?_replicate_of_lt hlt]
    constructor
    · rintro ⟨c, hc, hne⟩
      exact absurd (Option.some.inj hc).symm hne
    · intro h
      omega
  · obtain ⟨i, rfl⟩ := Nat.exists_eq_add_of_le hge
    rw [List.getElem?_append_right (by rw [List.length_replicate]; omega), List.length_replicate,
      Nat.add_sub_cancel_left]
    cases i with
    | zero =>
      refine ⟨fun _ => ⟨by omega, by omega⟩, fun _ => ⟨'^', rfl, by decide⟩⟩
    | succ i =>
      rw [List.getElem?_cons_succ, List.getElem?_replicate]
      by_cases hi : i < tildes
      · rw [if_pos hi]
        exact ⟨fun _ => ⟨by omega, by omega⟩, fun _ => ⟨'~', rfl, by decide⟩⟩
      · rw [if_neg hi]
        constructor
        · rintro ⟨c, hc, -⟩
          cases hc
        · intro h
          omega

/-! ### Room for it -/

/-- So many characters are counted in a machine word, whatever the sign of the number. -/
def IsCount (count : Int) : Prop := -Text.wordLimit ≤ count ∧ count < Text.wordLimit

/-- A character can be repeated so many times: the number is a count, and there is room. -/
def CanRepeat (host : Text.Host) (count : Int) : Prop := IsCount count ∧ count ≤ host.room

variable {host : Text.Host} {count : Int}

theorem repeated_eq_ok (h : CanRepeat host count) (c : Char) :
    repeated host count c = .ok (String.ofList (List.replicate count.toNat c)) := by
  obtain ⟨⟨hlow, hhigh⟩, hroom⟩ := h
  rw [repeated, if_neg (by omega), if_neg (by omega)]

theorem repeated_of_not_isCount (h : ¬ IsCount count) (c : Char) :
    repeated host count c = .error .countTooLarge := by
  rw [IsCount] at h
  rw [repeated, if_pos (by omega)]

theorem repeated_of_no_room (h : IsCount count) (hroom : ¬ CanRepeat host count) (c : Char) :
    repeated host count c = .error .noRoom := by
  have hmore : host.room < count := Int.not_le.mp fun hle => hroom ⟨h, hle⟩
  obtain ⟨hlow, hhigh⟩ := h
  rw [repeated, if_neg (by omega), if_pos (by omega)]

namespace Report

/-- There is room for the underline: its blanks and its tildes can be repeated as often as the span
says. -/
structure Fits (host : Text.Host) (r : Report) : Prop where
  /-- there is room for the blanks -/
  blanks : CanRepeat host r.start
  /-- there is room for the tildes -/
  tildes : CanRepeat host (max r.stop 1 - r.start - 1)

/-- There is room for the underline of a span that lies in the text, if there is for the text. -/
theorem Fits.of_inside {r : Report} (hstart : 0 ≤ r.start) (hspan : r.start < r.stop)
    (hstop : r.stop ≤ r.snippet.length) (hroom : r.snippet.length ≤ host.room) : r.Fits host := by
  have hlt := host.room_lt
  refine ⟨⟨⟨?_, ?_⟩, ?_⟩, ⟨⟨?_, ?_⟩, ?_⟩⟩ <;> omega

/-- The underline is a pointer. A start in front of the text counts as the first column, but the
tildes are counted from the start itself. -/
theorem underline_eq_ok (hoff : ∀ ink text, host.colored ink text = text) (ink : Text.Ink)
    {r : Report} (h : r.Fits host) :
    r.underline host ink =
      .ok (pointer (max r.start 0).toNat (max 0 (max r.stop 1 - r.start - 1)).toNat) := by
  have hblanks : (max r.start 0).toNat = r.start.toNat := by omega
  have htildes : (max 0 (max r.stop 1 - r.start - 1)).toNat =
      (r.spanStop - r.start - 1).toNat := by
    rw [spanStop]
    omega
  rw [underline, repeated_eq_ok h.blanks, spanStop, repeated_eq_ok h.tildes, pointer, hblanks,
    htildes, spanStop]
  change Except.ok _ = _
  rw [hoff]
  exact congrArg Except.ok (String.append_assoc ..).symm

/-- Without room there is no underline. A start that is no count is what is wrong first. -/
theorem underline_eq_error (host : Text.Host) (ink : Text.Ink) {r : Report} (h : ¬ r.Fits host) :
    ∃ error, r.underline host ink = .error error ∧
      (error = .countTooLarge ∨ error = .noRoom) ∧
      (¬ IsCount r.start → error = .countTooLarge) := by
  -- the blanks are made first, so what is wrong with them hides what is wrong with the tildes
  by_cases hblanks : CanRepeat host r.start
  · have htildes : ¬ CanRepeat host (r.spanStop - r.start - 1) := fun ht => h ⟨hblanks, ht⟩
    rw [underline, repeated_eq_ok hblanks]
    by_cases hcount : IsCount (r.spanStop - r.start - 1)
    · rw [repeated_of_no_room hcount htildes]
      exact ⟨_, rfl, .inr rfl, fun hn => absurd hblanks.1 hn⟩
    · rw [repeated_of_not_isCount hcount]
      exact ⟨_, rfl, .inl rfl, fun _ => rfl⟩
  · rw [underline]
    by_cases hcount : IsCount r.start
    · rw [repeated_of_no_room hcount hblanks]
      exact ⟨_, rfl, .inr rfl, fun hn => absurd hcount hn⟩
    · rw [repeated_of_not_isCount hcount]
      exact ⟨_, rfl, .inl rfl, fun _ => rfl⟩

/-! ## The first line -/

/-- The column of the text where the span starts: a negative start counts back from the end. -/
def entry (r : Report) : Int :=
  if 0 ≤ r.start then min r.start r.snippet.length else max (r.snippet.length + r.start) 0

/-- The span is crossed when it starts behind the column where it stops. -/
theorem place_le_place_iff (r : Report) :
    Text.place r.snippet.length r.start ≤ Text.place r.snippet.length r.spanStop ↔
      r.entry ≤ max r.stop 1 := by
  have hstart : (Text.place r.snippet.length r.start : Int) = r.entry := Text.natCast_place _ _
  have hstop := Text.natCast_place r.snippet.length r.spanStop
  have hle := Text.place_le r.snippet.length r.start
  rw [spanStop] at hstop ⊢
  rw [if_pos (by omega)] at hstop
  omega

section Text

variable (hoff : ∀ ink text, host.colored ink text = text)
include hoff

/-- The offending text is taken apart where the span starts and where it stops. -/
theorem length_textLine (ink : Text.Ink) (r : Report) :
    (r.textLine host ink).length = 2 + Text.place r.snippet.length r.start +
      (Text.between r.snippet r.start r.spanStop).length +
        (r.snippet.length - Text.place r.snippet.length r.spanStop) := by
  rw [textLine, hoff, String.length_append, String.length_append, String.length_append,
    Text.length_upTo, Text.length_onward]
  rfl

/-- What lies between the two ends of a crossed span is shown twice. -/
theorem length_textLine_of_crossed (ink : Text.Ink) {r : Report} (h : max r.stop 1 < r.entry) :
    ("  " ++ r.snippet).length < (r.textLine host ink).length := by
  have hcrossed : ¬ Text.place r.snippet.length r.start ≤ Text.place r.snippet.length r.spanStop :=
    fun hle => absurd ((place_le_place_iff r).mp hle) (by omega)
  have hstart := Text.place_le r.snippet.length r.start
  have hindent : "  ".length = 2 := rfl
  rw [length_textLine hoff, String.length_append]
  omega

/-- The offending text is shown as it is just when its span is not crossed. -/
theorem textLine_eq_iff (ink : Text.Ink) (r : Report) :
    r.textLine host ink = "  " ++ r.snippet ↔ r.entry ≤ max r.stop 1 := by
  constructor
  · intro heq
    refine Int.not_lt.mp fun hcrossed => ?_
    have hlonger := length_textLine_of_crossed hoff ink hcrossed
    rw [heq] at hlonger
    exact absurd hlonger (Nat.lt_irrefl _)
  · intro hle
    exact textLine_of_plain hoff ink ((place_le_place_iff r).mpr hle)

end Text

/-- Both lines, where there is room for the second one. -/
theorem diagnose_eq_ok (hoff : ∀ ink text, host.colored ink text = text) (ink : Text.Ink)
    {r : Report} (h : r.Fits host) :
    r.diagnose host ink = .ok (r.textLine host ink ++ "\n" ++
      pointer (max r.start 0).toNat (max 0 (max r.stop 1 - r.start - 1)).toNat) := by
  rw [diagnose, underline_eq_ok hoff ink h]
  rfl

/-- Without room for the second line there are no lines at all. -/
theorem diagnose_eq_error (host : Text.Host) (ink : Text.Ink) {r : Report} (h : ¬ r.Fits host) :
    ∃ error, r.diagnose host ink = .error error ∧ (error = .countTooLarge ∨ error = .noRoom) ∧
      (¬ IsCount r.start → error = .countTooLarge) := by
  obtain ⟨error, hbelow, hkind⟩ := underline_eq_error host ink h
  exact ⟨error, by rw [diagnose, hbelow]; rfl, hkind⟩

end Report

/-! ## Both lines -/

/-- **The two lines for every span**, without colour. Where there is room for it, the second line
points to the start of the span, or to the first column if the start is negative, and its tildes go
on to the stop. The first line is the offending text just when the span is not crossed, and longer
otherwise. So a span that lies in the text is underlined, if there is room for the text: the text is
shown as it is, and the columns that are marked below it are those where the span is shown. Where
there is no room for the second line, nothing is shown, and that is an error of the host. -/
theorem Fault.diagnose_layout {fault : Fault} {r : Report} (hr : fault.report? = some r)
    {host : Text.Host} (hoff : ∀ ink text, host.colored ink text = text) (warning : Bool) :
    (∀ (n : Notice) (builder : Text.Host) (depth : Nat), n.report builder depth = .ok r →
      r.start = n.start ∧ r.stop = if n.stop = -1 then (r.snippet.length : Int) else n.stop) ∧
    (r.Fits host → ∃ shown below, fault.diagnose host warning = .ok (shown ++ "\n" ++ below) ∧
      below = pointer (max r.start 0).toNat (max 0 (max r.stop 1 - r.start - 1)).toNat ∧
      (shown = "  " ++ r.snippet ↔ r.entry ≤ max r.stop 1) ∧
      (max r.stop 1 < r.entry → ("  " ++ r.snippet).length < shown.length) ∧
      (0 ≤ r.start → r.start < r.stop → r.stop ≤ r.snippet.length →
        shown = "  " ++ r.snippet ∧
        Text.between shown (2 + r.start) (2 + r.stop) = Text.between r.snippet r.start r.stop ∧
        ∀ column : Nat, IsMarked below column ↔
          2 + r.start ≤ column ∧ column < 2 + r.stop)) ∧
    (0 ≤ r.start → r.start < r.stop → r.stop ≤ r.snippet.length →
      r.snippet.length ≤ host.room → r.Fits host) ∧
    (¬ r.Fits host → ∃ error, fault.diagnose host warning = .error error ∧
      (error = .countTooLarge ∨ error = .noRoom) ∧
      (¬ IsCount r.start → error = .countTooLarge)) := by
  obtain ⟨ink, hlines⟩ : ∃ ink, fault.diagnose host warning = r.diagnose host ink :=
    ⟨_, by rw [Fault.diagnose, hr]⟩
  rw [hlines]
  refine ⟨fun n builder depth => Notice.span_of_report, fun hfits => ?_, Report.Fits.of_inside,
    Report.diagnose_eq_error host ink⟩
  refine ⟨r.textLine host ink, _, Report.diagnose_eq_ok hoff ink hfits, rfl,
    Report.textLine_eq_iff hoff ink r, Report.length_textLine_of_crossed hoff ink,
    fun hstart hspan hstop => ?_⟩
  have hshown : r.textLine host ink = "  " ++ r.snippet := by
    refine (Report.textLine_eq_iff hoff ink r).mpr ?_
    rw [Report.entry]
    omega
  refine ⟨hshown, ?_, fun column => ?_⟩
  · rw [hshown]
    exact Text.between_append_left "  " r.snippet hstart (by omega)
  · rw [isMarked_pointer]
    omega

/-- A span that starts at the last character and stops behind the first is crossed. -/
example : Report.diagnose (Text.terminal false) .red
    (Notice.reportOf { template := "", start := -1, stop := 1 } "abc" []) = .ok "  abbc\n  ^~" := by
  rfl

/-- A notice about the dot of a text. -/
def strayDot : Notice where
  template := "'{}' has stray builtin '{}'"
  snippets := .list [.text "λx.", .text "."]
  start := 2

/-- The report of that notice, in which the span goes to the end of the text. -/
def strayDotReport : Report := strayDot.reportOf "λx." ["."]

/-- The text is shown as it is, and the dot is marked: its column is the last one of the text, which
is indented by two. -/
theorem strayDot_layout :
    (Fault.report strayDotReport).report? = some strayDotReport ∧
      (∀ ink text, (Text.terminal false).colored ink text = text) ∧
      strayDot.report (Text.terminal false) 1 = .ok strayDotReport ∧
      strayDotReport.start = strayDot.start ∧
      (Fault.report strayDotReport).diagnose (Text.terminal false) false =
        .ok ("  λx." ++ "\n" ++ pointer 2 0) ∧
      ∀ column : Nat, IsMarked (pointer 2 0) column ↔ column = 4 := by
  have hr : (Fault.report strayDotReport).report? = some strayDotReport := rfl
  have hoff : ∀ ink text, (Text.terminal false).colored ink text = text := fun _ _ => rfl
  have hbuilt : strayDot.report (Text.terminal false) 1 = .ok strayDotReport := rfl
  obtain ⟨hspan, hlines, hfits, -⟩ := Fault.diagnose_layout hr hoff false
  obtain ⟨shown, below, hshown, hbelow, -, -, hinside⟩ :=
    hlines (hfits (by decide) (by decide) (by decide) (by decide))
  obtain ⟨rfl, -, hmarks⟩ := hinside (by decide) (by decide) (by decide)
  obtain rfl : below = pointer 2 0 := hbelow
  refine ⟨hr, hoff, hbuilt, (hspan strayDot _ _ hbuilt).1, hshown, fun column => ?_⟩
  rw [hmarks]
  change ((2 : Int) + 2 ≤ column ∧ (column : Int) < 2 + 3) ↔ column = 4
  omega

/-- A notice whose span starts where no machine word can count to. -/
def farOff : Notice where
  template := "m"
  snippets := .text "abc"
  start := Text.wordLimit

/-- The report of that notice can be built, but its span cannot be pointed at. -/
theorem farOff_not_shown :
    farOff.report (Text.terminal false) 1 = .ok (farOff.reportOf "abc" []) ∧
      (farOff.reportOf "abc" []).start = Text.wordLimit ∧
      ∀ shown, (Fault.report (farOff.reportOf "abc" [])).diagnose (Text.terminal false) false ≠
        .ok shown := by
  have hbuilt : farOff.report (Text.terminal false) 1 = .ok (farOff.reportOf "abc" []) := rfl
  have hcount : ¬ IsCount (farOff.reportOf "abc" []).start := fun h =>
    absurd h.2 (Int.lt_irrefl _)
  obtain ⟨error, herror, -⟩ := Report.diagnose_eq_error (Text.terminal false) .red
    fun hfits : (farOff.reportOf "abc" []).Fits (Text.terminal false) => hcount hfits.blanks.1
  refine ⟨hbuilt, rfl, fun shown hshown => ?_⟩
  rw [Fault.diagnose] at hshown
  cases herror.symm.trans hshown

end CallByValue
