/-!
# Cutting texts at signed offsets

Offsets count characters. A **negative** offset counts back from the end of the text, and an offset
outside the text is moved to its nearer end, so every cut succeeds.

* `place` — the place in the text that an offset names;
* `upTo`, `between`, `onward` — the three parts that two offsets cut out.
-/

namespace CallByValue.Text

/-- The place that a signed offset names in a text of `length` characters. -/
def place (length : Nat) (offset : Int) : Nat :=
  if offset < 0 then (length + offset).toNat else min offset.toNat length

/-- The place named by an offset lies in the text or at its end. -/
theorem place_le (length : Nat) (offset : Int) : place length offset ≤ length := by
  unfold place
  split <;> omega

/-- An offset that does not exceed the text names its own place. -/
theorem place_natCast {length n : Nat} (h : n ≤ length) : place length n = n := by
  unfold place
  split <;> omega

/-- The place by cases: an offset from the left stops at the end of the text, and one from the end
stops at its start. -/
theorem natCast_place (length : Nat) (offset : Int) :
    (place length offset : Int) =
      if 0 ≤ offset then min offset length else max (length + offset) 0 := by
  unfold place
  split <;> split <;> omega

/-- More text in front moves the places of offsets from the left. -/
theorem place_add (front length : Nat) {offset : Int} (h : 0 ≤ offset) :
    place (front + length) (front + offset) = front + place length offset := by
  have hfront : ¬ (front + offset : Int) < 0 := by omega
  have hoffset : ¬ offset < 0 := by omega
  rw [place, place, if_neg hfront, if_neg hoffset]
  omega

/-- The characters before an offset. -/
def upTo (text : String) (stop : Int) : String :=
  String.ofList (text.toList.take (place text.length stop))

/-- The characters from an offset on. -/
def onward (text : String) (start : Int) : String :=
  String.ofList (text.toList.drop (place text.length start))

/-- The characters from `start` up to `stop`, none when the two offsets cross. -/
def between (text : String) (start stop : Int) : String :=
  String.ofList ((text.toList.take (place text.length stop)).drop (place text.length start))

theorem length_upTo (text : String) (stop : Int) :
    (upTo text stop).length = place text.length stop := by
  have hle := place_le text.length stop
  rw [upTo, String.length_ofList, List.length_take, String.length_toList]
  omega

theorem length_onward (text : String) (start : Int) :
    (onward text start).length = text.length - place text.length start := by
  rw [onward, String.length_ofList, List.length_drop, String.length_toList]

/-- What two offsets from the left cut out moves along with the text. -/
theorem between_append_left (front text : String) {start stop : Int} (hstart : 0 ≤ start)
    (hstop : 0 ≤ stop) :
    between (front ++ text) (front.length + start) (front.length + stop) =
      between text start stop := by
  rw [between, between, String.length_append, place_add _ _ hstart, place_add _ _ hstop,
    String.toList_append, ← String.length_toList, List.take_length_add_append,
    List.drop_length_add_append]

/-- A text that stands in another one is what is cut out at its place. -/
theorem between_append (before text after : String) :
    between (before ++ text ++ after) before.length (before.length + text.length) = text := by
  have hstart : place (before ++ text ++ after).length before.length = before.toList.length := by
    rw [place_natCast, String.length_toList]
    simp only [String.length_append]
    omega
  have hstop : place (before ++ text ++ after).length (before.length + text.length) =
      (before ++ text).toList.length := by
    rw [← Int.natCast_add, place_natCast, String.length_toList, String.length_append]
    simp only [String.length_append]
    omega
  have hcut : (before ++ text ++ after).toList = (before ++ text).toList ++ after.toList :=
    String.toList_append
  rw [between, hstart, hstop, hcut, List.take_left, String.toList_append, List.drop_left,
    String.ofList_toList]

/-- The three parts make up the text when the offsets do not cross. -/
theorem upTo_between_onward {text : String} {start stop : Int}
    (h : place text.length start ≤ place text.length stop) :
    upTo text start ++ between text start stop ++ onward text stop = text := by
  have hprefix : text.toList.take (place text.length start) =
      (text.toList.take (place text.length stop)).take (place text.length start) := by
    rw [List.take_take, Nat.min_eq_left h]
  rw [upTo, between, onward, hprefix, ← String.ofList_append, List.take_append_drop,
    ← String.ofList_append, List.take_append_drop, String.ofList_toList]

end CallByValue.Text
