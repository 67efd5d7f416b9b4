import CallByValue.Text.Layout

/-!
# What a field can name

A field of a message names a snippet, and may go on from it: to a **part** of the snippet, to one of
its **items**, and further on from there. What it leads to is its subject, which is a text or any
other object of the host. Of a subject it matters how it is shown, and how it is laid out.

* `Access` — one step on the way from a snippet;
* `Subject` — what a field leads to, and `Subject.ofText` — a text as a subject;
* `Conversion.apply` — a subject made a text before it is laid out.
-/

namespace CallByValue.Text

/-- A step on the way from a snippet to a subject. -/
inductive Access where
  /-- to the part that has a name -/
  | part (name : String)
  /-- to the item that has a number -/
  | item (index : Nat)
  /-- to the item that has a name -/
  | itemNamed (key : String)
deriving Repr, DecidableEq

/-- What can be wrong with the way to a subject, or with inserting it. -/
inductive Subject.Error where
  /-- the host raises an error of a class that has this name -/
  | raised (className message : String)
  /-- the layout of a text is wrong -/
  | layout (error : Layout.Error)
deriving Repr, DecidableEq

/-- What an error with a subject says. -/
def Subject.Error.message : Subject.Error → String
  | .raised _ message => message
  | .layout error => error.message

/-- What a field can lead to. -/
structure Subject where
  /-- its text -/
  shown : String
  /-- its text, where a text is quoted -/
  quoted : String
  /-- its text, where a text is quoted in ASCII -/
  quotedAscii : String
  /-- the subject as it is inserted, with the layout that is written -/
  layOut : List Char → Except Subject.Error (List Char)

namespace Subject

/-- A text as a subject, where there is room for so many characters. -/
def ofText (room : Nat) (s : String) : Subject where
  shown := s
  quoted := quote s
  quotedAscii := quoteAscii s
  layOut written := match Layout.parse room written with
    | .ok layout => .ok (layout.apply s.toList)
    | .error error => .error (.layout error)

/-- A text without a layout is inserted as it is. -/
@[simp] theorem layOut_ofText_nil (room : Nat) (s : String) :
    (ofText room s).layOut [] = .ok s.toList := by
  simp [ofText, Layout.parse_nil]

end Subject

/-! ## Conversions -/

/-- How a subject is made a text before it is laid out. -/
inductive Conversion where
  /-- by its text -/
  | shown
  /-- by its text, and a text is quoted -/
  | quoted
  /-- by its text, and a text is quoted in ASCII -/
  | quotedAscii
deriving Repr, DecidableEq

/-- The text that a conversion makes of a subject. -/
def Conversion.apply (conversion : Conversion) (subject : Subject) : String :=
  match conversion with
  | .shown => subject.shown
  | .quoted => subject.quoted
  | .quotedAscii => subject.quotedAscii

end CallByValue.Text
