import CallByValue.Text.Ink
import CallByValue.Text.Subject

/-!
# The host of messages

Messages are made and shown with the means of a **host**: a terminal that may set texts off in bold
and in colour, a memory in which only so long a text has room, and objects behind the snippets that
a field can lead to. Nothing else is known of a host, so that what is said about messages holds
whatever these are.
-/

namespace CallByValue.Text

/-- What messages are made and shown with. -/
structure Host where
  /-- the text in bold, in a colour, or as it is if the terminal does not show it so -/
  colored : Ink → String → String
  /-- the most characters for which there is room in a text -/
  room : Nat
  /-- the characters of a text are counted in a machine word -/
  room_lt : room < wordLimit
  /-- what a way of at least one step leads to from a snippet -/
  reach : (snippet : String) → (first : Access) → (rest : List Access) →
    Except Subject.Error Subject

namespace Host

/-- The host with a terminal that shows texts as they are. -/
def uncolored (host : Host) : Host := { host with colored := fun _ text => text }

/-- What a way leads to from a snippet: to the snippet itself, if there are no steps. -/
def subject (host : Host) (snippet : String) : List Access → Except Subject.Error Subject
  | [] => .ok (.ofText host.room snippet)
  | first :: rest => host.reach snippet first rest

end Host

end CallByValue.Text
