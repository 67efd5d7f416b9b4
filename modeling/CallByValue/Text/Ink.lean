/-!
# Bold text on a terminal

Emphasis is written with terminal codes: one code switches to **bold**, a second one may choose a
colour, and a last one ends both. With colour off a text is left as it is.
-/

namespace CallByValue.Text

/-- The colour of emphasised text. -/
inductive Ink where
  /-- the colour of the surrounding text -/
  | plain
  /-- the colour of warnings -/
  | magenta
  /-- the colour of errors -/
  | red
deriving Repr, DecidableEq

/-- The terminal code that chooses the colour. -/
def Ink.code : Ink → String
  | .plain => ""
  | .magenta => "\x1b[35m"
  | .red => "\x1b[31m"

/-- The text in bold, in the given colour; unchanged when `color` is off. An empty text is wrapped
too. -/
def bold (color : Bool) (ink : Ink) (text : String) : String :=
  if color then "\x1b[1m" ++ ink.code ++ text ++ "\x1b[0m" else text

end CallByValue.Text
