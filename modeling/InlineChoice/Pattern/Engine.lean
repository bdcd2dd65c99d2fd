import InlineChoice.Pattern.Flag

/-!
# The pattern engine

A pattern is compiled before it is matched, and the engine that compiles it refuses a
program that grows too large. How large a program gets is a matter of the engine, so the
engine is a parameter, and it answers for the texts of patterns one by one. What a theorem
needs of it stands among the hypotheses of the theorem.
-/

namespace InlineChoice

/-- What compiles patterns. -/
class PatternEngine where
  /-- Whether the pattern with this text, read with these flags, has a program that is
  small enough. -/
  admits (flags : Pattern.Flags) (t : Text) : Bool

namespace PatternEngine

/-- The engine without a limit. On patterns of an ordinary size it does what an engine
with a limit does. -/
scoped instance unlimited : PatternEngine := ⟨fun _ _ => true⟩

end PatternEngine

namespace Pattern

/-- The characters that do not stand for themselves everywhere in a pattern. -/
def metaCharacters : List Char :=
  ['\\', '.', '+', '*', '?', '(', ')', '|', '[', ']', '{', '}', '^', '$', '#', '&', '-', '~']

/-- The text of the pattern that matches a given text. -/
def escape (t : Text) : Text :=
  t.flatMap fun c => if metaCharacters.contains c then ['\\', c] else [c]

end Pattern

end InlineChoice
