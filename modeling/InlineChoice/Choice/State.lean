import InlineChoice.Choice

/-!
# The state of an annotation

How an annotation is shown depends on the number of its candidates: two make a
check box, which is checked while the value is the first of them, and more make
a carousel, which shows the position of the value.
-/

namespace InlineChoice

/-- The shape of an annotation. -/
inductive Shape where
  /-- One candidate: advancing changes nothing. -/
  | single
  /-- Two candidates: a check box. -/
  | binary
  /-- More than two candidates: a carousel. -/
  | carousel
  deriving DecidableEq, Repr

/-- The state of a check box. -/
inductive BoxState where
  | checked
  | unchecked
  deriving DecidableEq, Repr

/-- The name of a shape in listings. -/
def Shape.name : Shape → Text
  | single => "single".toList
  | binary => "binary".toList
  | carousel => "carousel".toList

/-- The name of a check box state in listings. -/
def BoxState.name : BoxState → Text
  | checked => "checked".toList
  | unchecked => "unchecked".toList

namespace Choice

/-- The shape of an annotation, by the number of its candidates. -/
def shape (a : Choice) : Shape :=
  match a.candidates with
  | [] | [_] => .single
  | [_, _] => .binary
  | _ => .carousel

/-- The state of a check box: checked if the value is the first candidate. -/
def boxState? (a : Choice) : Option BoxState :=
  match a.shape with
  | .binary => some (if a.value? = a.candidates.head? then .checked else .unchecked)
  | _ => none

/-- The position of the value in a carousel. -/
def carouselIndex? (a : Choice) : Option Nat :=
  match a.shape with
  | .carousel => a.position?
  | _ => none

end Choice

end InlineChoice
