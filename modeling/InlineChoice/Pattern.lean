import InlineChoice.Text

/-!
# Search patterns

A pattern is built from atoms, each of which matches one character or a place
between characters. Whether a text contains a match is decided on sets of places
(`Pattern.run`): a pattern takes the places where a match may start to the places
where it may end. A set of places is a number, one bit a place, so a step is taken
for all places at once, and no input makes the search backtrack.

Repetition needs no more rounds than there are places: a longer way through the text
stands still somewhere, and such a round can be left out or taken twice.
-/

namespace InlineChoice

/-- A pattern over some kind of atoms. -/
inductive Pattern (α : Type) where
  /-- Matches the empty text. -/
  | empty
  | atom (a : α)
  | sequence (first second : Pattern α)
  | choice (first second : Pattern α)
  /-- From `least` to `most` copies, or without an upper bound. -/
  | repetition (body : Pattern α) (least : Nat) (most : Option Nat)

namespace Pattern

/-- The pattern with every atom replaced. -/
def map {α β : Type} (f : α → β) : Pattern α → Pattern β
  | empty => empty
  | atom a => atom (f a)
  | sequence p q => sequence (map f p) (map f q)
  | choice p q => choice (map f p) (map f q)
  | repetition p least most => repetition (map f p) least most

/-! ## Atoms -/

/-- What a pattern asks of a text in one place. -/
inductive Atom where
  /-- One character with the property. -/
  | character (members : Char → Bool)
  /-- No character, between two characters in this relation; at an end of the text there
  is none. -/
  | boundary (holds : Option Char → Option Char → Bool)

/-- A set of places in a text: bit `i` is the place behind `i` characters. -/
abbrev Places := Nat

/-- An atom in a text. -/
structure Move where
  /-- The places where the atom matches. -/
  starts : Places
  /-- How many characters it matches. -/
  width : Nat

/-- The places at which a list is true. -/
def Places.ofList (bits : List Bool) : Places :=
  bits.foldr (fun bit places => 2 * places + bit.toNat) 0

/-- All places in a text. -/
def Places.all (t : Text) : Places :=
  Places.ofList (List.replicate (t.length + 1) true)

/-- The moves of an atom in a text. -/
def Atom.locate (t : Text) : Atom → Move
  | character members => { starts := Places.ofList (t.map members), width := 1 }
  | boundary holds =>
    let befores := none :: t.map some
    let afters := t.map some ++ [none]
    { starts := Places.ofList (List.zipWith holds befores afters), width := 0 }

/-! ## Matching -/

/-- Applies a function up to `n` times, and stops at a fixed point. -/
def iterate (f : Places → Places) : Nat → Places → Places
  | 0, places => places
  | n + 1, places =>
    let next := f places
    if next = places then places else iterate f n next

/-- The places where matches end that start at the given places. The text has fewer
than `limit` characters. -/
def run (limit : Nat) : Pattern Move → Places → Places
  | empty, places => places
  | atom move, places => (places &&& move.starts) <<< move.width
  | sequence p q, places => run limit q (run limit p places)
  | choice p q, places => run limit p places ||| run limit q places
  | repetition p least most, places =>
    let required := iterate (fun places => run limit p places) (min least limit) places
    let optional := match most with
      | some most => min (most - least) limit
      | none => limit
    iterate (fun places => places ||| run limit p places) optional required

/-- Whether a text contains a match. -/
def occursIn (p : Pattern Atom) (t : Text) : Bool :=
  run (t.length + 1) (p.map (Atom.locate t)) (Places.all t) ≠ 0

end Pattern

end InlineChoice
