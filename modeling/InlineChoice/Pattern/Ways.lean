import InlineChoice.Pattern

/-!
# Matches in order of preference

At one place a pattern may match in several ways. `Pattern.ways` lists them in the order in
which a search that backtracks would try them: of a choice the left side comes first, and of
a repetition one more copy comes before none. What a search for the pattern finds is the
first way at the leftmost place where there is one (`Pattern.leftmost?`).

`Pattern.run` needs no order, because it only asks whether there is a match.
-/

namespace InlineChoice

namespace Pattern

/-- A way to match at the head of a text. -/
structure Way where
  taken : Text
  rest : Text
  deriving DecidableEq, Repr

/-- One way and then another. -/
def Way.extend (way next : Way) : Way :=
  ⟨way.taken ++ next.taken, next.rest⟩

/-- The ways to match a number of copies in a row. -/
def copies (body : Text → List Way) : Nat → Text → List Way
  | 0, t => [⟨[], t⟩]
  | n + 1, t => (body t).flatMap fun way => (copies body n way.rest).map way.extend

/-- The ways to match up to `n` copies in a row, with more copies before fewer. A copy that
takes no character does not count. -/
def rounds (body : Text → List Way) : Nat → Text → List Way
  | 0, t => [⟨[], t⟩]
  | n + 1, t =>
    ((body t).filter (·.taken ≠ [])).flatMap (fun way => (rounds body n way.rest).map way.extend)
      ++ [⟨[], t⟩]

/-- The ways in which a pattern matches at the head of a text, the preferred one first. -/
def ways : Pattern (Char → Bool) → Text → List Way
  | empty, t => [⟨[], t⟩]
  | atom members, t =>
    match t with
    | [] => []
    | c :: rest => if members c then [⟨[c], rest⟩] else []
  | sequence p q, t => (ways p t).flatMap fun way => (ways q way.rest).map way.extend
  | choice p q, t => ways p t ++ ways q t
  | repetition p least most, t =>
    -- A further copy takes a character, so there are no more of them than characters.
    let further := most.elim t.length fun most => min (most - least) t.length
    (copies (ways p) least t).flatMap fun way =>
      (rounds (ways p) further way.rest).map way.extend

/-- The first match at the leftmost place of a text where there is one, behind the text in
front of it. -/
def leftmost? {Match : Type} (matchesAt : Text → List Match) : Text → Option (Text × Match)
  | [] => (matchesAt []).head?.map ([], ·)
  | c :: rest =>
    match (matchesAt (c :: rest)).head? with
    | some first => some ([], first)
    | none => (leftmost? matchesAt rest).map fun (front, first) => (c :: front, first)

end Pattern

end InlineChoice
