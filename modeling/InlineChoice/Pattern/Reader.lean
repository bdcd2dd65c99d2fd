import InlineChoice.Pattern
import InlineChoice.Pattern.Engine
import InlineChoice.Pattern.Token

/-!
# Reading patterns

The reader takes one token at a time and keeps the groups that are open
(`Group`), the innermost first. Flags belong to a group: those that change inside it
also hold for its later alternatives, and the group around it keeps its own.

A text is no pattern if a token has no meaning where it stands, if two groups have one
name, or if its parts are nested too deep (`depthLimit`). A pattern can be searched for if
the engine admits it, too (`compile?`).
-/

namespace InlineChoice

namespace Pattern

/-- How deep the parts of a pattern may be nested. A group, a set in brackets, a
repetition, an operation, and a sequence, union or choice of two or more parts are one
level each. -/
def depthLimit : Nat := 250

/-- A part of a pattern, with the depth of its nesting. -/
structure Part where
  pattern : Pattern Atom
  depth : Nat

/-- One part made of many, by a connective. Many parts are one level. -/
def Part.ofList (connect : Pattern Atom → Pattern Atom → Pattern Atom) : List Part → Part
  | [] => { pattern := .empty, depth := 0 }
  | [part] => part
  | part :: parts =>
    { pattern := parts.foldl (fun p part => connect p part.pattern) part.pattern
      depth := parts.foldl (fun d part => max d part.depth) part.depth + 1 }

/-- A group whose closing parenthesis has not been read. -/
structure Group where
  /-- The flags that are set for what follows. -/
  flags : Flags
  /-- The finished alternatives, the last one first. -/
  branches : List Part := []
  /-- The items of the alternative at hand, the last one first. A change of flags
  counts as an item that cannot be repeated. -/
  items : List (Part × Bool) := []

namespace Group

/-- The group with one more item. -/
def add (g : Group) (part : Part) : Group :=
  { g with items := (part, true) :: g.items }

/-- The group with one more atom. -/
def addAtom (g : Group) (atom : Atom) (depth : Nat) : Group :=
  g.add { pattern := .atom atom, depth }

/-- The alternative at hand. -/
def branch (g : Group) : Part :=
  Part.ofList .sequence (g.items.reverse.map (·.1))

/-- The group at the start of a further alternative. -/
def nextBranch (g : Group) : Group :=
  { g with branches := g.branch :: g.branches, items := [] }

/-- The whole content of the group. -/
def content (g : Group) : Part :=
  Part.ofList .choice (g.branch :: g.branches).reverse

/-- The group with its last item repeated, if there is one. -/
def repeated? (g : Group) (least : Nat) (most : Option Nat) : Option Group :=
  match g.items with
  | (part, true) :: items =>
    some ({ g with items }.add
      { pattern := .repetition part.pattern least most, depth := part.depth + 1 })
  | _ => none

/-- The group after a change of flags. -/
def changeFlags (g : Group) (changes : FlagChanges) : Group :=
  { g with
    flags := g.flags.changed changes
    items := ({ pattern := .empty, depth := 0 }, false) :: g.items }

end Group

/-! ## Atoms -/

/-- The characters that one literal matches. Without the flag `unicode` it may not be a
byte outside ASCII. -/
def literalMembers? (flags : Flags) (l : Literal) : Option (Char → Bool) :=
  if l.isByte && !isAscii l.char && !flags.has .unicode then none
  else some (closed flags (· = l.char))

/-- The characters that the dot matches. -/
def dotMembers? (flags : Flags) : Option (Char → Bool) :=
  if !flags.has .unicode then none
  else if flags.has .dotAll then some fun _ => true
  else if flags.has .returns then some fun c => c ≠ '\n' && c ≠ '\r'
  else some fun c => c ≠ '\n'

/-! ## Groups -/

/-- The open groups after a token. -/
def readToken? (g : Group) (outer : List Group) : Token → Option (Group × List Group)
  | .literal l => do return (g.addAtom (.character (← literalMembers? g.flags l)) 0, outer)
  | .dot => do return (g.addAtom (.character (← dotMembers? g.flags)) 0, outer)
  | .assertion a => some (g.addAtom (.boundary (a.holds g.flags)) 0, outer)
  | .set s => do return (g.addAtom (.character (← s.members? g.flags)) s.depth, outer)
  | .repetition least most => do return (← g.repeated? least most, outer)
  | .openGroup _ changes => some ({ flags := g.flags.changed changes }, g :: outer)
  | .closeGroup =>
    match outer with
    | [] => none
    | around :: outer =>
      some (around.add { g.content with depth := g.content.depth + 1 }, outer)
  | .bar => some (g.nextBranch, outer)
  | .changeFlags changes => some (g.changeFlags changes, outer)

/-- The content of the outermost group. -/
def readTokens? (g : Group) (outer : List Group) : List Token → Option Part
  | [] => if outer.isEmpty then some g.content else none
  | token :: tokens => do
    let (g, outer) ← readToken? g outer token
    readTokens? g outer tokens

/-- The pattern that a text spells, if it spells one. -/
def read? (flags : Flags) (t : Text) : Option (Pattern Atom) := do
  let tokens ← Token.scan? t
  let part ← readTokens? { flags } [] tokens
  if (tokens.filterMap Token.groupName?).Nodup && part.depth ≤ depthLimit then
    return part.pattern
  else none

/-- The pattern that a text spells, if it spells one that the engine admits. -/
def compile? [PatternEngine] (flags : Flags) (t : Text) : Option (Pattern Atom) :=
  if PatternEngine.admits flags t then read? flags t else none

end Pattern

end InlineChoice
