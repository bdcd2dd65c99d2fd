import InlineChoice.Text
import InlineChoice.Unicode.BinaryProperty
import InlineChoice.Unicode.Category
import InlineChoice.Unicode.Script

/-!
# Properties by name

A property is asked for by one name, which is the name of a binary property, of a
general category or of a script, or by the name of an enumerated property and the
name of one of its values.

Names are compared loosely: case, spaces, hyphens, underscores and a leading "is"
do not matter (`Property.comparable`). Some names are taken by two properties;
`named?` settles which one they mean.
-/

namespace InlineChoice

namespace Unicode

namespace Property

/-- A name without a leading "is", if it has one. -/
def withoutIs : Text → Text × Bool
  | 'i' :: 's' :: rest | 'I' :: 's' :: rest | 'i' :: 'S' :: rest | 'I' :: 'S' :: rest =>
    (rest, true)
  | name => (name, false)

/-- The form in which names are compared. The name "isc" belongs to a property of its
own, so its "is" is kept. -/
def comparable (name : Text) : String :=
  let (bare, isCut) := withoutIs name
  let kept : Text := bare.filter fun c =>
    c.toNat < 0x80 && c != ' ' && c != '_' && c != '-'
  let lower := Text.asciiLower kept
  String.ofList (if isCut && lower = ['c'] then ['i', 's', 'c'] else lower)

/-- The characters of a general category, of a group of categories, or of one of the
sets that are named like categories. -/
def category? (name : String) : Option (Char → Bool) :=
  if name = "any" then some fun _ => true
  else if name = "ascii" then some fun c => c.toNat < 0x80
  else (Category.named? name).map Category.isOneOf

/-- The characters of a script. -/
def script? (name : String) : Option (Char → Bool) :=
  (Script.named? name).map Script.contains

/-- The names that a category shares with a property whose values are not truth
values. They mean the category. -/
def categoryNames : List String :=
  ["cf", "sc", "lc"]

/-- The characters that have the property with the given name. -/
def named? (name : Text) : Option (Char → Bool) :=
  let name := comparable name
  let binary := if categoryNames.contains name then none
    else (BinaryProperty.named? name).map RangeSet.contains
  binary <|> category? name <|> script? name

/-- The characters for which the property with the given name has the given value. -/
def valued? (name value : Text) : Option (Char → Bool) :=
  let value := comparable value
  match comparable name with
  | "gc" | "generalcategory" => category? value
  | "sc" | "script" => script? value
  | "scx" | "scriptextensions" => (Script.named? value).map Script.isUsedIn
  | _ => none

end Property

end Unicode

end InlineChoice
