/-!
# Tables over the code points

A property of code points changes its value rarely, so a table holds the runs of
equal values: the bounds where a run starts, in increasing order. The run of a
code point is found by bisection.

Tables are written as lines of text, because a few hundred lines are read faster
than as many thousand terms. A `RangeSet` is written as the lengths of its gaps
and ranges in turn, a `RunTable` as its runs, `length:value`, where a length of
one is left out. Lengths are hexadecimal.
-/

namespace InlineChoice

namespace Unicode

/-! ## Reading numbers -/

/-- The value of a hexadecimal digit. -/
def hexDigit? (c : Char) : Option Nat :=
  if '0' ≤ c && c ≤ '9' then some (c.toNat - '0'.toNat)
  else if 'a' ≤ c && c ≤ 'f' then some (c.toNat - 'a'.toNat + 10)
  else if 'A' ≤ c && c ≤ 'F' then some (c.toNat - 'A'.toNat + 10)
  else none

/-- The number that hexadecimal digits spell; other characters are passed over. -/
def hexValue (digits : List Char) : Nat :=
  digits.foldl (fun n c => (hexDigit? c).elim n (n * 16 + ·)) 0

/-- The words of some lines; in a line they are separated by spaces. -/
def words (lines : List String) : List (List Char) :=
  lines.flatMap fun line => line.toList.splitOn ' '

/-! ## Bisection -/

/-- Between `low` and `high`, the first index whose bound is above `c`. -/
def bisect (bounds : Array Nat) (c low high : Nat) : Nat :=
  if low < high then
    let middle := (low + high) / 2
    if bounds.getD middle 0 ≤ c then bisect bounds c (middle + 1) high
    else bisect bounds c low middle
  else low
  termination_by high - low

/-- How many of the increasing bounds are at most `c`. -/
def countBounds (bounds : Array Nat) (c : Nat) : Nat :=
  bisect bounds c 0 bounds.size

/-- The partial sums of some lengths. -/
def partialSums (lengths : List Nat) : Array Nat :=
  (lengths.foldl (fun (sums, sum) n => (sums.push (sum + n), sum + n)) (#[], 0)).1

/-! ## Sets -/

/-- A set of code points, by the bounds where membership changes. -/
structure RangeSet where
  bounds : Array Nat

namespace RangeSet

/-- The set whose gaps and ranges have the given lengths. -/
def ofLines (lines : List String) : RangeSet :=
  ⟨partialSums ((words lines).map hexValue)⟩

/-- Whether a code point is in the set: whether an odd number of bounds lies
before it. -/
def contains (set : RangeSet) (c : Char) : Bool :=
  countBounds set.bounds c.toNat % 2 = 1

end RangeSet

/-! ## Tables -/

/-- A value for every code point. -/
structure RunTable where
  /-- Where each run but the first starts. -/
  bounds : Array Nat
  /-- The value of each run. -/
  values : Array String

namespace RunTable

/-- The length and the value that a word spells. -/
def runOfWord (word : List Char) : Nat × String :=
  match word.splitOn ':' with
  | [length, value] => (hexValue length, String.ofList value)
  | _ => (1, String.ofList word)

/-- The table with the given runs. -/
def ofLines (lines : List String) : RunTable :=
  let runs := (words lines).map runOfWord
  ⟨partialSums (runs.map (·.1)), (runs.map (·.2)).toArray⟩

/-- The value of a code point. -/
def value (table : RunTable) (c : Char) : String :=
  table.values.getD (countBounds table.bounds c.toNat) ""

end RunTable

end Unicode

end InlineChoice
