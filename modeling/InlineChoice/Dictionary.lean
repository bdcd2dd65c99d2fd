import InlineChoice.Text

/-!
# Dictionaries

A dictionary maps texts to texts and lists its entries by increasing key, in the
order of code points, which is the order of their UTF-8 encodings. Each key
occurs once, so two dictionaries with the same entries are equal.

* `Dictionary.insert` replaces the value of a key that is there already.
* `Dictionary.get?` looks a key up.
-/

namespace InlineChoice

namespace Dictionary

/-- Entries by strictly increasing key. -/
def Sorted (entries : List (Text × Text)) : Prop :=
  entries.Pairwise (·.1.precedes ·.1)

/-- Entries with one more, in its place. -/
def insertEntry (key value : Text) : List (Text × Text) → List (Text × Text)
  | [] => [(key, value)]
  | entry :: rest =>
    if key.precedes entry.1 then (key, value) :: entry :: rest
    else if key = entry.1 then (key, value) :: rest
    else entry :: insertEntry key value rest

theorem key_of_mem_insertEntry {key value : Text} {e : Text × Text}
    {entries : List (Text × Text)} (h : e ∈ insertEntry key value entries) :
    e.1 = key ∨ e ∈ entries := by
  induction entries with
  | nil => simp_all [insertEntry]
  | cons entry rest ih =>
    unfold insertEntry at h
    split at h
    · grind
    · split at h <;> grind

theorem sorted_insertEntry (key value : Text) {entries : List (Text × Text)}
    (h : Sorted entries) : Sorted (insertEntry key value entries) := by
  induction entries with
  | nil => simp [insertEntry, Sorted]
  | cons entry rest ih =>
    obtain ⟨first, others⟩ := List.pairwise_cons.1 h
    unfold insertEntry
    split
    · rename_i before
      refine List.pairwise_cons.2 ⟨?_, h⟩
      intro e he
      rcases List.mem_cons.1 he with rfl | he
      · exact before
      · exact Text.precedes_trans before (first e he)
    · split
      · rename_i same
        exact List.pairwise_cons.2 ⟨fun e he => same ▸ first e he, others⟩
      · rename_i before differs
        refine List.pairwise_cons.2 ⟨?_, ih others⟩
        intro e he
        rcases key_of_mem_insertEntry he with same | he
        · rw [same]
          exact Text.precedes_of_not before differs
        · exact first e he

end Dictionary

/-- A map from texts to texts. -/
structure Dictionary where
  entries : List (Text × Text)
  sorted : Dictionary.Sorted entries

namespace Dictionary

/-- The dictionary without entries. -/
def empty : Dictionary := ⟨[], List.Pairwise.nil⟩

/-- The dictionary in which `key` has the given value. -/
def insert (d : Dictionary) (key value : Text) : Dictionary :=
  ⟨insertEntry key value d.entries, sorted_insertEntry key value d.sorted⟩

/-- The value of a key. -/
def get? (d : Dictionary) (key : Text) : Option Text :=
  d.entries.lookup key

/-- The dictionary with some entries; of equal keys the last one counts. -/
def ofList (entries : List (Text × Text)) : Dictionary :=
  entries.foldl (fun d (key, value) => d.insert key value) empty

end Dictionary

end InlineChoice
