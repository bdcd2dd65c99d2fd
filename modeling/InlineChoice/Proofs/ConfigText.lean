import InlineChoice.Proofs.ConfigTokens
import InlineChoice.Proofs.JsonText

/-!
# The text of a configuration

The text that is written of a configuration is read as this configuration
(`Config.read_render`). Keys and values are written as they are and in order, so each entry
that is read goes behind those read before it (`Dictionary.insertEntry_of_last`), and the
two parts stand under the names by which the reader knows them. Nothing is lost by a reader
that passes over unknown fields and goes without missing ones, because there is no such
field.

Whether a configuration is accepted is another question. What has been written is loaded
again if and only if it was acceptable before.
-/

namespace InlineChoice

/-! ## Dictionaries -/

namespace Dictionary

theorem eq_of_entries {d d' : Dictionary} (h : d.entries = d'.entries) : d = d' := by
  obtain ⟨entries, _⟩ := d
  obtain ⟨entries', _⟩ := d'
  obtain rfl : entries = entries' := h
  rfl

/-- A key behind all others is put at the end. -/
theorem insertEntry_of_last {key : Text} {entries : List (Text × Text)}
    (h : ∀ entry ∈ entries, entry.1.precedes key = true) (value : Text) :
    insertEntry key value entries = entries ++ [(key, value)] := by
  induction entries with
  | nil => rfl
  | cons entry entries ih =>
      have hentry : entry.1.precedes key = true := h entry List.mem_cons_self
      have hrest := ih fun e he => h e (List.mem_cons_of_mem entry he)
      have hirrefl := Text.precedes_irrefl key
      have hbefore : ¬ key.precedes entry.1 = true := by
        intro hkey
        rw [Text.precedes_trans hkey hentry] at hirrefl
        cases hirrefl
      have hne : key ≠ entry.1 := by
        intro hkey
        rw [← hkey, hirrefl] at hentry
        cases hentry
      rw [insertEntry, if_neg hbefore, if_neg hne, hrest]
      rfl

/-- The next entry of a dictionary goes behind those that are there. -/
theorem entries_insert {d whole : Dictionary} {key value : Text}
    {entries : List (Text × Text)} (h : whole.entries = d.entries ++ (key, value) :: entries) :
    (d.insert key value).entries = d.entries ++ [(key, value)] := by
  have hsorted : Sorted (d.entries ++ (key, value) :: entries) := h ▸ whole.sorted
  refine insertEntry_of_last (fun entry hentry => ?_) value
  exact (List.pairwise_append.mp hsorted).2.2 entry hentry _ List.mem_cons_self

end Dictionary

namespace Config

open Json (quote escape behindLeft memberText)

/-! ## Members -/

/-- The closing bracket is found behind the last member. -/
theorem nextMember_nil (level : Nat) (first : Bool) (rest : Text) :
    nextMember first (behindLeft '\x7d' level first [] ++ rest) = .ok (.close rest) := by
  cases first with
  | true => rfl
  | false =>
      have hskip : Json.skipBlanks (behindLeft '\x7d' level false [] ++ rest) =
          '\x7d' :: rest := by
        rw [behindLeft, List.append_assoc]
        exact Json.skipBlanks_newline level (by decide) rest
      rw [nextMember, hskip]
      rfl

/-- The next member is found behind its opening quote. -/
theorem nextMember_cons (level : Nat) (first : Bool) (name value : Text) (items : List Text)
    (rest : Text) :
    nextMember first (behindLeft '\x7d' level first (memberText name value :: items) ++ rest) =
      .ok (.name (name.flatMap escape ++
        '"' :: ':' :: ' ' :: (value ++ (behindLeft '\x7d' level false items ++ rest)))) := by
  have hskip := Json.skipBlanks_memberText (level + 1) name value
    (behindLeft '\x7d' level false items ++ rest)
  cases first with
  | true =>
      rw [behindLeft, List.append_assoc, List.append_assoc, nextMember, hskip]
      rfl
  | false =>
      have hcomma (t : Text) : Json.skipBlanks (',' :: t) = ',' :: t := by
        rfl
      rw [behindLeft, List.append_assoc, List.append_assoc, List.cons_append]
      simp only [nextMember, hcomma, hskip, Bool.false_eq_true, if_false]

/-! ## Dictionaries -/

/-- The entries of a dictionary as they are written. -/
def entryTexts (entries : List (Text × Text)) : List Text :=
  entries.map fun entry => memberText entry.1 (quote entry.2)

theorem render_jsonOf (d : Dictionary) (level : Nat) :
    Json.render level (jsonOf d) =
      '\x7b' :: behindLeft '\x7d' level true (entryTexts d.entries) := by
  rw [jsonOf, Json.render_object, List.map_map]
  simp only [Function.comp_def, Json.render]
  rfl

theorem readText_quote (t rest : Text) :
    readText (' ' :: (quote t ++ rest)) = .ok (t, rest) := by
  have hskip : Json.skipBlanks (' ' :: (quote t ++ rest)) =
      '"' :: (t.flatMap escape ++ '"' :: rest) := by
    simp [quote, Json.skipBlanks, Json.isBlank]
  rw [readText, hskip]
  exact Json.readString_escaped t rest

/-- The entries that are written are read behind those that have been read, with the fuel
of one round for each and one for the bracket. -/
theorem readEntries_entryTexts (level : Nat) {entries : List (Text × Text)}
    {d whole : Dictionary} (h : whole.entries = d.entries ++ entries) {fuel : Nat}
    (hfuel : entries.length < fuel) (first : Bool) (rest : Text) :
    readEntries fuel first d (behindLeft '\x7d' level first (entryTexts entries) ++ rest) =
      .ok (whole, rest) := by
  -- What has been read is a front part of the whole, so every key is behind those before it.
  induction entries generalizing d fuel first with
  | nil =>
      obtain ⟨fuel, rfl⟩ := Nat.exists_eq_add_one.mpr hfuel
      obtain rfl : whole = d := Dictionary.eq_of_entries (by simpa using h)
      have hnext := nextMember_nil level first rest
      simp only [readEntries, entryTexts, List.map_nil, hnext, bind, Except.bind]
      rfl
  | cons entry entries ih =>
      obtain ⟨key, value⟩ := entry
      obtain ⟨fuel, rfl⟩ := Nat.exists_eq_add_one.mpr (Nat.zero_lt_of_lt hfuel)
      have hrest : entries.length < fuel := by simpa using hfuel
      have hinsert : whole.entries = (d.insert key value).entries ++ entries := by
        rw [Dictionary.entries_insert h, h]
        simp
      have hnext := nextMember_cons level first key (quote value) (entryTexts entries) rest
      have hothers := ih hinsert hrest false
      rw [entryTexts, List.map_cons, ← entryTexts]
      simp only [readEntries, hnext, Json.readString_escaped, Json.readColon_cons,
        readText_quote, bind, Except.bind]
      exact hothers

/-- What is written of a dictionary is read as this dictionary. -/
theorem readDictionary_render (d : Dictionary) (level : Nat) (rest : Text) :
    readDictionary (' ' :: (Json.render level (jsonOf d) ++ rest)) = .ok (d, rest) := by
  have hskip : Json.skipBlanks (' ' :: (Json.render level (jsonOf d) ++ rest)) =
      '\x7b' :: (behindLeft '\x7d' level true (entryTexts d.entries) ++ rest) := by
    rw [render_jsonOf]
    rfl
  have hfuel : d.entries.length <
      (behindLeft '\x7d' level true (entryTexts d.entries) ++ rest).length + 1 := by
    have hle := Json.length_le_behindLeft '\x7d' level true (entryTexts d.entries)
    rw [entryTexts, List.length_map, ← entryTexts] at hle
    rw [List.length_append]
    omega
  rw [readDictionary, hskip]
  exact readEntries_entryTexts level (by rfl) hfuel true rest

/-! ## Configurations -/

/-- The parts of a configuration. -/
inductive Part where
  | languages
  | commentTokens

/-- The name under which a part stands. -/
def Part.name : Part → Text
  | languages => languagesName
  | commentTokens => commentTokensName

/-- A part, if it has been read. -/
def Part.held? (parts : Parts) : Part → Option Dictionary
  | languages => parts.languages
  | commentTokens => parts.commentTokens

/-- The parts that have been read, with one more. -/
def Part.put (parts : Parts) (d : Dictionary) : Part → Parts
  | languages => { parts with languages := some d }
  | commentTokens => { parts with commentTokens := some d }

/-- A part as it is written. -/
def Part.text (part : Part) (d : Dictionary) : Text :=
  memberText part.name (Json.render 1 (jsonOf d))

/-- The two parts of a configuration as they are written. -/
def partTexts (config : Config) : List Text :=
  [Part.text .languages config.languages, Part.text .commentTokens config.commentTokens]

theorem render_eq (config : Config) :
    config.render = '\x7b' :: behindLeft '\x7d' 0 true config.partTexts := by
  rw [render, Json.pretty, Json.render_object]
  rfl

/-- **One step of the reader.** A part that has not been read is read under its name. -/
theorem readFields_part (fuel : Nat) (first : Bool) (parts : Parts) (part : Part)
    (hnone : part.held? parts = none) (d : Dictionary) (items : List Text) (rest : Text) :
    readFields (fuel + 1) first parts
        (behindLeft '\x7d' 0 first (part.text d :: items) ++ rest) =
      readFields fuel false (part.put parts d) (behindLeft '\x7d' 0 false items ++ rest) := by
  have hnext := nextMember_cons 0 first part.name (Json.render 1 (jsonOf d)) items rest
  rw [Part.text, readFields]
  simp only [hnext, Json.readString_escaped, Json.readColon_cons, readDictionary_render,
    bind, Except.bind]
  cases part with
  | languages =>
      have hfree : parts.languages = none := hnone
      simp only [Part.name, hfree, Option.isSome_none, if_true]
      rfl
  | commentTokens =>
      have hfree : parts.commentTokens = none := hnone
      have hne : commentTokensName ≠ languagesName := by decide
      simp only [Part.name, hfree, Option.isSome_none, if_neg hne, if_true]
      rfl

/-- The parts that are written are read one after the other, up to the bracket. -/
theorem readFields_partTexts (config : Config) (fuel : Nat) :
    readFields (fuel + 3) true ⟨none, none⟩ (behindLeft '\x7d' 0 true config.partTexts) =
      .ok (⟨some config.languages, some config.commentTokens⟩, []) := by
  have hlanguages := readFields_part (fuel + 2) true ⟨none, none⟩ .languages rfl
    config.languages [Part.text .commentTokens config.commentTokens] []
  have htokens := readFields_part (fuel + 1) false ⟨some config.languages, none⟩
    .commentTokens rfl config.commentTokens [] []
  have hclose := nextMember_nil 0 false []
  simp only [List.append_nil] at hlanguages htokens hclose
  rw [partTexts, hlanguages, Part.put, htokens, readFields]
  simp only [hclose, bind, Except.bind]
  rfl

/-- A configuration is read from its text. -/
theorem read_render (config : Config) : read config.render = .ok config := by
  have hlength := Json.length_le_behindLeft '\x7d' 0 true config.partTexts
  obtain ⟨fuel, hfuel⟩ := Nat.exists_eq_add_of_le' hlength
  have hrounds : (behindLeft '\x7d' 0 true config.partTexts).length + 1 = fuel + 3 := by
    rw [hfuel]
    rfl
  have hfields := readFields_partTexts config fuel
  rw [← hrounds] at hfields
  have hskip : Json.skipBlanks config.render =
      '\x7b' :: behindLeft '\x7d' 0 true config.partTexts := by
    rw [render_eq]
    rfl
  rw [read, hskip]
  simp only [hfields, bind, Except.bind]
  rfl

/-- A file with the text of a configuration holds it, if it can be accepted. -/
theorem loadAt_write_render (config : Config) (tree : FileTree) (place : Location) :
    loadAt (tree.write place config.render) place =
      match config.fault? with
      | some fault => .error (.refused fault)
      | none => .ok config := by
  have htext : (tree.write place config.render).readAt place = .ok config.render :=
    FileTree.readAt_eq_ok_iff.mpr (FileTree.nodeAt?_write_self tree place _)
  rw [loadAt_eq]
  cases hfault : config.fault? with
  | none => simp only [htext, read_render, hfault]
  | some fault => simp only [htext, read_render, hfault]

/-- **The text of a configuration says all of it.** For any two maps, whatever characters
their keys and values are made of, the text that is written is read as a configuration with
the same two maps; it overrides the same languages, has the same fault if it has any, and is
written in the same way. A file with this text is loaded as the configuration, unless it is
refused for the fault that the configuration had before it was written. -/
theorem text_round_trip (config : Config) :
    (∃ back, read config.render = .ok back ∧ back.languages = config.languages ∧
      back.commentTokens = config.commentTokens ∧
      back.commentSyntax = config.commentSyntax ∧ back.fault? = config.fault? ∧
      back.render = config.render) ∧
    ∀ (tree : FileTree) (place : Location),
      loadAt (tree.write place config.render) place =
        match config.fault? with
        | some fault => .error (.refused fault)
        | none => .ok config := by
  refine ⟨⟨config, read_render config, rfl, rfl, rfl, rfl, rfl⟩, ?_⟩
  intro tree place
  exact loadAt_write_render config tree place

end Config

end InlineChoice
