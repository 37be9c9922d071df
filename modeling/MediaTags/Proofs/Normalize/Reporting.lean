import MediaTags.Proofs.Normalize.LastValue
import MediaTags.Proofs.Text.LeadingNumber

/-!
# What is reported, and what it costs

Entries are read in one pass over a tag and a list of warnings. There is a warning for every key
without a meaning and for every number or flag that cannot be read, in the order of the entries,
and for nothing else. An entry with a warning leaves no other trace: without it the tag is the same.
-/

namespace MediaTags

/-! ## What there is to complain about -/

/-- The words for yes and for no. -/
def flagWords : List String := ["true", "yes", "false", "no"]

/-- A flag is one of four words in any case, or starts with a number. -/
def IsFlag (value : String) : Prop :=
  Text.asciiLower (Text.trim value) ∈ flagWords ∨ Text.StartsWithNumber value.toList

instance (value : String) : Decidable (IsFlag value) := inferInstanceAs (Decidable (_ ∨ _))

/-- The warning that an entry deserves in a scope, if it deserves one. A compilation flag is only
looked into in files that hold a single item. -/
def complaint? (scope : Scope) (e : Entry) : Option Warning :=
  let key := Vocabulary.canonicalKey e.key
  match Vocabulary.lookup key scope with
  | none => some (.unmappedKey key)
  | some (.number _) =>
    if Text.StartsWithNumber e.value.toList then none else some (.malformedNumeric key e.value)
  | some .flag =>
    if (scope = .container ∨ scope = .stream) ∧ ¬ IsFlag e.value then
      some (.malformedNumeric key e.value)
    else none
  | some _ => none

theorem startsWithNumber_asciiLower_trim {value : String} :
    Text.StartsWithNumber (Text.asciiLower (Text.trim value)).toList ↔
      Text.StartsWithNumber value.toList := by
  rw [Text.asciiLower, String.toList_ofList, Text.startsWithNumber_map_toLower, Text.toList_trim,
    Text.startsWithNumber_trimChars]

theorem isSome_parseFlag? {value : String} : (parseFlag? value).isSome ↔ IsFlag value := by
  rw [IsFlag, ← startsWithNumber_asciiLower_trim, ← Text.isSome_leadingNumber?]
  set word := Text.asciiLower (Text.trim value) with hword
  simp only [parseFlag?, ← hword]
  by_cases hyes : word = "true" ∨ word = "yes"
  · rw [if_pos hyes]
    rcases hyes with h | h <;> simp [h, flagWords]
  · rw [if_neg hyes]
    by_cases hno : word = "false" ∨ word = "no"
    · rw [if_pos hno]
      rcases hno with h | h <;> simp [h, flagWords]
    · rw [if_neg hno, Option.isSome_map]
      rw [not_or] at hyes hno
      simp [flagWords, hyes, hno]

theorem Scope.isFile_iff {scope : Scope} : scope.isFile ↔ scope = .container ∨ scope = .stream := by
  cases scope <;> decide

namespace Separators

variable (s : Separators) (scope : Scope)

/-- An entry cannot be read exactly when there is something to complain about. -/
theorem readEntry_eq_error_iff {e : Entry} {w : Warning} :
    s.readEntry scope e = .error w ↔ complaint? scope e = some w := by
  simp only [readEntry, complaint?]
  cases Vocabulary.lookup (Vocabulary.canonicalKey e.key) scope with
  | none => simp
  | some m =>
    cases m with
    | number f =>
      simp only [interpret, ← Text.isSome_leadingNumber?]
      cases Text.leadingNumber? e.value <;> simp
    | flag =>
      simp only [interpret, ← Scope.isFile_iff, ← isSome_parseFlag?]
      cases parseFlag? e.value <;> cases scope.isFile <;> simp
    | partialDate part => cases part <;> simp [interpret]
    | _ => simp [interpret]

theorem complaint?_eq (e : Entry) :
    complaint? scope e =
      match s.readEntry scope e with
      | .ok _ => none
      | .error w => some w := by
  ext w
  rw [← readEntry_eq_error_iff s scope]
  cases s.readEntry scope e <;> simp

theorem warnings_eq (entries : List Entry) :
    s.warnings scope entries = entries.filterMap (complaint? scope) :=
  List.filterMap_congr fun e _ => (complaint?_eq s scope e).symm

/-- Entries with a warning make no update. -/
theorem updates_filter (entries : List Entry) :
    s.updates scope (entries.filter fun e => (complaint? scope e).isNone) =
      s.updates scope entries := by
  rw [updates, List.filterMap_filter]
  refine List.filterMap_congr fun e _ => ?_
  rw [complaint?_eq s]
  cases s.readEntry scope e <;> simp

theorem warnings_filter (entries : List Entry) :
    s.warnings scope (entries.filter fun e => (complaint? scope e).isNone) = [] := by
  rw [warnings_eq, List.filterMap_filter]
  simp

end Separators

/-! ## One pass over the entries -/

/-- Entries on their way into a tag: the tag so far, the parts of a date that were seen last, and
the warnings so far. -/
structure Reading where
  tag : Tag
  year : Option String := none
  dayMonth : Option (String × String) := none
  warnings : List Warning

namespace Reading

variable (s : Separators) (scope : Scope)

/-- Take in one entry. -/
def step (r : Reading) (e : Entry) : Reading :=
  match s.readEntry scope e with
  | .ok (some u) =>
    { r with
      tag := r.tag.apply u
      year := u.year?.or r.year
      dayMonth := u.dayMonth?.or r.dayMonth }
  | .ok none => r
  | .error w => { r with warnings := r.warnings ++ [w] }

/-- The date that the parts make together. -/
def date? (r : Reading) : Option String :=
  match r.year, r.dayMonth with
  | some y, some (d, m) => some (y ++ "-" ++ m ++ "-" ++ d)
  | some y, none => some y
  | none, _ => none

/-- One step keeps the updates and the warnings apart. -/
theorem foldl_step (r : Reading) (entries : List Entry) :
    entries.foldl (step s scope) r =
      { tag := (s.updates scope entries).foldl Tag.apply r.tag
        year := ((s.updates scope entries).filterMap Update.year?).getLast?.or r.year
        dayMonth := ((s.updates scope entries).filterMap Update.dayMonth?).getLast?.or r.dayMonth
        warnings := r.warnings ++ s.warnings scope entries } := by
  induction entries generalizing r with
  | nil => cases r; simp [Separators.updates, Separators.warnings]
  | cons e entries ih =>
    rw [List.foldl_cons, ih]
    simp only [Separators.updates, Separators.warnings, List.filterMap_cons, step]
    cases s.readEntry scope e with
    | error w => simp
    | ok u =>
      cases u with
      | none => simp
      | some u => simp [Option.or_assoc]

end Reading

namespace Separators

variable (s : Separators) (scope : Scope)

/-- Read entries into a tag and report to a list of warnings, in one pass. A date in two parts is
filled in at the end. -/
def readInto (t : Tag) (warned : List Warning) (entries : List Entry) : Tag × List Warning :=
  let r := entries.foldl (Reading.step s scope) { tag := t, warnings := warned }
  (r.tag.fillDate r.date?, r.warnings)

theorem readInto_eq (t : Tag) (warned : List Warning) (entries : List Entry) :
    s.readInto scope t warned entries =
      (t.normalize s scope entries, warned ++ s.warnings scope entries) := by
  simp only [readInto, Reading.foldl_step, Reading.date?, Option.or_none]
  rfl

/-- One pass over the entries gives the tag and adds the warnings to those that there are: one for
each entry that there is something to complain about, in order. Without these entries the tag is
the same, and nothing is reported. -/
theorem readInto_reports (t : Tag) (warned : List Warning) (entries : List Entry) :
    s.readInto scope t warned entries =
      (t.normalize s scope entries, warned ++ s.warnings scope entries) ∧
    s.warnings scope entries = entries.filterMap (complaint? scope) ∧
    s.readInto scope t warned (entries.filter fun e => (complaint? scope e).isNone) =
      (t.normalize s scope entries, warned) := by
  refine ⟨readInto_eq .., warnings_eq .., ?_⟩
  rw [readInto_eq, warnings_filter, List.append_nil, Tag.normalize, updates_filter, Tag.normalize]

example : ([⟨"trck", "x"⟩, ⟨"TCMP", "maybe"⟩, ⟨"TITLE", "So What"⟩, ⟨"MOOD RING", "1"⟩] :
    List Entry).filterMap (complaint? .container) =
      [.malformedNumeric "TRCK" "x", .malformedNumeric "TCMP" "maybe",
        .unmappedKey "MOOD RING"] := by
  decide +kernel

end Separators

end MediaTags
