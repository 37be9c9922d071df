import MediaTags.Separators
import MediaTags.Tag
import MediaTags.Text.LeadingNumber
import MediaTags.Vocabulary
import MediaTags.Warning

/-!
# From entries to a tag

An entry is read on its own: its key and scope say what it means, and the result is an `Update`
of the tag or a warning. A list of entries is read one by one and its updates are applied in
order. A date in two parts is put together at the end, if no entry gave a whole one.
-/

namespace MediaTags

/-- A key and a value as a file holds them. -/
structure Entry where
  key : String
  value : String
  deriving DecidableEq, Repr

/-- What a readable entry does to a tag. -/
inductive Update where
  | text (field : TextField) (value : String)
  | list (field : ListField) (values : List String)
  | number (field : NumberField) (value : Nat)
  | compilation (value : Bool)
  /-- People under roles, one pair after the other. -/
  | credits (pairs : List (String × List String))
  | year (year : String)
  | dayMonth (day month : String)
  deriving DecidableEq, Repr

/-- A flag is one of four words in any case, or a number, of which zero is the false one. -/
def parseFlag? (value : String) : Option Bool :=
  let word := Text.asciiLower (Text.trim value)
  if word = "true" ∨ word = "yes" then some true
  else if word = "false" ∨ word = "no" then some false
  else (Text.leadingNumber? word).map (· != 0)

/-- Take a list two by two; an odd last member is dropped. -/
def pairUp {α : Type} : List α → List (α × α)
  | a :: b :: rest => (a, b) :: pairUp rest
  | _ => []

/-- Cut a text at every comma, keeping empty pieces. -/
def splitCommas (value : String) : List String :=
  (Separators.gaps [[',']] value.toList).map .ofList

/-- A trimmed value that starts with four digits has a year. -/
def yearOf? (value : String) : Option String :=
  let head := (Text.trim value).toList.take 4
  if head.length = 4 ∧ head.all Char.isDigit then some (.ofList head) else none

/-- A trimmed value of exactly four digits is a day and a month. -/
def dayMonthOf? (value : String) : Option (String × String) :=
  let cs := (Text.trim value).toList
  if cs.length = 4 ∧ cs.all Char.isDigit then some (.ofList (cs.take 2), .ofList (cs.drop 2))
  else none

namespace Separators

/-- The credits in a list of roles and people by turns. -/
def roleCredits (s : Separators) (value : String) : List (String × List String) :=
  (pairUp (splitCommas value)).flatMap fun (roles, people) =>
    (s.split roles).map fun role => (capitalizeWords role, s.split people)

/-- Read one value: the updates it makes, none if it is of no use. -/
def interpret (s : Separators) (scope : Scope) (key : String) (value : String) :
    Meaning → Except Warning (Option Update)
  | .text field => .ok ((Text.present? value).map (.text field))
  | .joined field => .ok ((Text.present? (s.rejoin value)).map (.text field))
  | .list field =>
    let values := if field = .genres then s.splitWith value [","] else s.split value
    .ok (if values.isEmpty then none else some (.list field values))
  | .number field =>
    match Text.leadingNumber? value with
    | some n => .ok (some (.number field n))
    | none => .error (.malformedNumeric key value)
  | .flag =>
    if scope.isFile then
      match parseFlag? value with
      | some b => .ok (some (.compilation b))
      | none => .error (.malformedNumeric key value)
    else .ok (some (.compilation true))
  | .role name => .ok (some (.credits [(name, s.split value)]))
  | .roleList => .ok (some (.credits (s.roleCredits value)))
  | .partialDate .year => .ok ((yearOf? value).map .year)
  | .partialDate .dayMonth => .ok ((dayMonthOf? value).map fun (d, m) => .dayMonth d m)
  | .ignored => .ok none

/-- Read one entry. -/
def readEntry (s : Separators) (scope : Scope) (e : Entry) : Except Warning (Option Update) :=
  let key := Vocabulary.canonicalKey e.key
  match Vocabulary.lookup key scope with
  | some meaning => s.interpret scope key e.value meaning
  | none => .error (.unmappedKey key)

/-- The updates that a list of entries makes, in order. -/
def updates (s : Separators) (scope : Scope) (entries : List Entry) : List Update :=
  entries.filterMap fun e =>
    match s.readEntry scope e with
    | .ok u => u
    | .error _ => none

/-- The warnings that a list of entries gives rise to, in order. -/
def warnings (s : Separators) (scope : Scope) (entries : List Entry) : List Warning :=
  entries.filterMap fun e =>
    match s.readEntry scope e with
    | .ok _ => none
    | .error w => some w

end Separators

namespace Update

def year? : Update → Option String
  | .year y => some y
  | _ => none

def dayMonth? : Update → Option (String × String)
  | .dayMonth d m => some (d, m)
  | _ => none

/-- The date that the parts among some updates make together: the last year, and the last day and
month if there are any. -/
def splitDate? (us : List Update) : Option String :=
  match (us.filterMap year?).getLast?, (us.filterMap dayMonth?).getLast? with
  | some y, some (d, m) => some (y ++ "-" ++ m ++ "-" ++ d)
  | some y, none => some y
  | none, _ => none

end Update

namespace Tag

/-- Apply one update. A part of a date waits for the other parts. -/
def apply (t : Tag) : Update → Tag
  | .text field value => t.setText field value
  | .list field values => t.setList field values
  | .number field value => t.putNumber field value
  | .compilation value => { t with compilation := value }
  | .credits pairs => pairs.foldl (fun t p => t.credit p.1 p.2) t
  | .year _ => t
  | .dayMonth _ _ => t

/-- Fill in a date, unless there is one. -/
def fillDate (t : Tag) (date : Option String) : Tag :=
  match date with
  | some d => if t.releaseDate.isEmpty then { t with releaseDate := d } else t
  | none => t

def applyAll (t : Tag) (us : List Update) : Tag :=
  (us.foldl apply t).fillDate (Update.splitDate? us)

/-- Read entries into a tag. -/
def normalize (t : Tag) (s : Separators) (scope : Scope) (entries : List Entry) : Tag :=
  t.applyAll (s.updates scope entries)

end Tag

end MediaTags
