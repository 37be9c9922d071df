import MediaTags.FileTree
import MediaTags.Settings
import MediaTags.Text.Utf8
import MediaTags.Toml.Document

/-!
# Settings files

Settings are kept as a TOML document with a table for each group. What a document does not mention
has its default, and names without a meaning are passed over. A document that is faulty, or gives a
setting a value of another type, leaves every setting at its default. Settings are saved to a file
beside the old one, which then takes its place.
-/

namespace MediaTags

open Toml (Table Value)

/-- The named values of a group: by name in a table, by position in an array. A date is a group
without any of them. -/
def Toml.Value.members? (names : List String) : Value → Option Table
  | .table _ members => some members
  | .array items => some (names.zip items)
  | .tables items => some (names.zip (items.map (.table .header)))
  | .date => some []
  | _ => none

/-- Read a value under a name; `fallback` stands for a missing one. -/
def Toml.Table.get? {α : Type} (t : Table) (name : String) (fallback : α)
    (read : Value → Option α) : Option α :=
  match t.lookup name with
  | some v => read v
  | none => some fallback

def Toml.Value.text? : Value → Option String
  | .text s => some s
  | _ => none

def Toml.Value.integer? : Value → Option Int
  | .integer n => some n
  | _ => none

def Toml.Value.natural? : Value → Option Nat
  | .integer n => if 0 ≤ n then some n.toNat else none
  | _ => none

def Toml.Value.boolean? : Value → Option Bool
  | .boolean b => some b
  | _ => none

namespace TagSettings

def ofValue? (v : Value) : Option TagSettings := do
  let t ← v.members? ["item_separator"]
  return ⟨← t.get? "item_separator" Separators.defaultJoin Value.text?⟩

end TagSettings

namespace ProbeSettings

def ofValue? (v : Value) : Option ProbeSettings := do
  let t ← v.members? ["block_size"]
  return ⟨← t.get? "block_size" ({} : ProbeSettings).blockSize Value.natural?⟩

end ProbeSettings

namespace ChapterSettings

def ofValue? (v : Value) : Option ChapterSettings := do
  let t ← v.members? ["thumbnails", "min_chapter_ms"]
  let d : ChapterSettings := {}
  return ⟨← t.get? "thumbnails" d.thumbnails Value.boolean?,
    ← t.get? "min_chapter_ms" d.minChapterMs Value.integer?⟩

end ChapterSettings

namespace Settings

def ofTable? (t : Table) : Option Settings :=
  return {
    tags := ← t.get? "tags" {} TagSettings.ofValue?
    probe := ← t.get? "probe" {} ProbeSettings.ofValue?
    chapters := ← t.get? "chapters" {} ChapterSettings.ofValue? }

/-- The settings of a document. -/
def ofDocument (s : String) : Settings := ((Toml.parse? s).bind ofTable?).getD {}

/-- The settings of a file, which has to be UTF-8. -/
def ofFile (file : Bytes) : Settings :=
  match Text.Utf8.decode? file.toList with
  | some cs => ofDocument (.ofList cs)
  | none => {}

/-- The settings in the file at a path, if there is one. -/
def load (t : FileTree) (path : String) : Settings :=
  match t.contents? path with
  | some file => ofFile file
  | none => {}

/-- The document that the settings are saved as. -/
def toDocument (s : Settings) : String :=
  "[tags]\nitem_separator = " ++ Toml.Text.encode s.tags.itemSeparator ++
    "\n\n[probe]\nblock_size = " ++ toString s.probe.blockSize ++
    "\n\n[chapters]\nthumbnails = " ++ (if s.chapters.thumbnails then "true" else "false") ++
    "\nmin_chapter_ms = " ++ toString s.chapters.minChapterMs ++ "\n"

/-- The document, unless the block size is no signed 64-bit number. -/
def serialize (s : Settings) : Except SettingsFailure String :=
  if s.probe.blockSize < 0x8000000000000000 then .ok s.toDocument else .error .outOfRange

/-- Make the directory that the file at a path lies in. -/
def prepare (t : FileTree) (path : String) : Except SettingsFailure Unit × FileTree :=
  match Resource.parent? path with
  | none => (.ok (), t)
  | some directory =>
    let (made, t) := t.makeDirectory directory
    (made.mapError (.createDirectory directory), t)

/-- Save the settings at a path. A failure tells what is wrong; the tree is what was reached. -/
def save (s : Settings) (t : FileTree) (path : String) : Except SettingsFailure Unit × FileTree :=
  match prepare t path with
  | (.error e, t) => (.error e, t)
  | (.ok (), t) =>
    match s.serialize with
    | .error e => (.error e, t)
    | .ok document =>
      let draft := Resource.withExtension path "toml.tmp"
      match t.write draft (Text.Utf8.encode document.toList).toArray with
      | .error cause => (.error (.write draft cause), t)
      | .ok t =>
        match t.rename draft path with
        | .error cause => (.error (.rename draft path cause), t)
        | .ok t => (.ok (), t)

end Settings

end MediaTags
