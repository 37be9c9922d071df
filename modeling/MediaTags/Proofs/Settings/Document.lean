import MediaTags.Proofs.Text.Utf8
import MediaTags.Proofs.Toml.Written
import MediaTags.Settings.File

/-!
# Documents of settings

The document that settings are saved as gives them back: it has a line for each of them, and each
line is read as it was written.
-/

namespace MediaTags

open Toml

namespace Settings

/-- The numbers among the settings are signed 64-bit numbers. -/
structure InRange (s : Settings) : Prop where
  blockSize : s.probe.blockSize < 0x8000000000000000
  minChapterMs : -0x8000000000000000 ≤ s.chapters.minChapterMs ∧
    s.chapters.minChapterMs ≤ 0x7FFFFFFFFFFFFFFF

/-- The lines of the document. -/
def lines (s : Settings) : List Line :=
  [.table ⟨[], "tags"⟩, .pair ⟨[], "item_separator"⟩ (.text s.tags.itemSeparator),
   .table ⟨[], "probe"⟩, .pair ⟨[], "block_size"⟩ (.integer s.probe.blockSize),
   .table ⟨[], "chapters"⟩, .pair ⟨[], "thumbnails"⟩ (.boolean s.chapters.thumbnails),
   .pair ⟨[], "min_chapter_ms"⟩ (.integer s.chapters.minChapterMs)]

theorem toList_toDocument (s : Settings) :
    s.toDocument.toList =
      '[' :: ("tags".toList ++ ']' :: '\n' ::
      ("item_separator".toList ++ ' ' :: '=' :: ' ' ::
        ((Toml.Text.encode s.tags.itemSeparator).toList ++ '\n' ::
      '\n' :: '[' :: ("probe".toList ++ ']' :: '\n' ::
      ("block_size".toList ++ ' ' :: '=' :: ' ' ::
        ((toString (s.probe.blockSize : Int)).toList ++ '\n' ::
      '\n' :: '[' :: ("chapters".toList ++ ']' :: '\n' ::
      ("thumbnails".toList ++ ' ' :: '=' :: ' ' ::
        ((if s.chapters.thumbnails then "true" else "false").toList ++ '\n' ::
      ("min_chapter_ms".toList ++ ' ' :: '=' :: ' ' ::
        ((toString s.chapters.minChapterMs).toList ++ '\n' :: []))))))))))) := by
  have htags : "[tags]\nitem_separator = ".toList =
    '[' :: ("tags".toList ++ ']' :: '\n' :: ("item_separator".toList ++ [' ', '=', ' '])) := rfl
  have hprobe : "\n\n[probe]\nblock_size = ".toList =
    '\n' :: '\n' :: '[' :: ("probe".toList ++ ']' :: '\n' ::
      ("block_size".toList ++ [' ', '=', ' '])) := rfl
  have hchapters : "\n\n[chapters]\nthumbnails = ".toList =
    '\n' :: '\n' :: '[' :: ("chapters".toList ++ ']' :: '\n' ::
      ("thumbnails".toList ++ [' ', '=', ' '])) := rfl
  have hlength : "\nmin_chapter_ms = ".toList =
    '\n' :: ("min_chapter_ms".toList ++ [' ', '=', ' ']) := rfl
  have hend : "\n".toList = ['\n'] := rfl
  unfold toDocument
  simp only [String.toList_append, htags, hprobe, hchapters, hlength, hend, List.append_assoc,
    List.cons_append, List.nil_append]
  rfl

theorem written_toDocument {s : Settings} (h : s.InRange) :
    Written s.toDocument.toList s.lines := by
  have hblock : Number.inRange? (s.probe.blockSize : Int) = some (s.probe.blockSize : Int) := by
    have := h.blockSize
    rw [Number.inRange?, if_pos]
    omega
  have hms : Number.inRange? s.chapters.minChapterMs = some s.chapters.minChapterMs := by
    rw [Number.inRange?, if_pos h.minChapterMs]
  have hname : ∀ name ∈ ["tags", "item_separator", "probe", "block_size", "chapters", "thumbnails",
      "min_chapter_ms"], IsBareName name.toList := by decide +kernel
  rw [toList_toDocument]
  exact .header (hname "tags" (by simp)) <|
    .pair (hname "item_separator" (by simp)) (writes_text s.tags.itemSeparator) <|
    .blank <| .header (hname "probe" (by simp)) <|
    .pair (hname "block_size" (by simp)) (writes_integer hblock) <|
    .blank <| .header (hname "chapters" (by simp)) <|
    .pair (hname "thumbnails" (by simp)) (writes_boolean s.chapters.thumbnails) <|
    .pair (hname "min_chapter_ms" (by simp)) (writes_integer hms) .done

/-- The table of the document. -/
def table (s : Settings) : Table :=
  [("tags", .table .header [("item_separator", .text s.tags.itemSeparator)]),
   ("probe", .table .header [("block_size", .integer s.probe.blockSize)]),
   ("chapters", .table .header [("thumbnails", .boolean s.chapters.thumbnails),
     ("min_chapter_ms", .integer s.chapters.minChapterMs)])]

theorem foldlM_lines (s : Settings) :
    s.lines.foldlM Assembly.add {} = some { root := s.table, opened := ["chapters"] } := rfl

theorem ofTable?_table (s : Settings) : ofTable? s.table = some s := by
  have hblock : (Value.integer s.probe.blockSize).natural? = some s.probe.blockSize := by
    simp [Value.natural?]
  have htags : Table.get? s.table "tags" {} TagSettings.ofValue? = some s.tags := rfl
  have hprobe : Table.get? s.table "probe" {} ProbeSettings.ofValue? = some s.probe :=
    congrArg (Option.map ProbeSettings.mk) hblock
  have hchapters : Table.get? s.table "chapters" {} ChapterSettings.ofValue? = some s.chapters :=
    rfl
  rw [ofTable?, htags, hprobe, hchapters]
  rfl

theorem parse?_toDocument {s : Settings} (h : s.InRange) :
    Toml.parse? s.toDocument = some s.table := by
  have hmark : skipMark s.toDocument.toList = s.toDocument.toList := by
    rw [toList_toDocument]
    rfl
  have hlines : readLines (s.toDocument.toList.length + 1) s.toDocument.toList = some s.lines :=
    readLines_of_written (written_toDocument h) (Nat.lt_succ_self _)
  unfold Toml.parse?
  simp only [hmark, hlines, Option.bind_eq_bind, Option.bind_some, foldlM_lines]
  rfl

/-- The settings of a document are those it was made of. -/
theorem ofDocument_toDocument {s : Settings} (h : s.InRange) : ofDocument s.toDocument = s := by
  rw [ofDocument, parse?_toDocument h, Option.bind_some, ofTable?_table, Option.getD_some]

theorem ofFile_toDocument {s : Settings} (h : s.InRange) :
    ofFile (Text.Utf8.encode s.toDocument.toList).toArray = s := by
  rw [ofFile, List.toList_toArray, Text.Utf8.decode?_encode]
  simp only [String.ofList_toList]
  exact ofDocument_toDocument h

end Settings

end MediaTags
