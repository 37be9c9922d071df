import MediaTags.Chapters.Title
import MediaTags.Codec
import MediaTags.Resource
import MediaTags.Settings
import MediaTags.Text.Padded

/-!
# One item per chapter

A container with chapters is shown as a set of items. Each starts from the album's tag and takes
the chapter's own metadata on top. The declared end of a chapter is kept only if it is positive,
lies within the container and not past the start of the next item; otherwise the item ends where
the next one starts, or with the stream, or with the container.
-/

namespace MediaTags

/-- What the making of items needs besides the container. -/
structure ChapterContext where
  resource : String
  separators : Separators
  strings : StringTable
  settings : ChapterSettings

structure ChapterItem where
  tag : Tag
  startMs : Int
  endMs : Int
  bookmarkMs : Int
  thumbnail : Option String
  label : String
  anomalous : Bool
  deriving DecidableEq, Repr

structure ChapterSet where
  items : List ChapterItem := []
  warnings : List Warning := []
  deriving DecidableEq, Repr

/-- The lengths of the stream and of the container, where known and positive. -/
structure Durations where
  streamMs : Option Int
  formatMs : Option Int
  deriving DecidableEq, Repr

namespace Durations

def ofContainer (c : Container) : Durations where
  streamMs := c.streamDurationMs.filter (0 < ·)
  formatMs := c.durationMs.filter (0 < ·)

def totalMs (d : Durations) : Option Int := d.formatMs <|> d.streamMs

/-- Whether a declared end can be believed. -/
def accepts (d : Durations) (next : Option Int) (stop : Int) : Bool :=
  0 < stop && d.totalMs.all (stop ≤ ·) && next.all (stop ≤ ·)

/-- Where an item ends that starts at `start`, next to one that starts at `next`. -/
def correctEnd (d : Durations) (start : Int) (declared next : Option Int) : Int :=
  (declared.filter (d.accepts next)).getD
    ((next <|> d.streamMs <|> d.formatMs).getD start)

end Durations

namespace ChapterContext

/-- The last description of a book that is not blank. -/
def description? (entries : List Entry) : Option String :=
  (entries.filterMap fun e =>
    if Vocabulary.canonicalKey e.key = "DESCRIPTION" then Text.present? e.value
    else none).getLast?

def albumScope (ctx : ChapterContext) : Scope :=
  if Resource.isAudiobook ctx.resource then .container else .album

/-- What an audiobook's tag is made to say: the title stands in for a missing album, and the
description for the comment. -/
def asBook (entries : List Entry) (t : Tag) : Tag :=
  let t := if t.album.isEmpty then { t with album := t.title } else t
  match description? entries with
  | some d => { t with comment := d }
  | none => t

/-- The tag that all items of a container share. -/
def albumTag (ctx : ChapterContext) (c : Container) : Tag :=
  let t := Tag.empty.normalize ctx.separators ctx.albumScope c.metadata
  let t := if Resource.isAudiobook ctx.resource then asBook c.metadata t else t
  let t := match c.firstAudio? with
    | some stream => t.applyFacts stream.facts
    | none => t
  { t with art := c.art }

def albumWarnings (ctx : ChapterContext) (c : Container) : List Warning :=
  ctx.separators.warnings ctx.albumScope c.metadata

/-- The chapters that become items, with their place among all. -/
def emitted (c : Container) : List (Chapter × Nat) :=
  c.chapters.zipIdx.filter fun p => 0 ≤ p.1.start

/-- How long a chapter was declared to be, if that is shorter than chapters should be. -/
def tinyDuration? (ctx : ChapterContext) (chapter : Chapter) : Option Int :=
  match chapter.stopMs with
  | some stop =>
    let ms := stop - chapter.startMs
    if 0 ≤ stop ∧ ms < ctx.settings.minChapterMs then some ms else none
  | none => none

/-- The tag of the item with a given number, apart from its times. -/
def itemTag (ctx : ChapterContext) (album : Tag) (number : Nat) (chapter : Chapter) : Tag :=
  let t := { album with title := "" }.normalize ctx.separators .chapter chapter.metadata
  if t.title.isEmpty then { t with title := ctx.strings.chapterTitle number } else t

/-- The reference to the container's picture, if its items show one. -/
def thumbnail? (ctx : ChapterContext) (c : Container) : Option String :=
  if c.hasChapters && ctx.settings.thumbnails then
    some (Resource.pictureUrl ctx.resource Resource.musicArt)
  else none

/-- The item for one emitted chapter, next to one that starts at `next`. -/
def item (ctx : ChapterContext) (c : Container) (album : Tag) (number : Nat) (chapter : Chapter)
    (next : Option Int) : ChapterItem :=
  let start := chapter.startMs
  let stop := (Durations.ofContainer c).correctEnd start chapter.stopMs next
  let tag := (({ ctx.itemTag album number chapter with
    trackNumber := min number Text.maxCount
    duration := min ((max (stop - start) 0) / 1000).toNat Text.maxCount } : Tag)).finish
  let anomalous := (ctx.tinyDuration? chapter).isSome
  { tag
    startMs := start
    endMs := stop
    bookmarkMs := start
    thumbnail := if anomalous then none else ctx.thumbnail? c
    label := Text.twoDigits number ++ ". " ++ tag.album ++ " - " ++ tag.title
    anomalous }

/-- The warnings about one emitted chapter. -/
def itemWarnings (ctx : ChapterContext) (chapter : Chapter) (index : Nat) : List Warning :=
  (ctx.tinyDuration? chapter).toList.map (.anomalousChapterDuration index) ++
    ctx.separators.warnings .chapter chapter.metadata

/-- One item for each chapter that does not start before zero. -/
def synthesize (ctx : ChapterContext) (c : Container) (album : Tag) : ChapterSet :=
  let kept := emitted c
  { items := kept.mapIdx fun i p =>
      ctx.item c album (i + 1) p.1 (kept[i + 1]?.map fun q => q.1.startMs)
    warnings := kept.flatMap fun p => ctx.itemWarnings p.1 p.2 }

/-- The items of a container, none unless it has at least two chapters. -/
def chapterSet (ctx : ChapterContext) (c : Container) : ChapterSet :=
  if c.hasChapters then
    let set := ctx.synthesize c (ctx.albumTag c)
    { set with warnings := ctx.albumWarnings c ++ set.warnings }
  else {}

end ChapterContext

end MediaTags
