import MediaTags.IsoMedia.Nero

/-!
# The chapters of an MP4 file

The chapter track that some track refers to goes before the list in the user data. The list is
used when there is no such track or it has no chapters.
-/

namespace MediaTags.IsoMedia

/-- What the movie atom holds about chapters. -/
structure Movie where
  tracks : List Track := []
  listed : List Chapter := []
  deriving DecidableEq, Repr

namespace Movie

def readChild (file : Bytes) (m : Movie) (a : Atom) : Except Fault Movie := do
  if a.isKind "trak" then
    return { m with tracks := m.tracks ++ [← Track.read file a] }
  else if a.isKind "udta" then
    match (← a.children file).find? (Atom.isKind "chpl") with
    | some chpl => return { m with listed := Nero.chapters (← chpl.payload file) }
    | none => return m
  else return m

def read (file : Bytes) (moov : Atom) : Except Fault Movie := do
  (← moov.children file).foldlM (readChild file) {}

/-- The track that the first reference names. -/
def chapterTrack? (m : Movie) : Option Track :=
  match (m.tracks.flatMap Track.chapterRefs).find? (· != 0) with
  | some id => m.tracks.find? (fun t => t.id == id)
  | none => none

end Movie

/-- Read the chapters of a file that is said to be `len` bytes long. -/
def readChapters (file : Bytes) (len : Nat) : Except (Abort Fault) (List Chapter) := do
  let top ← (atoms file 0 len).mapError .failure
  match top.find? (Atom.isKind "moov") with
  | none => return []
  | some moov =>
    let movie ← (Movie.read file moov).mapError .failure
    match movie.chapterTrack? with
    | some track =>
      let chapters ← track.chapters file
      return if chapters.isEmpty then movie.listed else chapters
    | none => return movie.listed

end MediaTags.IsoMedia
