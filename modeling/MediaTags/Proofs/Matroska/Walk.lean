import MediaTags.Matroska.Info
import MediaTags.Proofs.Matroska.Guarded
import MediaTags.Proofs.Matroska.Routing
import MediaTags.Proofs.Matroska.SeekHead

/-!
# The walk keeps within bounds

The whole walk is done under guard, each element with those that it lies in. No guard is ever hit,
whatever the file holds and however long it is said to be.
-/

namespace MediaTags.Matroska

namespace Guarded

/-! ## Seek heads -/

def readSeekPart (file : Bytes) :
    Option Nat × Option Nat → Spot → Except Halt (Option Nat × Option Nat)
  | (id, offset), child =>
    match child.element.id with
    | Id.seekId => do
      let bs ← payload file child
      if bs.length ≤ 4 then (bigEndian UInt32.size bs).map fun n => (some n, offset)
      else .ok (id, offset)
    | Id.seekPosition => (uint file child).map fun n => (id, some n)
    | _ => .ok (id, offset)

def readSeek (file : Bytes) (s : Spot) : Except Halt (Option Seek) := do
  let (id, offset) ← visitChildren file s (readSeekPart file) (none, none)
  match id, offset with
  | some id, some offset => return some ⟨id, offset⟩
  | _, _ => return none

def readHead (file : Bytes) (s : Spot) : Except Halt (List Seek) :=
  (readAll file s Id.seek (readSeek file)).map fun found => found.filterMap fun s => s

/-- An entry leads nowhere if there is a fault in the header that it leads to. -/
def target? (file : Bytes) (segment : Spot) (s : Seek) : Except Halt (Option Element) :=
  match (checkedAdd? segment.element.dataStart s.offset).filter (· < segment.element.stop) with
  | none => .ok none
  | some pos =>
    match header file pos segment.element.stop with
    | .ok e => .ok (if e.id = s.id then some e else none)
    | .error (.fault _) => .ok none
    | .error h => .error h

/-! ## Sections -/

def readDurationPart (file : Bytes) :
    Nat × Option Float → Spot → Except Halt (Nat × Option Float)
  | (scale, duration), child =>
    match child.element.id with
    | Id.timecodeScale => (uint file child).map fun n => (n, duration)
    | Id.duration => (float file child).map fun d => (scale, some d)
    | _ => .ok (scale, duration)

def readDuration (file : Bytes) (s : Spot) : Except Halt (Option Int) := do
  let (scale, duration) ←
    visitChildren file s (readDurationPart file) (defaultTimecodeScale, none)
  return duration.bind (microseconds? scale)

def readAudio (file : Bytes) (t : Track) (s : Spot) : Except Halt Track :=
  match s.element.id with
  | Id.samplingFrequency =>
    (float file s).map fun r => { t with sampleRate := Track.sampleRateOf? r }
  | Id.channels => (uint file s).map fun n => { t with channels := Track.count? n }
  | Id.bitDepth => (uint file s).map fun n => { t with bitDepth := Track.count? n }
  | _ => .ok t

def readTrackChild (file : Bytes) (t : Track) (s : Spot) : Except Halt Track :=
  match s.element.id with
  | Id.trackNumber => (uint file s).map fun n => { t with number := n }
  | Id.trackUid => (uint file s).map fun n => { t with uid := n }
  | Id.trackType => (uint file s).map fun n => { t with trackType := some n }
  | Id.codecId => (text file s).map fun name => { t with codecId := name }
  | Id.codecPrivate => (payload file s).map fun bs => { t with codecPrivate := some bs.toArray }
  | Id.name => (text file s).map fun name => { t with name := some name }
  | Id.audio => visitChildren file s (readAudio file) t
  | _ => .ok t

def readTrack (file : Bytes) (s : Spot) : Except Halt Track :=
  visitChildren file s (readTrackChild file) {}

def readTarget (file : Bytes) (s : Spot) : Except Halt TargetPart :=
  match s.element.id with
  | Id.targetType => (text file s).map .targetType
  | Id.tagTrackUid => (uint file s).map .track
  | Id.tagChapterUid => (uint file s).map .chapter
  | Id.tagEditionUid => (uint file s).map .other
  | Id.tagAttachmentUid => (uint file s).map .other
  | _ => .ok .ignored

def readSimplePart (file : Bytes) :
    Option String × Option String → Spot → Except Halt (Option String × Option String)
  | (name, value), child =>
    match child.element.id with
    | Id.tagName => (text file child).map fun s => (some s, value)
    | Id.tagString => (text file child).map fun s => (name, some s)
    | _ => .ok (name, value)

def readSimple (file : Bytes) (s : Spot) : Except Halt (Option Entry) := do
  let (name, value) ← visitChildren file s (readSimplePart file) (none, none)
  match name, value with
  | some name, some value => return if name.isEmpty then none else some ⟨name, value⟩
  | _, _ => return none

def readTagPart (file : Bytes) (s : Spot) : Except Halt TagPart :=
  match s.element.id with
  | Id.targets => (readEach file s (readTarget file)).map .targets
  | Id.simpleTag => (readSimple file s).map .entry
  | _ => .ok .ignored

def readTag (file : Bytes) (s : Spot) : Except Halt TagElement :=
  (readEach file s (readTagPart file)).map .ofParts

def readDisplay (file : Bytes) (a : Atom) (s : Spot) : Except Halt Atom :=
  if s.element.id = Id.chapString ∧ a.title = none then
    (text file s).map fun title => { a with title := some title }
  else .ok a

def readAtomChild (file : Bytes) (a : Atom) (s : Spot) : Except Halt Atom :=
  match s.element.id with
  | Id.chapterUid => (uint file s).map fun n => { a with uid := n }
  | Id.chapterTimeStart => (uint file s).map fun n => { a with start := n }
  | Id.chapterTimeEnd => (uint file s).map fun n => { a with stop := some n }
  | Id.chapterFlagHidden => (uint file s).map fun n => { a with hidden := n != 0 }
  | Id.chapterFlagEnabled => (uint file s).map fun n => { a with enabled := n != 0 }
  | Id.chapterDisplay =>
    if a.title = none then visitChildren file s (readDisplay file) a else .ok a
  | _ => .ok a

def readAtom (file : Bytes) (s : Spot) : Except Halt Atom :=
  visitChildren file s (readAtomChild file) {}

def readFlag (file : Bytes) (isDefault : Bool) (child : Spot) : Except Halt Bool :=
  if child.element.id = Id.editionFlagDefault then (uint file child).map (· != 0)
  else .ok isDefault

def readEdition (file : Bytes) (s : Spot) : Except Halt Edition :=
  (visitChildren file s (readFlag file) false).map fun isDefault => ⟨s.element, isDefault⟩

def readAtoms (file : Bytes) (chapters : Spot) : Except Halt (List Atom) := do
  let editions ← readAll file chapters Id.editionEntry (readEdition file)
  match Edition.choose? editions with
  | none => return []
  | some edition =>
    let atoms ← readAll file (chapters.child edition.element) Id.chapterAtom (readAtom file)
    return Atom.keep atoms

/-! ## The segment -/

def readSegment (file : Bytes) (len : Nat) : Except Halt Element := do
  let head ← header file 0 len
  if head.id ≠ Id.ebml then throw (.fault .missingHeader)
  let segment ← header file head.stop len
  if segment.id ≠ Id.segment then throw (.fault .missingSegment)
  return segment

/-- Note the elements in front of the first cluster, and read the seek heads among them. -/
def readFront (file : Bytes) (segment : Spot) :
    Except Halt (List Element × List (Option (List Seek))) :=
  (readUntil file (fun e => e.id == Id.cluster) segment fun c =>
    (readIf Id.seekHead (readHead file) c).map (c.element, ·)).map List.unzip

def readSections (file : Bytes) (segment : Spot) : Except Halt (List Element) := do
  let (front, heads) ← readFront file segment
  let sought ← (heads.filterMap id).flatten.mapM (target? file segment)
  return front ++ sought.filterMap id

def readSection {α : Type} (segment : Spot) (sections : List Element) (wanted : Nat)
    (read : Spot → Except Halt α) : Except Halt (Option α) :=
  match sections.find? (fun e => e.id == wanted) with
  | some e => (read (segment.child e)).map some
  | none => .ok none

def readInfo (file : Bytes) (len : Nat) : Except Halt Info := do
  let element ← readSegment file len
  let segment : Spot := ⟨element, []⟩
  let sections ← readSections file segment
  let durationUs ← readSection segment sections Id.info (readDuration file)
  let tracks ← readSection segment sections Id.tracks fun s =>
    readAll file s Id.trackEntry (readTrack file)
  let tags ← readSection segment sections Id.tags fun s => readAll file s Id.tag (readTag file)
  let atoms ← readSection segment sections Id.chapters (readAtoms file)
  let routed := tags.getD []
  return {
    tracks := (tracks.getD []).map fun t =>
      { t with tags := routed.flatMap (TagElement.trackEntries t.uid) }
    chapters := (atoms.getD []).map fun a =>
      a.toChapter (routed.flatMap (TagElement.chapterEntries a.uid))
    tags := routed.flatMap TagElement.globalEntries
    hasTags := tags.isSome
    durationUs := durationUs.join }

/-! ## No guard is hit -/

section Values

variable {file : Bytes} {s : Spot}

theorem readSeekPart_agrees (found : Option Nat × Option Nat) (hs : s.Nested) :
    Agrees .fault (readSeekPart file found s) (Seek.readPart file found s.element) := by
  obtain ⟨id, offset⟩ := found
  unfold readSeekPart Seek.readPart
  dsimp only
  generalize s.element.id = n
  split
  · refine (payload_agrees hs).bind_map fun bs _ => ?_
    split
    · next hwidth =>
      have hlimit : 256 ^ bs.length ≤ UInt32.size :=
        (Nat.pow_le_pow_right (by decide) hwidth).trans (by decide)
      rw [bigEndian_eq hlimit]
      rfl
    · rfl
  · exact (uint_agrees hs).map _
  · simp [*]

theorem readDurationPart_agrees (found : Nat × Option Float) (hs : s.Nested) :
    Agrees .fault (readDurationPart file found s)
      (Matroska.readDurationPart file found s.element) := by
  obtain ⟨scale, duration⟩ := found
  unfold readDurationPart Matroska.readDurationPart
  dsimp only
  generalize s.element.id = n
  split
  · exact (uint_agrees hs).map _
  · exact (float_agrees hs).map _
  · simp [*]

theorem readSimplePart_agrees (found : Option String × Option String) (hs : s.Nested) :
    Agrees .fault (readSimplePart file found s)
      (TagElement.readSimplePart file found s.element) := by
  obtain ⟨name, value⟩ := found
  unfold readSimplePart TagElement.readSimplePart
  dsimp only
  generalize s.element.id = n
  split
  · exact (text_agrees hs).map _
  · exact (text_agrees hs).map _
  · simp [*]

theorem readFlag_agrees (isDefault : Bool) (hs : s.Nested) :
    Agrees .fault (readFlag file isDefault s) (Edition.readFlag file isDefault s.element) := by
  unfold readFlag Edition.readFlag
  split
  · exact (uint_agrees hs).map _
  · exact .ok _ _

theorem readAudio_agrees (t : Track) (hs : s.Nested) :
    Agrees .fault (readAudio file t s) (Track.readAudio file t s.element) := by
  unfold readAudio Track.readAudio
  generalize s.element.id = n
  split
  · exact (float_agrees hs).map _
  · exact (uint_agrees hs).map _
  · exact (uint_agrees hs).map _
  · simp [*]

theorem readTarget_agrees (hs : s.Nested) :
    Agrees .fault (readTarget file s) (TargetPart.read file s.element) := by
  unfold readTarget TargetPart.read
  generalize s.element.id = n
  split
  · exact (text_agrees hs).map _
  · exact (uint_agrees hs).map _
  · exact (uint_agrees hs).map _
  · exact (uint_agrees hs).map _
  · exact (uint_agrees hs).map _
  · simp [*]

theorem readDisplay_agrees (a : Atom) (hs : s.Nested) :
    Agrees .fault (readDisplay file a s) (Atom.readDisplay file a s.element) := by
  rw [readDisplay, Atom.readDisplay]
  split
  · exact (text_agrees hs).map _
  · exact .ok _ a

end Values

section Segment

variable {file : Bytes} {s : Spot}

/-- The chosen edition is one of the children that were read. -/
theorem mem_of_choose? {parent : Element} {editions : List Edition} {edition : Edition}
    (h : (children file parent).readAll Id.editionEntry (Edition.read file) = .ok editions)
    (hchosen : Edition.choose? editions = some edition) :
    edition.element ∈ (children file parent).elements := by
  have hmem : edition ∈ editions := by
    rw [Edition.choose?, Option.orElse_eq_orElse, Option.orElse_eq_or, Option.or_eq_some_iff]
      at hchosen
    obtain hfind | ⟨-, hhead⟩ := hchosen
    · exact List.mem_of_find?_eq_some hfind
    · exact List.mem_of_head? hhead
  obtain ⟨e, he, hread⟩ := exists_of_mem_forall₂ (Children.readAll_eq_ok.1 h).2.flip hmem
  obtain ⟨isDefault, -, rfl⟩ := map_eq_ok.1 hread
  exact List.mem_of_mem_filter he

theorem stop_le_of_readSegment {len : Nat} {segment : Element}
    (h : Matroska.readSegment file len = .ok segment) : segment.stop ≤ len := by
  obtain ⟨head, -, h⟩ := bind_eq_ok.1 h
  split at h
  · cases h
  · obtain ⟨e, he, h⟩ := bind_eq_ok.1 h
    split at h
    · cases h
    · cases h
      exact (header_bounds he).2.2

/-- Every section lies in the segment, also one that a seek entry leads to. -/
theorem nested_of_readSections (hs : s.Nested) {sections : List Element}
    (h : Matroska.readSections file s.element = .ok sections) :
    ∀ e ∈ sections, (s.child e).Nested := by
  obtain ⟨seeks, -, hsections⟩ := bind_eq_ok.1 h
  cases hsections
  intro e he
  rcases List.mem_append.1 he with hfront | hsought
  · exact hs.child_of_mem hfront
  · obtain ⟨seek, -, htarget⟩ := List.mem_filterMap.1 hsought
    obtain ⟨hpos, hheader, -⟩ := Seek.target?_eq_some.1 htarget
    exact hs.child (Nat.le_add_right ..) (startsAt_of_header hpos hheader)

theorem readSection_agrees {α : Type} {sections : List Element}
    (hsections : ∀ e ∈ sections, (s.child e).Nested) (wanted : Nat)
    {read : Spot → Except Halt α} {plain : Element → Except Fault α}
    (hread : ∀ c, c.Nested → Agrees .fault (read c) (plain c.element)) :
    Agrees .fault (readSection s sections wanted read)
      (Matroska.readSection sections wanted plain) := by
  rw [readSection, Matroska.readSection]
  cases hfind : sections.find? (fun e => e.id == wanted) with
  | none => exact .ok _ _
  | some e => exact (hread _ (hsections e (List.mem_of_find?_eq_some hfind))).map some

end Segment

section Agreement

variable {file : Bytes} (hfile : file.size < UInt64.size) {s : Spot}

include hfile

theorem readSeek_agrees (hs : s.Nested) :
    Agrees .fault (readSeek file s) (Seek.read file s.element) := by
  refine (visitChildren_agrees hfile hs (fun found _ hc => readSeekPart_agrees found hc) _).bind
    fun found _ => ?_
  obtain ⟨_ | id, _ | offset⟩ := found <;> exact .ok _ _

theorem readHead_agrees (hs : s.Nested) :
    Agrees .fault (readHead file s) (Seek.readHead file s.element) :=
  (readAll_agrees hfile hs (fun _ hc => readSeek_agrees hfile hc) _).map _

theorem readDuration_agrees (hs : s.Nested) :
    Agrees .fault (readDuration file s) (Matroska.readDuration file s.element) :=
  (visitChildren_agrees hfile hs (fun found _ hc => readDurationPart_agrees found hc) _).bind
    fun _ _ => .ok _ _

theorem readTrackChild_agrees (t : Track) (hs : s.Nested) :
    Agrees .fault (readTrackChild file t s) (Track.readChild file t s.element) := by
  unfold readTrackChild Track.readChild
  generalize s.element.id = n
  split
  · exact (uint_agrees hs).map _
  · exact (uint_agrees hs).map _
  · exact (uint_agrees hs).map _
  · exact (text_agrees hs).map _
  · exact (payload_agrees hs).map _
  · exact (text_agrees hs).map _
  · exact visitChildren_agrees hfile hs (fun t _ hc => readAudio_agrees t hc) t
  · simp [*]

theorem readTrack_agrees (hs : s.Nested) :
    Agrees .fault (readTrack file s) (Track.read file s.element) :=
  visitChildren_agrees hfile hs (fun t _ hc => readTrackChild_agrees hfile t hc) {}

theorem readSimple_agrees (hs : s.Nested) :
    Agrees .fault (readSimple file s) (TagElement.readSimple file s.element) := by
  refine (visitChildren_agrees hfile hs (fun found _ hc => readSimplePart_agrees found hc) _).bind
    fun found _ => ?_
  obtain ⟨_ | name, _ | value⟩ := found <;> exact .ok _ _

theorem readTagPart_agrees (hs : s.Nested) :
    Agrees .fault (readTagPart file s) (TagElement.readPart file s.element) := by
  unfold readTagPart TagElement.readPart
  generalize s.element.id = n
  split
  · exact (readEach_agrees hfile hs fun _ hc => readTarget_agrees hc).map _
  · exact (readSimple_agrees hfile hs).map _
  · simp [*]

theorem readTag_agrees (hs : s.Nested) :
    Agrees .fault (readTag file s) (TagElement.read file s.element) :=
  (readEach_agrees hfile hs fun _ hc => readTagPart_agrees hfile hc).map _

theorem readAtomChild_agrees (a : Atom) (hs : s.Nested) :
    Agrees .fault (readAtomChild file a s) (Atom.readChild file a s.element) := by
  unfold readAtomChild Atom.readChild
  generalize s.element.id = n
  split
  · exact (uint_agrees hs).map _
  · exact (uint_agrees hs).map _
  · exact (uint_agrees hs).map _
  · exact (uint_agrees hs).map _
  · exact (uint_agrees hs).map _
  · have hdisplay : Agrees Halt.fault
        (if a.title = none then visitChildren file s (readDisplay file) a else .ok a)
        (if a.title = none then (children file s.element).foldlM (Atom.readDisplay file) a
          else .ok a) := by
      split
      · exact visitChildren_agrees hfile hs (fun a _ hc => readDisplay_agrees a hc) a
      · exact .ok _ a
    exact hdisplay
  · simp [*]

theorem readAtom_agrees (hs : s.Nested) :
    Agrees .fault (readAtom file s) (Atom.read file s.element) :=
  visitChildren_agrees hfile hs (fun a _ hc => readAtomChild_agrees hfile a hc) {}

theorem readEdition_agrees (hs : s.Nested) :
    Agrees .fault (readEdition file s) (Edition.read file s.element) :=
  (visitChildren_agrees hfile hs (fun isDefault _ hc => readFlag_agrees isDefault hc) false).map _

theorem readAtoms_agrees (hs : s.Nested) :
    Agrees .fault (readAtoms file s) (Edition.readAtoms file s.element) := by
  refine (readAll_agrees hfile hs (fun _ hc => readEdition_agrees hfile hc) _).bind
    fun editions heditions => ?_
  cases hchosen : Edition.choose? editions with
  | none => exact .ok _ []
  | some edition =>
    have hedition : (s.child edition.element).Nested :=
      hs.child_of_mem (mem_of_choose? heditions hchosen)
    exact (readAll_agrees hfile hedition (fun _ hc => readAtom_agrees hfile hc) _).bind
      fun atoms _ => .ok _ _

/-! ## The segment -/

theorem target?_eq_ok {segment : Spot} (hsegment : segment.Nested) (seek : Seek) :
    target? file segment seek = .ok (seek.target? file segment.element) := by
  have hstop := hsegment.stop_lt
  have hbound (k : Nat) (hk : decide (k < segment.element.stop)) : k < UInt64.size :=
    (of_decide_eq_true hk).trans hstop
  rw [target?, Seek.target?, filter_checkedAdd? hbound]
  by_cases hpos : segment.element.dataStart + seek.offset < segment.element.stop
  · rw [if_pos (decide_eq_true hpos), if_pos hpos]
    dsimp only
    rw [header_agrees hfile _ hstop]
    cases Matroska.header file (segment.element.dataStart + seek.offset) segment.element.stop <;>
      rfl
  · rw [if_neg (by simpa using hpos), if_neg hpos]

theorem readSegment_agrees {len : Nat} (hlen : len < UInt64.size) :
    Agrees .fault (readSegment file len) (Matroska.readSegment file len) := by
  refine (header_agrees hfile 0 hlen).bind fun head _ => ?_
  split
  · rfl
  · refine (header_agrees hfile head.stop hlen).bind fun segment _ => ?_
    split <;> rfl

theorem readFront_agrees (hs : s.Nested) {front : Children}
    (hfront : childrenUntil file (fun e => e.id == Id.cluster) s.element = front) :
    Agrees .fault (readFront file s) ((front.mapM
      (Children.readIf Id.seekHead (Seek.readHead file))).map (front.elements, ·)) := by
  have hhead := readIf_agrees (fun _ hc => readHead_agrees hfile hc) Id.seekHead
  rw [← Children.mapM_pair, ← hfront]
  exact (readUntil_agrees hfile hs fun c hc => (hhead c hc).map (c.element, ·)).map List.unzip

theorem readSections_agrees (hs : s.Nested) :
    Agrees .fault (readSections file s) (Matroska.readSections file s.element) := by
  have hsought (seeks : List Seek) :
      seeks.mapM (target? file s) = .ok (seeks.map (Seek.target? file s.element)) := by
    rw [funext (target?_eq_ok hfile hs)]
    exact List.mapM_pure ..
  rw [readSections, Matroska.readSections, Children.readAll_eq]
  generalize hfront : childrenUntil file (fun e => e.id == Id.cluster) s.element = front
  rw [readFront_agrees hfile hs hfront]
  cases front.mapM (Children.readIf Id.seekHead (Seek.readHead file)) with
  | error f => rfl
  | ok heads =>
    dsimp only [Except.map, Except.mapError, bind, Except.bind]
    rw [hsought]
    simp [Agrees, Except.mapError, pure, Except.pure, List.filterMap_map]

theorem readInfo_agrees {len : Nat} (hlen : len < UInt64.size) :
    Agrees .fault (readInfo file len) (Matroska.readInfo file len) := by
  refine (readSegment_agrees hfile hlen).bind fun segment hsegment => ?_
  have hstop := stop_le_of_readSegment hsegment
  have hs : (⟨segment, []⟩ : Spot).Nested := ⟨hstop.trans_lt hlen, by simp⟩
  refine (readSections_agrees hfile hs).bind fun sections hsections => ?_
  have hnested := nested_of_readSections hs hsections
  refine (readSection_agrees hnested _ fun _ hc => readDuration_agrees hfile hc).bind
    fun durationUs _ => ?_
  refine (readSection_agrees hnested _ fun _ hc =>
    readAll_agrees hfile hc (fun _ hc => readTrack_agrees hfile hc) _).bind fun tracks _ => ?_
  refine (readSection_agrees hnested _ fun _ hc =>
    readAll_agrees hfile hc (fun _ hc => readTag_agrees hfile hc) _).bind fun tags _ => ?_
  exact (readSection_agrees hnested _ fun _ hc => readAtoms_agrees hfile hc).bind
    fun atoms _ => .ok _ _

end Agreement

end Guarded

/-- A header leads forward to an element that ends behind it and within its parent. The children of
any element tile its payload, and are no more than it has bytes. The walk under guard is the plain
one: no number leaves its type, each payload lies in its element and in all those around it, and
each loop ends in as many steps as there are bytes between its ends. -/
theorem walk_contained (file : Bytes) (len : UInt64) (hfile : file.size < UInt64.size) :
    (∀ pos parentStop e, pos < parentStop → header file pos parentStop = .ok e →
      pos < e.dataStart ∧ pos < e.stop ∧ e.stop ≤ parentStop) ∧
    (∀ last parent, (childrenUntil file last parent).elements.length
        ≤ parent.stop - parent.dataStart ∧
      ∃ p, Tiles (StartsAt file parent.stop) Element.stop parent.dataStart
          (childrenUntil file last parent).elements p ∧
        EndsAt file last parent.dataStart parent.stop p (childrenUntil file last parent).fault) ∧
    Guarded.readInfo file len.toNat = (readInfo file len.toNat).mapError .fault := by
  refine ⟨fun pos parentStop e hpos he => ?_, fun last parent => ?_, ?_⟩
  · have hstarts := startsAt_of_header hpos he
    exact ⟨hstarts.lt_dataStart, hstarts.lt_stop, hstarts.stop_le⟩
  · exact ⟨length_childrenUntil_le file last parent, tiles_childrenUntil file last parent⟩
  · exact Guarded.readInfo_agrees hfile len.toNat_lt

namespace Straddling

open LiveSet (element)

/-- An element without a size. -/
def unsized (id : Nat) : List UInt8 := idBytes id ++ [0xFF]

/-- A seek entry that would lead behind the largest position. -/
def seekHead : List UInt8 :=
  element Id.seekHead (element Id.seek (element Id.seekId (idBytes Id.tags) ++
    element Id.seekPosition (Bytes.ofNumber 8 (UInt64.size - 1))))

def file : Bytes :=
  (element Id.ebml [] ++ unsized Id.segment ++ seekHead ++ unsized Id.chapters ++
    unsized Id.editionEntry ++ unsized Id.chapterAtom ++ unsized Id.chapterUid).toArray

/-- The file is said to end within its last header. -/
def len : UInt64 := 47

def atom : Element := ⟨Id.chapterAtom, 46, 47⟩

def uid : Element := ⟨Id.chapterUid, 49, 47⟩

end Straddling

open Straddling in
/-- The last element of this file has no size, and ends before its payload starts; its number is
zero. The seek entry leads nowhere. -/
theorem walk_contained_straddling :
    file.size < UInt64.size ∧ uid.stop < uid.dataStart ∧
    children file atom = ⟨[uid], none⟩ ∧
    (∃ p, Tiles (StartsAt file atom.stop) Element.stop atom.dataStart [uid] p ∧
      EndsAt file (fun _ => false) atom.dataStart atom.stop p none) ∧
    Atom.read file atom = .ok {} ∧ Guarded.readInfo file len.toNat = .ok {} := by
  have hsize : file.size < UInt64.size := by decide +kernel
  have hchildren : children file atom = ⟨[uid], none⟩ := by decide +kernel
  have hread : readInfo file len.toNat = .ok {} := by decide +kernel
  obtain ⟨-, htiles, hguarded⟩ := walk_contained file len hsize
  obtain ⟨-, hatom⟩ := htiles (fun _ => false) atom
  rw [← children, hchildren] at hatom
  refine ⟨hsize, by decide, hchildren, hatom, by decide +kernel, ?_⟩
  rw [hguarded, hread]
  rfl

end MediaTags.Matroska
