import MediaTags.Proofs.Matroska.Alone
import MediaTags.Proofs.Matroska.SeekHead

/-!
# Where a section lies does not matter

A section is found in front of the first cluster, or behind it through a seek head. Its bytes are
the same in both places, and so is what is read from them. Entries that lead nowhere, or to a
section that was found before, change nothing.
-/

namespace MediaTags.Matroska

/-! ## The front of a segment -/

/-- The front of a segment that stops at `stop` ends at `pos`, with the segment or at a cluster. -/
def FrontEnds (file : Bytes) (pos stop : Nat) : Prop :=
  pos = stop ∨ pos < stop ∧ ∃ e, header file pos stop = .ok e ∧ e.id = Id.cluster

theorem FrontEnds.le {file : Bytes} {pos stop : Nat} (h : FrontEnds file pos stop) :
    pos ≤ stop := by
  obtain rfl | ⟨hlt, -⟩ := h
  · exact le_rfl
  · exact hlt.le

/-- The nodes in front of the first cluster are listed one after the other. -/
theorem childrenFrom_front {file : Bytes} {stop : Nat} {ns : List Node} {pos : Nat}
    (done : List Element) (h : file.Holds pos (ns.flatMap Node.bytes))
    (hcluster : ∀ n ∈ ns, n.id ≠ Id.cluster)
    (hends : FrontEnds file (pos + (ns.flatMap Node.bytes).length) stop) :
    childrenFrom file (fun e => e.id == Id.cluster) stop done pos =
      ⟨done.reverse ++ Node.placeAll pos ns, none⟩ := by
  induction ns generalizing pos done with
  | nil =>
    have hends : FrontEnds file pos stop := hends
    have hnil : done.reverse ++ Node.placeAll pos [] = done.reverse := List.append_nil _
    rw [hnil]
    obtain rfl | ⟨hlt, e, he, hid⟩ := hends
    · exact childrenFrom_of_le done le_rfl
    · rw [childrenFrom_of_ok done hlt he, if_pos (beq_iff_eq.2 hid)]
  | cons n ns ih =>
    rw [List.flatMap_cons] at h hends
    rw [List.length_append, ← Nat.add_assoc] at hends
    have hle := hends.le
    have hpos := n.length_bytes_pos
    have hhead : header file pos stop = .ok (n.place pos) := Node.header_place h.left (by omega)
    have hlast : ¬ ((n.place pos).id == Id.cluster) = true := fun heq =>
      hcluster n (by simp) (beq_iff_eq.1 heq)
    have hrest : childrenFrom file (fun e => e.id == Id.cluster) stop (n.place pos :: done)
        (n.place pos).stop = ⟨(n.place pos :: done).reverse ++ Node.placeAll (n.place pos).stop ns,
          none⟩ :=
      ih (n.place pos :: done) h.right (fun m hm => hcluster m (by simp [hm])) hends
    rw [childrenFrom_of_ok done (by omega) hhead, if_neg hlast, hrest]
    simp [Node.placeAll]

theorem id_of_find? {ι : Type} {idOf : ι → Nat} {id : Nat} {xs : List ι} {x : ι}
    (h : xs.find? (fun y => idOf y == id) = some x) : idOf x = id := by
  simpa using List.find?_some h

/-- How the sections of a segment lie in a file. Those that do not stand in front of the first
cluster are given by seek heads there. -/
structure Arrangement (file : Bytes) (segment : Element) (sections : List Node) where
  /-- What stands in front of the first cluster. -/
  front : List Node
  /-- The entries of each seek head in front. -/
  heads : List (List Seek)
  holds : file.Holds segment.dataStart (front.flatMap Node.bytes)
  ends : FrontEnds file (segment.dataStart + (front.flatMap Node.bytes).length) segment.stop
  clusters : ∀ n ∈ front, n.id ≠ Id.cluster
  seekHeads : Each Node.id Id.seekHead Node.WritesSeekHead front heads
  distinct : (sections.map Node.id).Nodup
  /-- There are no other sections in front. -/
  known : ∀ n ∈ front, n.id ∈ sectionIds → n ∈ sections
  found : ∀ n ∈ sections, n ∈ front ∨ ∃ s ∈ heads.flatten, Seek.LeadsTo file segment s n
  seeks : ∀ s ∈ heads.flatten,
    (∃ n ∈ sections, Seek.LeadsTo file segment s n) ∨ Seek.Stray file segment front s

namespace Arrangement

variable {file : Bytes} {segment : Element} {sections : List Node}

/-- The elements in which sections are looked for. -/
def elements (a : Arrangement file segment sections) : List Element :=
  Node.placeAll segment.dataStart a.front ++
    a.heads.flatten.filterMap (Seek.target? file segment)

theorem stores_front (a : Arrangement file segment sections) :
    List.Forall₂ (Stores file) (Node.placeAll segment.dataStart a.front) a.front :=
  Node.stores_placeAll a.holds

theorem readSections_eq (a : Arrangement file segment sections) :
    readSections file segment = .ok a.elements := by
  have hfront : childrenUntil file (fun e => e.id == Id.cluster) segment
      = ⟨Node.placeAll segment.dataStart a.front, none⟩ :=
    childrenFrom_front [] a.holds a.clusters a.ends
  have hheads : Children.readAll ⟨Node.placeAll segment.dataStart a.front, none⟩ Id.seekHead
      (Seek.readHead file) = .ok a.heads :=
    Children.readAll_eq_ok.2
      ⟨rfl, a.seekHeads.stored a.stores_front fun _ _ _ => Stores.readSeekHead⟩
  rw [readSections, hfront, hheads]
  rfl

theorem eq_of_id_eq (a : Arrangement file segment sections) {m n : Node} (hm : m ∈ sections)
    (hn : n ∈ sections) (hid : m.id = n.id) : m = n :=
  List.inj_on_of_nodup_map a.distinct hm hn hid

theorem find?_sections (a : Arrangement file segment sections) {n : Node} (hn : n ∈ sections) :
    sections.find? (·.id == n.id) = some n := by
  cases hfound : sections.find? (·.id == n.id) with
  | none => exact absurd (beq_self_eq_true n.id) (List.find?_eq_none.1 hfound n hn)
  | some m =>
    have hid : m.id = n.id := id_of_find? hfound
    rw [a.eq_of_id_eq (List.mem_of_find?_eq_some hfound) hn hid]

/-- What a seek entry leads to is a section, unless there is one of its kind in front. -/
theorem exists_section_of_target (a : Arrangement file segment sections) {e : Element}
    (he : e ∈ a.heads.flatten.filterMap (Seek.target? file segment)) (hid : e.id ∈ sectionIds)
    (hfront : ∀ n ∈ a.front, n.id ≠ e.id) :
    ∃ n ∈ sections, n.id = e.id ∧ Stores file e n := by
  obtain ⟨s, hs, htarget⟩ := List.mem_filterMap.1 he
  obtain ⟨n, hn, hleads⟩ | hstray := a.seeks s hs
  · rw [hleads.target?_eq] at htarget
    cases htarget
    exact ⟨n, hn, rfl, Node.stores_place hleads.holds⟩
  · exact absurd htarget (hstray.target?_ne hid hfront)

/-- A section that does not stand in front is found through a seek head. -/
theorem find?_behind (a : Arrangement file segment sections) {id : Nat} (hid : id ∈ sectionIds)
    (hfront : ∀ n ∈ a.front, n.id ≠ id) :
    Option.Rel (Stores file)
      ((a.heads.flatten.filterMap (Seek.target? file segment)).find? (·.id == id))
      (sections.find? (·.id == id)) := by
  cases hbehind : (a.heads.flatten.filterMap (Seek.target? file segment)).find? (·.id == id) with
  | some e =>
    have heid : e.id = id := id_of_find? hbehind
    obtain ⟨n, hn, hnid, hstores⟩ := a.exists_section_of_target
      (List.mem_of_find?_eq_some hbehind) (heid ▸ hid) (heid ▸ hfront)
    have hsections : sections.find? (·.id == id) = some n := heid ▸ hnid ▸ a.find?_sections hn
    rw [hsections]
    exact .some hstores
  | none =>
    cases hsections : sections.find? (·.id == id) with
    | none => exact .none
    | some n =>
      have hnid : n.id = id := id_of_find? hsections
      obtain hn | ⟨s, hs, hleads⟩ := a.found n (List.mem_of_find?_eq_some hsections)
      · exact absurd hnid (hfront n hn)
      · have hmem : n.place (segment.dataStart + s.offset) ∈
            a.heads.flatten.filterMap (Seek.target? file segment) :=
          List.mem_filterMap.2 ⟨s, hs, hleads.target?_eq⟩
        exact absurd (beq_iff_eq.2 hnid) (List.find?_eq_none.1 hbehind _ hmem)

/-- The first section of a kind that is found is the one that there is, wherever it lies. -/
theorem find?_elements (a : Arrangement file segment sections) {id : Nat}
    (hid : id ∈ sectionIds) :
    Option.Rel (Stores file) (a.elements.find? (·.id == id)) (sections.find? (·.id == id)) := by
  have hplaced : Option.Rel (Stores file)
      ((Node.placeAll segment.dataStart a.front).find? (·.id == id)) (a.front.find? (·.id == id)) :=
    find?_forall₂ a.stores_front fun e n h => by rw [h.id_eq]
  rw [elements, List.find?_append]
  cases hfound : a.front.find? (·.id == id) with
  | some m =>
    have hmid : m.id = id := id_of_find? hfound
    have hm : m ∈ sections := a.known m (List.mem_of_find?_eq_some hfound) (hmid ▸ hid)
    rw [hfound] at hplaced
    obtain ⟨e, he, hstores⟩ := exists_of_rel_some hplaced
    rw [he, ← hmid, a.find?_sections hm]
    exact .some hstores
  | none =>
    have hfront : ∀ n ∈ a.front, n.id ≠ id := fun n hn => by
      simpa using List.find?_eq_none.1 hfound n hn
    rw [hfound] at hplaced
    rw [eq_none_of_rel_none hplaced, Option.none_or]
    exact a.find?_behind hid hfront

end Arrangement

/-! ## Sections on their own -/

/-- The entries of a section of tracks. -/
def readTracks (file : Bytes) (e : Element) : Except Fault (List Track) :=
  (children file e).readAll Id.trackEntry (Track.read file)

/-- The tags of a section of tags. -/
def readTags (file : Bytes) (e : Element) : Except Fault (List TagElement) :=
  (children file e).readAll Id.tag (TagElement.read file)

theorem settles_readTracks {part file : Bytes} {d : Nat} (h : PartAt file d part) (e : Element) :
    Settles id (readTracks part e) (readTracks file (e.shift d)) := by
  simpa [readTracks] using (children_extends h e).readAll Id.trackEntry (settles_readTrack h)

theorem settles_readTags {part file : Bytes} {d : Nat} (h : PartAt file d part) (e : Element) :
    Settles id (readTags part e) (readTags file (e.shift d)) := by
  simpa [readTags] using (children_extends h e).readAll Id.tag (settles_readTag h)

namespace Node

/-- The payload of a node as a file of its own. -/
def alone (n : Node) : Bytes := n.payload.toArray

/-- The element that takes up all of the payload. -/
def whole (n : Node) : Element := ⟨n.id, 0, n.payload.length⟩

/-- The section cannot be read without bytes that follow it. -/
inductive RunsOut (n : Node) : Prop where
  | info (hid : n.id = Id.info) (h : readDuration n.alone n.whole = .error .endOfData)
  | tracks (hid : n.id = Id.tracks) (h : readTracks n.alone n.whole = .error .endOfData)
  | tags (hid : n.id = Id.tags) (h : readTags n.alone n.whole = .error .endOfData)
  | chapters (hid : n.id = Id.chapters)
      (h : Edition.readAtoms n.alone n.whole = .error .endOfData)

end Node

namespace Stores

variable {file : Bytes} {e : Element} {n : Node}

theorem partAt (h : Stores file e n) : PartAt file e.dataStart n.alone :=
  ⟨h.start_le, h.holds⟩

theorem eq_shift (h : Stores file e n) : e = n.whole.shift e.dataStart := by
  obtain ⟨id, dataStart, stop⟩ := e
  obtain rfl : id = n.id := h.id_eq
  obtain rfl : stop = dataStart + n.payload.length := h.stop_eq
  rfl

end Stores

namespace Arrangement

variable {file file' : Bytes} {segment segment' : Element} {sections : List Node} {α : Type}

/-- A section that does not need what follows it is read as it is on its own. -/
theorem readSection_eq_alone (a : Arrangement file segment sections) {wanted : Nat}
    (hwanted : wanted ∈ sectionIds) {read : Bytes → Element → Except Fault α}
    (hsettles : ∀ {part file d}, PartAt file d part →
      ∀ e, Settles id (read part e) (read file (e.shift d)))
    (hcomplete : ∀ n ∈ sections, n.id = wanted → read n.alone n.whole ≠ .error .endOfData) :
    readSection a.elements wanted (read file) =
      match sections.find? (·.id == wanted) with
      | some n => (read n.alone n.whole).map some
      | none => .ok none := by
  have hfind := a.find?_elements hwanted
  rw [readSection]
  cases hfound : sections.find? (·.id == wanted) with
  | none =>
    rw [hfound] at hfind
    rw [eq_none_of_rel_none hfind]
  | some n =>
    rw [hfound] at hfind
    obtain ⟨e, he, hstores⟩ := exists_of_rel_some hfind
    have hread := hsettles hstores.partAt n.whole
    rw [← hstores.eq_shift] at hread
    rw [he]
    dsimp only
    rw [hread.eq (hcomplete n (List.mem_of_find?_eq_some hfound) (id_of_find? hfound))]

theorem readSection_eq (a : Arrangement file segment sections)
    (a' : Arrangement file' segment' sections) {wanted : Nat} (hwanted : wanted ∈ sectionIds)
    {read : Bytes → Element → Except Fault α}
    (hsettles : ∀ {part file d}, PartAt file d part →
      ∀ e, Settles id (read part e) (read file (e.shift d)))
    (hcomplete : ∀ n ∈ sections, n.id = wanted → read n.alone n.whole ≠ .error .endOfData) :
    readSection a.elements wanted (read file) = readSection a'.elements wanted (read file') :=
  (a.readSection_eq_alone hwanted hsettles hcomplete).trans
    (a'.readSection_eq_alone hwanted hsettles hcomplete).symm

end Arrangement

/-- Two files whose segments have the same sections say the same about themselves, wherever each
of the sections lies and whatever else seek heads say. -/
theorem readInfo_eq_of_arrangements {file file' : Bytes} {len len' : Nat}
    {segment segment' : Element} {sections : List Node}
    (hsegment : readSegment file len = .ok segment) (a : Arrangement file segment sections)
    (hsegment' : readSegment file' len' = .ok segment') (a' : Arrangement file' segment' sections)
    (hcomplete : ∀ n ∈ sections, ¬ n.RunsOut) : readInfo file len = readInfo file' len' := by
  have hinfo : readSection a.elements Id.info (readDuration file)
      = readSection a'.elements Id.info (readDuration file') :=
    a.readSection_eq a' (by decide) settles_readDuration
      fun n hn hid h => hcomplete n hn (.info hid h)
  have htracks : readSection a.elements Id.tracks (readTracks file)
      = readSection a'.elements Id.tracks (readTracks file') :=
    a.readSection_eq a' (by decide) settles_readTracks
      fun n hn hid h => hcomplete n hn (.tracks hid h)
  have htags : readSection a.elements Id.tags (readTags file)
      = readSection a'.elements Id.tags (readTags file') :=
    a.readSection_eq a' (by decide) settles_readTags
      fun n hn hid h => hcomplete n hn (.tags hid h)
  have hchapters : readSection a.elements Id.chapters (Edition.readAtoms file)
      = readSection a'.elements Id.chapters (Edition.readAtoms file') :=
    a.readSection_eq a' (by decide) settles_readAtoms
      fun n hn hid h => hcomplete n hn (.chapters hid h)
  unfold readTracks at htracks
  unfold readTags at htags
  simp only [readInfo, hsegment, hsegment', a.readSections_eq, a'.readSections_eq, hinfo, htracks,
    htags, hchapters, bind, Except.bind]

/-! ## Small files -/

namespace Rearranged

/-- A file with a segment that is shorter than 127 bytes. -/
def fileOf (segment : List UInt8) : Bytes :=
  (idBytes Id.ebml ++ sizeBytes 1 0 ++ idBytes Id.segment ++ sizeBytes 1 segment.length ++
    segment).toArray

/-- The segment of such a file. -/
def segmentOf (segment : List UInt8) : Element := ⟨Id.segment, 10, 10 + segment.length⟩

/-- A node whose size takes one byte, as that of `Clip.head` does. -/
def node (id : Nat) (payload : List UInt8)
    (h : IsId id ∧ payload.length < unknownSize 1 := by decide) : Node :=
  { Clip.head with id, payload, isId := h.1, length_lt := h.2 }

def seekParts (s : Seek) : List Node :=
  [node Id.seekId (Bytes.ofNumber 4 s.id) ⟨by decide, by simp [unknownSize]⟩,
    node Id.seekPosition (Bytes.ofNumber 1 s.offset) ⟨by decide, by simp [unknownSize]⟩]

theorem length_seekParts (s : Seek) : ((seekParts s).flatMap Node.bytes).length = 11 := by
  simp [seekParts, node, Clip.head, Node.bytes, Node.head, idWidth, Id.seekId, Id.seekPosition]

def entry (s : Seek) : Node :=
  node Id.seek ((seekParts s).flatMap Node.bytes)
    ⟨by decide, by rw [length_seekParts]; decide⟩

theorem writesSeek (s : Seek) (hid : s.id < 256 ^ 4) (hoffset : s.offset < 256 ^ 1) :
    (entry s).WritesSeek s := by
  refine ⟨seekParts s, rfl, .cons ⟨?_, ?_⟩ .nil, .cons ⟨?_, ?_⟩ .nil⟩
  · exact (Bytes.length_ofNumber 4 s.id).le
  · exact (Bytes.bigEndian_ofNumber 4 s.id).trans (Nat.mod_eq_of_lt hid)
  · exact (Bytes.length_ofNumber 1 s.offset).le.trans (by decide)
  · exact (Bytes.bigEndian_ofNumber 1 s.offset).trans (Nat.mod_eq_of_lt hoffset)

theorem each_writesSeek {ss : List Seek} (h : ∀ s ∈ ss, s.id < 256 ^ 4 ∧ s.offset < 256 ^ 1) :
    Each Node.id Id.seek Node.WritesSeek (ss.map entry) ss := by
  induction ss with
  | nil => exact .nil
  | cons s ss ih =>
    obtain ⟨⟨hid, hoffset⟩, hrest⟩ := List.forall_mem_cons.1 h
    exact .cons (writesSeek s hid hoffset) (ih hrest)

theorem length_entry (s : Seek) : (entry s).bytes.length = 14 := by
  have hpayload : (entry s).payload.length = 11 := length_seekParts s
  rw [Node.bytes, List.length_append, hpayload, Node.head, List.length_append, length_sizeBytes]
  rfl

theorem length_entries (ss : List Seek) :
    ((ss.map entry).flatMap Node.bytes).length = 14 * ss.length := by
  simp [List.length_flatMap, Function.comp_def, length_entry, Nat.mul_comm]

/-- A seek head with some entries. -/
def seekHead (ss : List Seek) (h : ss.length < 9) : Node :=
  node Id.seekHead ((ss.map entry).flatMap Node.bytes) <| by
    have hlength : 14 * ss.length < 127 := by omega
    exact ⟨by decide, (length_entries ss).trans_lt hlength⟩

/-- A cluster, and what looks like no header in it. -/
def cluster : List UInt8 := [0x1F, 0x43, 0xB6, 0x75, 0x81, 0]

def tracks : Node := node Id.tracks [0xAE, 0x83, 0xD7, 0x81, 1]

def chapters : Node :=
  node Id.chapters [0x45, 0xB9, 0x88, 0xB6, 0x86, 0x73, 0xC4, 0x81, 5, 0x91, 0x80]

/-- One entry for the chapters, and four that lead nowhere. -/
def seeks : List Seek :=
  [⟨Id.chapters, 91⟩, ⟨Id.tags, 200⟩, ⟨Id.tags, 90⟩, ⟨Id.info, 75⟩, ⟨Id.tracks, 3⟩]

def inFront : List UInt8 := tracks.bytes ++ chapters.bytes ++ cluster

def behind : List UInt8 :=
  (seekHead seeks (by decide)).bytes ++ tracks.bytes ++ cluster ++ chapters.bytes

def arrangementInFront : Arrangement (fileOf inFront) (segmentOf inFront) [tracks, chapters] where
  front := [tracks, chapters]
  heads := []
  holds := by decide
  ends := .inr ⟨by decide, ⟨Id.cluster, 41, 42⟩, by decide, rfl⟩
  clusters := by decide
  seekHeads := .nil
  distinct := by decide
  known := by simp
  found := by simp
  seeks := by simp

def arrangementBehind : Arrangement (fileOf behind) (segmentOf behind) [tracks, chapters] where
  front := [seekHead seeks (by decide), tracks]
  heads := [seeks]
  holds := by decide
  ends := .inr ⟨by decide, ⟨Id.cluster, 100, 101⟩, by decide, rfl⟩
  clusters := by decide
  seekHeads := .cons ⟨seeks.map entry, rfl, each_writesSeek (by decide)⟩ .nil
  distinct := by decide
  known := by
    intro n hn hid
    obtain rfl | rfl : n = seekHead seeks _ ∨ n = tracks := by simpa using hn
    · exact absurd hid (by decide)
    · simp
  found := by
    intro n hn
    obtain rfl | rfl : n = tracks ∨ n = chapters := by simpa using hn
    · exact .inl (by simp)
    · exact .inr ⟨⟨Id.chapters, 91⟩, by decide, rfl, by decide, by decide⟩
  seeks := by
    have hunreadable : header (fileOf behind) 100 (segmentOf behind).stop = .error .idTooWide := by
      decide
    have hmismatched : header (fileOf behind) 85 (segmentOf behind).stop =
        .ok ⟨Id.tracks, 90, 95⟩ := by decide
    simp only [seeks, List.flatten_cons, List.flatten_nil, List.append_nil, List.forall_mem_cons]
    exact ⟨.inl ⟨chapters, by simp, rfl, by decide, by decide⟩, .inr (.outside (by decide)),
      .inr (.unreadable hunreadable), .inr (.mismatched hmismatched (by decide)),
      .inr (.settled (by simp : tracks ∈ _) rfl), nofun⟩

end Rearranged

open Rearranged in
theorem readInfo_eq_of_arrangements_rearranged :
    (readSegment (fileOf inFront) (fileOf inFront).size = .ok (segmentOf inFront) ∧
      readSegment (fileOf behind) (fileOf behind).size = .ok (segmentOf behind) ∧
      ∀ n ∈ [tracks, chapters], ¬ n.RunsOut) ∧
    readInfo (fileOf behind) (fileOf behind).size = .ok {
      tracks := [{ number := 1 }]
      chapters := [⟨0, none, ⟨1, 1000000000⟩, []⟩] } := by
  have hfront : readSegment (fileOf inFront) (fileOf inFront).size = .ok (segmentOf inFront) := by
    decide +kernel
  have hbehind : readSegment (fileOf behind) (fileOf behind).size = .ok (segmentOf behind) := by
    decide +kernel
  have hcomplete : ∀ n ∈ [tracks, chapters], ¬ n.RunsOut := by
    have htracks : readTracks tracks.alone tracks.whole ≠ .error .endOfData := by decide +kernel
    have hchapters : Edition.readAtoms chapters.alone chapters.whole ≠ .error .endOfData := by
      decide +kernel
    intro n hn hout
    obtain rfl | rfl : n = tracks ∨ n = chapters := by simpa using hn
    · cases hout with
      | tracks _ h => exact htracks h
      | info hid | tags hid | chapters hid => exact absurd hid (by decide)
    · cases hout with
      | chapters _ h => exact hchapters h
      | info hid | tags hid | tracks hid => exact absurd hid (by decide)
  refine ⟨⟨hfront, hbehind, hcomplete⟩, ?_⟩
  rw [readInfo_eq_of_arrangements hbehind arrangementBehind hfront arrangementInFront hcomplete]
  decide +kernel

namespace Rearranged

/-- A section that ends in the first byte of an id. -/
def cut : Node := node Id.tracks (tracks.payload ++ [0x20])

/-- An element that says nothing, but goes on with that id and gives it a size. -/
def padding : Node := node 0xEC [0xFF]

def cutInFront : List UInt8 := cut.bytes ++ padding.bytes ++ cluster

def cutSeeks : List Seek := [⟨Id.tracks, 28⟩]

def cutBehind : List UInt8 :=
  (seekHead cutSeeks (by decide)).bytes ++ padding.bytes ++ cluster ++ cut.bytes

def cutArrangementInFront :
    Arrangement (fileOf cutInFront) (segmentOf cutInFront) [cut] where
  front := [cut, padding]
  heads := []
  holds := by decide
  ends := .inr ⟨by decide, ⟨Id.cluster, 29, 30⟩, by decide, rfl⟩
  clusters := by decide
  seekHeads := .nil
  distinct := by decide
  known := by
    intro n hn hid
    obtain rfl | rfl : n = cut ∨ n = padding := by simpa using hn
    · simp
    · exact absurd hid (by decide)
  found := by simp
  seeks := by simp

def cutArrangementBehind : Arrangement (fileOf cutBehind) (segmentOf cutBehind) [cut] where
  front := [seekHead cutSeeks (by decide), padding]
  heads := [cutSeeks]
  holds := by decide
  ends := .inr ⟨by decide, ⟨Id.cluster, 37, 38⟩, by decide, rfl⟩
  clusters := by decide
  seekHeads := .cons ⟨cutSeeks.map entry, rfl, each_writesSeek (by decide)⟩ .nil
  distinct := by decide
  known := by
    intro n hn hid
    obtain rfl | rfl : n = seekHead cutSeeks _ ∨ n = padding := by simpa using hn
    · exact absurd hid (by decide)
    · exact absurd hid (by decide)
  found := by
    intro n hn
    obtain rfl : n = cut := by simpa using hn
    exact .inr ⟨⟨Id.tracks, 28⟩, by decide, rfl, by decide, by decide⟩
  seeks := by
    intro s hs
    obtain rfl : s = ⟨Id.tracks, 28⟩ := by simpa [cutSeeks] using hs
    exact .inl ⟨cut, by simp, rfl, by decide, by decide⟩

/-- The tracks without a size. -/
def openTracks : List UInt8 := idBytes Id.tracks ++ [0xFF] ++ tracks.payload

def openInFront : List UInt8 := openTracks ++ chapters.bytes ++ cluster

def openBehind : List UInt8 :=
  (seekHead [⟨Id.chapters, 35⟩] (by decide)).bytes ++ openTracks ++ cluster ++ chapters.bytes

end Rearranged

open Rearranged in
/-- A section that cannot be read without what follows it is read in one place and not in another,
and a section of unknown size takes in those that follow it. -/
theorem readInfo_depends_on_place :
    (readSegment (fileOf cutInFront) (fileOf cutInFront).size = .ok (segmentOf cutInFront) ∧
      Nonempty (Arrangement (fileOf cutInFront) (segmentOf cutInFront) [cut]) ∧
      readInfo (fileOf cutInFront) (fileOf cutInFront).size = .ok { tracks := [{ number := 1 }] } ∧
      readSegment (fileOf cutBehind) (fileOf cutBehind).size = .ok (segmentOf cutBehind) ∧
      Nonempty (Arrangement (fileOf cutBehind) (segmentOf cutBehind) [cut]) ∧
      readInfo (fileOf cutBehind) (fileOf cutBehind).size = .error .endOfData) ∧
    readInfo (fileOf openInFront) (fileOf openInFront).size
      = .ok { tracks := [{ number := 1 }] } ∧
    readInfo (fileOf openBehind) (fileOf openBehind).size = .ok {
      tracks := [{ number := 1 }]
      chapters := [⟨0, none, ⟨1, 1000000000⟩, []⟩] } := by
  refine ⟨⟨?_, ⟨cutArrangementInFront⟩, ?_, ?_, ⟨cutArrangementBehind⟩, ?_⟩, ?_, ?_⟩ <;>
    decide +kernel

end MediaTags.Matroska
