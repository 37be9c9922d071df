import MediaTags.IsoMedia.Chapters
import MediaTags.Proofs.IsoMedia.SampleTable
import MediaTags.Proofs.IsoMedia.Track
import MediaTags.Proofs.Timeline

/-!
# Reading in machine numbers

Positions and sizes are natural numbers where a file is read, and only the offsets of samples are
kept to 64 bits. Here all of them are, and times to signed numbers of 64 bits: the reading breaks
off where a sum or a difference leaves its type or a cut lies behind the end. It agrees with the
plain reading, part by part.
-/

namespace MediaTags.IsoMedia

/-- Why a reading breaks off. -/
inductive Halt where
  | fault (f : Fault)
  | overflow
  | outOfRange
  deriving DecidableEq, Repr

/-- Why a plain reading breaks off. -/
def Halt.ofAbort : Abort Fault → Halt
  | .failure f => fault f
  | .overflow => overflow

namespace Checked

/-! ## Machine numbers -/

def add (m n : Nat) : Except Halt Nat :=
  if m + n < UInt64.size then .ok (m + n) else .error .overflow

def sub (m n : Nat) : Except Halt Nat := if n ≤ m then .ok (m - n) else .error .overflow

def addInstant (m n : Int) : Except Halt Int :=
  if IsInstant (m + n) then .ok (m + n) else .error .overflow

/-- A sum that stops at the largest number. -/
def saturatingAdd (m n : Nat) : Nat := min (m + n) (UInt64.size - 1)

def splitAt (count : Nat) (bs : List UInt8) : Except Halt (List UInt8 × List UInt8) :=
  if count ≤ bs.length then .ok (bs.take count, bs.drop count) else .error .outOfRange

def takeBytes? (count : Nat) (bs : List UInt8) : Except Halt (Option (List UInt8 × List UInt8)) :=
  if bs.length < count then .ok none else (splitAt count bs).map some

/-! ## Atoms -/

def extent (file : Bytes) (pos stop : Nat) (short : Nat) : Except Halt (Nat × Nat) :=
  if short = 0 then (sub stop pos).map (·, Atom.shortHeader)
  else if short = 1 then
    match file.slice? (pos + Atom.shortHeader) 8 with
    | some bs => .ok (Bytes.bigEndian bs, Atom.longHeader)
    | none => .error (.fault .endOfData)
  else .ok (short, Atom.shortHeader)

def readAtom (file : Bytes) (pos stop : Nat) : Except Halt Atom :=
  match file.slice? pos Atom.shortHeader with
  | none => .error (.fault .endOfData)
  | some head => do
    let (size, width) ← extent file pos stop (Bytes.bigEndian (head.take 4))
    if size < width ∨ stop < saturatingAdd pos size then .error (.fault .overrun)
    else
      let dataStart ← add pos width
      let stop ← add pos size
      return ⟨head.drop 4, dataStart, stop⟩

theorem add_eq_ok {m n k : Nat} : add m n = .ok k ↔ m + n < UInt64.size ∧ m + n = k := by
  unfold add
  split <;> simp [*]

theorem width_pos_of_extent {file : Bytes} {pos stop short size width : Nat}
    (h : extent file pos stop short = .ok (size, width)) : 0 < width := by
  unfold extent at h
  split at h
  · obtain ⟨n, -, hn⟩ := map_eq_ok.1 h
    cases hn
    decide
  · split at h
    · split at h
      · cases h
        decide
      · cases h
    · cases h
      decide

/-- An atom ends behind its first byte and within its parent, so that a listing comes to its end. -/
theorem lt_stop_of_readAtom {file : Bytes} {pos stop : Nat} {a : Atom}
    (h : readAtom file pos stop = .ok a) : pos < a.stop ∧ a.stop ≤ stop := by
  unfold readAtom at h
  split at h
  · cases h
  · obtain ⟨⟨size, width⟩, hextent, h⟩ := bind_eq_ok.1 h
    have hwidth := width_pos_of_extent hextent
    dsimp only at h
    split at h
    · cases h
    · next hfits =>
      obtain ⟨dataStart, -, h⟩ := bind_eq_ok.1 h
      obtain ⟨last, hlast, h⟩ := bind_eq_ok.1 h
      obtain ⟨hlt, rfl⟩ := add_eq_ok.1 hlast
      cases h
      simp only [saturatingAdd] at hfits ⊢
      omega

def atomsFrom (file : Bytes) (stop : Nat) (done : List Atom) (pos : Nat) :
    Except Halt (List Atom) :=
  match add pos 8 with
  | .error h => .error h
  | .ok next =>
    if next ≤ stop then
      match ha : readAtom file pos stop with
      | .error h => .error h
      | .ok a =>
        have := lt_stop_of_readAtom ha
        atomsFrom file stop (a :: done) a.stop
    else .ok done.reverse
termination_by stop - pos

def atoms (file : Bytes) (start stop : Nat) : Except Halt (List Atom) :=
  atomsFrom file stop [] start

def children (file : Bytes) (a : Atom) : Except Halt (List Atom) := atoms file a.dataStart a.stop

def payload (file : Bytes) (a : Atom) : Except Halt (List UInt8) := do
  let size ← sub a.stop a.dataStart
  if maxPayload < size then .error (.fault .payloadTooLarge)
  else
    match file.slice? a.dataStart size with
    | some bs => .ok bs
    | none => .error (.fault .endOfData)

/-! ## Tracks -/

def readMedia (file : Bytes) (t : Track) (a : Atom) : Except Halt Track :=
  if a.isKind "mdhd" then
    (payload file a).map fun bs => { t with timescale := Track.afterTimes bs }
  else if a.isKind "minf" then
    (children file a).map fun found => { t with sampleTable := found.find? (Atom.isKind "stbl") }
  else .ok t

def readReference (file : Bytes) (t : Track) (a : Atom) : Except Halt Track :=
  if a.isKind "chap" then
    (payload file a).map fun bs =>
      { t with chapterRefs := t.chapterRefs ++ numbers 4 bs.length bs }
  else .ok t

def readTrackChild (file : Bytes) (t : Track) (a : Atom) : Except Halt Track := do
  if a.isKind "tkhd" then
    (payload file a).map fun bs => { t with id := Track.afterTimes bs }
  else if a.isKind "tref" then
    (← children file a).foldlM (readReference file) t
  else if a.isKind "mdia" then
    (← children file a).foldlM (readMedia file) t
  else return t

def readTrack (file : Bytes) (trak : Atom) : Except Halt Track := do
  (← children file trak).foldlM (readTrackChild file) {}

/-! ## Sample tables and chapters -/

def readTable (file : Bytes) (t : SampleTable) (a : Atom) : Except Halt SampleTable :=
  match SampleTable.kinds.find? (a.isKind ·) with
  | some kind => (payload file a).map (t.readTable kind)
  | none => .ok t

def readTables (file : Bytes) (stbl : Atom) : Except Halt SampleTable := do
  (← children file stbl).foldlM (readTable file) {}

/-- The offset is moved on behind the last sample, too. -/
def layOut (offset : Nat) : List Nat → Except Halt (List Sample)
  | [] => .ok []
  | size :: sizes => do
    let next ← add offset size
    return ⟨offset, size⟩ :: (← layOut next sizes)

def placeFrom (runs : List (Nat × Nat)) (done : List Sample) (index : Nat) :
    List Nat → List Nat → Except Halt (List Sample)
  | [], _ => .ok done.reverse
  | _, [] => .ok done.reverse
  | offset :: offsets, sizes => do
    let chunk ← add index 1
    let count := SampleTable.samplesIn runs chunk
    let placed ← layOut offset (sizes.take count)
    placeFrom runs (placed.reverse ++ done) chunk offsets (sizes.drop count)

def readText (file : Bytes) (s : Sample) : Except Halt String := (s.text file).mapError .fault

def chaptersFrom (file : Bytes) (base : TimeBase) (start : Int) :
    List Sample → List Nat → Except Halt (List Chapter)
  | [], _ => .ok []
  | s :: samples, durations => do
    let title ← readText file s
    let stop ← addInstant start (durations.headD 0)
    let chapters ← chaptersFrom file base stop samples durations.tail
    return ⟨start, some stop, base, Track.titleEntries title⟩ :: chapters

def trackChapters (file : Bytes) (t : Track) : Except Halt (List Chapter) := do
  match t.sampleTable with
  | none => return []
  | some stbl =>
    if t.timescale = 0 then return []
    let table ← readTables file stbl
    let samples ← placeFrom table.runs [] 0 table.chunkOffsets table.sizes
    chaptersFrom file ⟨1, t.timescale⟩ 0 samples table.durations

/-! ## Movies -/

def readMovieChild (file : Bytes) (m : Movie) (a : Atom) : Except Halt Movie := do
  if a.isKind "trak" then
    return { m with tracks := m.tracks ++ [← readTrack file a] }
  else if a.isKind "udta" then
    match (← children file a).find? (Atom.isKind "chpl") with
    | some chpl => return { m with listed := Nero.chapters (← payload file chpl) }
    | none => return m
  else return m

def readMovie (file : Bytes) (moov : Atom) : Except Halt Movie := do
  (← children file moov).foldlM (readMovieChild file) {}

def readChapters (file : Bytes) (len : Nat) : Except Halt (List Chapter) := do
  match (← atoms file 0 len).find? (Atom.isKind "moov") with
  | none => return []
  | some moov =>
    let movie ← readMovie file moov
    match movie.chapterTrack? with
    | some track =>
      let chapters ← trackChapters file track
      return if chapters.isEmpty then movie.listed else chapters
    | none => return movie.listed

/-! ## Agreement -/

/-- A checked reading gives what the plain one does. -/
def Agrees {α : Type} (c : Except Halt α) (r : Except Fault α) : Prop := c = r.mapError .fault

namespace Agrees

variable {ι α β σ : Type} {c : Except Halt α} {r : Except Fault α}

theorem ok (a : α) : Agrees (.ok a) (.ok a) := rfl

/-- A part that does not overflow may be read in the course of one that does. -/
theorem lift (h : Agrees c r) : MediaTags.Agrees Halt.ofAbort c (r.mapError .failure) := by
  cases h
  cases r <;> rfl

theorem bind (h : Agrees c r) {g : α → Except Halt β} {f : α → Except Fault β}
    (hnext : ∀ a, r = .ok a → Agrees (g a) (f a)) : Agrees (c >>= g) (r >>= f) :=
  MediaTags.Agrees.bind h hnext

theorem map (h : Agrees c r) (f : α → β) : Agrees (c.map f) (r.map f) :=
  MediaTags.Agrees.map h f

theorem foldlM {step : σ → ι → Except Fault σ} {step' : σ → ι → Except Halt σ} {es : List ι}
    (h : ∀ e ∈ es, ∀ s, Agrees (step' s e) (step s e)) (s : σ) :
    Agrees (es.foldlM step' s) (es.foldlM step s) :=
  MediaTags.Agrees.foldlM h s

end Agrees

/-- An atom lies in the file. -/
def Within (file : Bytes) (a : Atom) : Prop := a.dataStart ≤ a.stop ∧ a.stop ≤ file.size

section Atoms

variable {file : Bytes} {pos start stop : Nat} {a : Atom}

theorem extent_agrees (h : pos ≤ stop) (short : Nat) :
    Agrees (extent file pos stop short) (Atom.extent file pos stop short) := by
  unfold extent Atom.extent
  split
  · rw [sub, if_pos h]
    rfl
  · split
    · cases file.slice? (pos + Atom.shortHeader) 8 <;> rfl
    · rfl

theorem readAtom_agrees (hpos : pos ≤ stop) (hroom : stop + 8 < UInt64.size) :
    Agrees (readAtom file pos stop) (Atom.read file pos stop) := by
  unfold readAtom Atom.read
  cases file.slice? pos Atom.shortHeader with
  | none => rfl
  | some head =>
    have hextent : Agrees (extent file pos stop (Bytes.bigEndian (head.take 4))) _ :=
      extent_agrees hpos _
    dsimp only
    rw [hextent]
    cases Atom.extent file pos stop (Bytes.bigEndian (head.take 4)) with
    | error f => rfl
    | ok found =>
      obtain ⟨size, width⟩ := found
      -- The end is below the largest number, so a sum that stops there is behind it all the same.
      have hsaturated : stop < saturatingAdd pos size ↔ stop < pos + size := by
        simp only [saturatingAdd]
        omega
      simp only [Except.mapError, bind, Except.bind, hsaturated]
      split
      · rfl
      · next hfits => rw [add_eq_ok.2 ⟨by omega, rfl⟩, add_eq_ok.2 ⟨by omega, rfl⟩]; rfl

theorem atomsFrom_eq (done : List Atom) : atomsFrom file stop done pos =
    add pos 8 >>= fun next =>
      if next ≤ stop then readAtom file pos stop >>= fun a => atomsFrom file stop (a :: done) a.stop
      else .ok done.reverse := by
  rw [atomsFrom]
  cases add pos 8 with
  | error h => rfl
  | ok next =>
    dsimp only [bind, Except.bind]
    split
    · split <;> simp only [*]
    · rfl

theorem plain_atomsFrom_eq (done : List Atom) : IsoMedia.atomsFrom file stop done pos =
    if pos + 8 ≤ stop then
      Atom.read file pos stop >>= fun a => IsoMedia.atomsFrom file stop (a :: done) a.stop
    else .ok done.reverse := by
  rw [IsoMedia.atomsFrom]
  split
  · split <;> simp only [*] <;> rfl
  · rfl

/-- Atoms are listed alike, each from where the one before ends. -/
theorem atomsFrom_agrees {pos : Nat} (hroom : stop + 8 < UInt64.size) (done : List Atom)
    (hpos : pos ≤ stop) :
    Agrees (atomsFrom file stop done pos) (IsoMedia.atomsFrom file stop done pos) := by
  rw [atomsFrom_eq, plain_atomsFrom_eq, add_eq_ok.2 ⟨by omega, rfl⟩]
  change Agrees (if pos + 8 ≤ stop then _ else _) _
  split
  · refine (readAtom_agrees hpos hroom).bind fun a ha => ?_
    have hbounds := Atom.read_bounds ha
    exact atomsFrom_agrees hroom (a :: done) hbounds.2.2
  · rfl
termination_by stop - pos
decreasing_by omega

theorem mem_atomsFrom {pos : Nat} {done as : List Atom}
    (h : IsoMedia.atomsFrom file stop done pos = .ok as) (ha : a ∈ as) :
    a ∈ done ∨ a.dataStart ≤ a.stop ∧ a.stop ≤ stop := by
  rw [plain_atomsFrom_eq] at h
  split at h
  · obtain ⟨b, hb, hrest⟩ := bind_eq_ok.1 h
    have hbounds := Atom.read_bounds hb
    rcases mem_atomsFrom hrest ha with hmem | hlater
    · rcases List.mem_cons.1 hmem with rfl | hdone
      · exact .inr hbounds.2
      · exact .inl hdone
    · exact .inr hlater
  · cases h
    exact .inl (List.mem_reverse.1 ha)
termination_by stop - pos
decreasing_by omega

theorem within_of_mem_atoms (hstop : stop ≤ file.size) {as : List Atom}
    (h : IsoMedia.atoms file start stop = .ok as) (ha : a ∈ as) : Within file a := by
  rcases mem_atomsFrom h ha with hnil | ⟨hstart, hlast⟩
  · cases hnil
  · exact ⟨hstart, hlast.trans hstop⟩

theorem Within.of_mem_children (hwithin : Within file a) {as : List Atom} {b : Atom}
    (h : a.children file = .ok as) (hb : b ∈ as) : Within file b :=
  within_of_mem_atoms hwithin.2 h hb

variable (hroom : file.size + 8 < UInt64.size)

include hroom

theorem children_agrees (h : Within file a) : Agrees (children file a) (a.children file) :=
  atomsFrom_agrees ((Nat.add_le_add_right h.2 8).trans_lt hroom) [] h.1

omit hroom in
theorem payload_agrees (h : Within file a) : Agrees (payload file a) (a.payload file) := by
  unfold payload Atom.payload
  rw [sub, if_pos h.1]
  simp only [bind, Except.bind]
  split
  · rfl
  · cases file.slice? a.dataStart (a.stop - a.dataStart) <;> rfl

/-! ## Tracks and movies -/

omit hroom in
theorem readReference_agrees (h : Within file a) (t : Track) :
    Agrees (readReference file t a) (Track.readReference file t a) := by
  unfold readReference Track.readReference
  split
  · exact (payload_agrees h).map _
  · rfl

theorem readMedia_agrees (h : Within file a) (t : Track) :
    Agrees (readMedia file t a) (Track.readMedia file t a) := by
  unfold readMedia Track.readMedia
  split
  · exact (payload_agrees h).map _
  · split
    · exact (children_agrees hroom h).map _
    · rfl

theorem readTrackChild_agrees (h : Within file a) (t : Track) :
    Agrees (readTrackChild file t a) (Track.readChild file t a) := by
  unfold readTrackChild Track.readChild
  split
  · exact (payload_agrees h).map _
  split
  · exact (children_agrees hroom h).bind fun as has =>
      .foldlM (fun _ hb => readReference_agrees (h.of_mem_children has hb)) t
  split
  · exact (children_agrees hroom h).bind fun as has =>
      .foldlM (fun _ hb => readMedia_agrees hroom (h.of_mem_children has hb)) t
  · rfl

theorem readTrack_agrees (h : Within file a) : Agrees (readTrack file a) (Track.read file a) :=
  (children_agrees hroom h).bind fun _ has =>
    .foldlM (fun _ hb => readTrackChild_agrees hroom (h.of_mem_children has hb)) _

omit hroom in
theorem readTable_agrees (h : Within file a) (t : SampleTable) :
    Agrees (readTable file t a) (SampleTable.readChild file t a) := by
  unfold readTable SampleTable.readChild
  cases SampleTable.kinds.find? (a.isKind ·) with
  | none => rfl
  | some kind => exact (payload_agrees h).map _

theorem readTables_agrees (h : Within file a) :
    Agrees (readTables file a) (SampleTable.read file a) :=
  (children_agrees hroom h).bind fun _ has =>
    .foldlM (fun _ hb => readTable_agrees (h.of_mem_children has hb)) _

theorem readMovieChild_agrees (h : Within file a) (m : Movie) :
    Agrees (readMovieChild file m a) (Movie.readChild file m a) := by
  unfold readMovieChild Movie.readChild
  split
  · exact (readTrack_agrees hroom h).bind fun t _ => .ok _
  split
  · refine (children_agrees hroom h).bind fun as has => ?_
    cases hfind : as.find? (Atom.isKind "chpl") with
    | none => rfl
    | some chpl =>
      have hchpl := h.of_mem_children has (List.mem_of_find?_eq_some hfind)
      exact (payload_agrees hchpl).bind fun bs _ => .ok _
  · rfl

theorem readMovie_agrees (h : Within file a) : Agrees (readMovie file a) (Movie.read file a) :=
  (children_agrees hroom h).bind fun _ has =>
    .foldlM (fun _ hb => readMovieChild_agrees hroom (h.of_mem_children has hb)) _

end Atoms

/-! ## Where sample tables lie -/

section Tables

variable {file : Bytes} {a : Atom} {t t' : Track}

/-- The sample table of a track lies in the file. -/
def TableWithin (file : Bytes) (t : Track) : Prop :=
  ∀ stbl, t.sampleTable = some stbl → Within file stbl

theorem TableWithin.readMedia (ht : TableWithin file t) (ha : Within file a)
    (h : Track.readMedia file t a = .ok t') : TableWithin file t' := by
  unfold Track.readMedia at h
  split at h
  · obtain ⟨bs, -, rfl⟩ := map_eq_ok.1 h
    exact ht
  split at h
  · obtain ⟨found, hfound, rfl⟩ := map_eq_ok.1 h
    exact fun stbl hstbl => ha.of_mem_children hfound (List.mem_of_find?_eq_some hstbl)
  · cases h
    exact ht

theorem TableWithin.readReference (ht : TableWithin file t)
    (h : Track.readReference file t a = .ok t') : TableWithin file t' := by
  rw [(Track.readReference_step h).frame]
  exact ht

theorem TableWithin.readChild (ht : TableWithin file t) (ha : Within file a)
    (h : Track.readChild file t a = .ok t') : TableWithin file t' := by
  unfold Track.readChild at h
  split at h
  · obtain ⟨bs, -, rfl⟩ := map_eq_ok.1 h
    exact ht
  split at h
  · obtain ⟨as, -, hfold⟩ := bind_eq_ok.1 h
    exact foldlM_invariant (fun _ _ _ _ hs hstep => hs.readReference hstep) hfold ht
  split at h
  · obtain ⟨as, has, hfold⟩ := bind_eq_ok.1 h
    exact foldlM_invariant
      (fun _ _ _ hb hs hstep => hs.readMedia (ha.of_mem_children has hb) hstep) hfold ht
  · cases h
    exact ht

theorem tableWithin_of_read (ha : Within file a) (h : Track.read file a = .ok t) :
    TableWithin file t := by
  obtain ⟨as, has, hfold⟩ := bind_eq_ok.1 h
  refine foldlM_invariant
    (fun _ _ _ hb hs hstep => hs.readChild (ha.of_mem_children has hb) hstep) hfold ?_
  rintro stbl ⟨⟩

/-- Only a track among the children of a movie adds to its tracks. -/
theorem tracks_of_readChild {m m' : Movie} (h : Movie.readChild file m a = .ok m') :
    m'.tracks = m.tracks ∨ ∃ t, Track.read file a = .ok t ∧ m'.tracks = m.tracks ++ [t] := by
  unfold Movie.readChild at h
  split at h
  · obtain ⟨t, ht, h⟩ := bind_eq_ok.1 h
    cases h
    exact .inr ⟨t, ht, rfl⟩
  split at h
  · obtain ⟨as, -, h⟩ := bind_eq_ok.1 h
    split at h
    · obtain ⟨bs, -, h⟩ := bind_eq_ok.1 h
      cases h
      exact .inl rfl
    · cases h
      exact .inl rfl
  · cases h
    exact .inl rfl

theorem tableWithin_of_readMovie {m : Movie} (ha : Within file a) (h : Movie.read file a = .ok m) :
    ∀ t ∈ m.tracks, TableWithin file t := by
  obtain ⟨as, has, hfold⟩ := bind_eq_ok.1 h
  refine foldlM_invariant (P := fun m => ∀ t ∈ m.tracks, TableWithin file t)
    (fun m b m' hb hm hstep => ?_) hfold (fun _ ht => nomatch ht)
  obtain htracks | ⟨t, ht, htracks⟩ := tracks_of_readChild hstep
  · rwa [htracks]
  · rw [htracks]
    exact List.forall_mem_append.2
      ⟨hm, List.forall_mem_singleton.2 (tableWithin_of_read (ha.of_mem_children has hb) ht)⟩

end Tables

end Checked

end MediaTags.IsoMedia
