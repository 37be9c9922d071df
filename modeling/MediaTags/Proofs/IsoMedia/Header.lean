import MediaTags.Proofs.IsoMedia.Fallback

/-!
# Where the number of a header is read

The header of a track gives the track's id and that of its media the time scale, behind two times
of four or of eight bytes. Where there are several headers the last one counts. A header that ends
within its times is not left out: its number is read where the first time stands.
-/

namespace MediaTags.IsoMedia

/-! ## One header -/

/-- The number in the four bytes from a position on, or zero if a payload ends before they do. -/
def numberAt (pos : Nat) (payload : List UInt8) : Nat :=
  if pos + 4 ≤ payload.length then Bytes.bigEndian ((payload.drop pos).take 4) else 0

/-- Where the times of a header end. -/
def timesEnd (payload : List UInt8) : Nat := if payload.head? = some 1 then 20 else 12

theorem takeNumber_fst (bs : List UInt8) : (takeNumber 4 bs).1 = numberAt 0 bs := by
  rw [takeNumber, Bytes.takeNumber?, Bytes.takeBytes?_eq, numberAt, List.drop_zero, Nat.zero_add]
  split <;> rfl

theorem numberAt_drop (count pos : Nat) (bs : List UInt8) :
    numberAt pos (bs.drop count) = numberAt (count + pos) bs := by
  have hfits : pos + 4 ≤ bs.length - count ↔ count + pos + 4 ≤ bs.length := by omega
  simp only [numberAt, List.length_drop, hfits, List.drop_drop]

theorem numberAt_of_short {pos : Nat} {bs : List UInt8} (h : bs.length < pos + 4) :
    numberAt pos bs = 0 :=
  if_neg (Nat.not_le.2 h)

theorem skip_of_le {count : Nat} {bs : List UInt8} (h : count ≤ bs.length) :
    skip count bs = bs.drop count := by
  simp [skip, h]

theorem takeVersion_of_le {bs : List UInt8} (h : 4 ≤ bs.length) :
    takeVersion bs = (bs.head?.map UInt8.toNat, bs.drop 4) := by
  match bs with
  | version :: a :: b :: c :: rest =>
    have hflags : [a, b, c].length = 3 := rfl
    exact takeVersion_append version hflags rest

theorem timesEnd_eq (payload : List UInt8) :
    timesEnd payload = 4 + if payload.head?.map UInt8.toNat = some 1 then 16 else 8 := by
  have hversion : payload.head?.map UInt8.toNat = some 1 ↔ payload.head? = some 1 := by
    cases payload with
    | nil => simp
    | cons version rest => simpa using UInt8.toNat_inj (b := 1)
  simp only [timesEnd, hversion]
  split <;> rfl

/-- Where the number of a header is read: behind its times, or right behind the version and flags if
it ends before the times do. -/
def numberStart (payload : List UInt8) : Nat :=
  if timesEnd payload ≤ payload.length then timesEnd payload else 4

namespace Track

theorem afterTimes_of_short {payload : List UInt8} (h : payload.length < 4) :
    afterTimes payload = 0 := by
  match payload with
  | [] | [_] | [_, _] | [_, _, _] => rfl

theorem afterTimes_eq (payload : List UInt8) :
    afterTimes payload = numberAt (numberStart payload) payload := by
  rw [numberStart, timesEnd_eq]
  set width := if payload.head?.map UInt8.toNat = some 1 then 16 else 8 with hwidth
  by_cases hshort : payload.length < 4
  · rw [afterTimes_of_short hshort, numberAt_of_short (by split <;> omega)]
  have hread : afterTimes payload = numberAt 0 (skip width (payload.drop 4)) := by
    rw [afterTimes, takeVersion_of_le (by omega), ← takeNumber_fst, hwidth]
  have hlength : (payload.drop 4).length = payload.length - 4 := List.length_drop
  rw [hread]
  by_cases hfits : 4 + width ≤ payload.length
  · rw [if_pos hfits, skip_of_le (by omega), numberAt_drop, numberAt_drop]
    rfl
  · -- nothing is skipped where the times do not fit, so the number is read where they start
    rw [if_neg hfits, skip_of_short (by omega), numberAt_drop]

end Track

/-- The number stands behind the times, or that makes no difference. -/
theorem numberAt_numberStart_eq_iff (payload : List UInt8) :
    numberAt (numberStart payload) payload = numberAt (timesEnd payload) payload ↔
      timesEnd payload ≤ payload.length ∨ numberAt 4 payload = 0 := by
  by_cases hfits : timesEnd payload ≤ payload.length
  · simp [numberStart, hfits]
  · have hshort : numberAt (timesEnd payload) payload = 0 := numberAt_of_short (by omega)
    simp [numberStart, hfits, hshort]

/-! ## The headers of a track -/

/-- The number of the last header, or another one where there is no header. -/
def lastNumber (start : Nat) (headers : List (List UInt8)) : Nat :=
  (headers.getLast?.map fun payload => numberAt (numberStart payload) payload).getD start

theorem foldl_number (start : Nat) (headers : List (List UInt8)) :
    headers.foldl (fun _ payload => numberAt (numberStart payload) payload) start =
      lastNumber start headers := by
  induction headers generalizing start with
  | nil => rfl
  | cons payload headers ih =>
    rw [List.foldl_cons, ih, lastNumber, lastNumber, List.getLast?_cons]
    cases headers.getLast? <;> rfl

theorem foldl_lastNumber (start : Nat) (parts : List (List (List UInt8))) :
    parts.foldl lastNumber start = lastNumber start parts.flatten := by
  rw [← foldl_number, List.foldl_flatten]
  simp only [foldl_number]

/-- What the atoms of one kind hold. -/
def HasPayloads (file : Bytes) (kind : String) (as : List Atom) (payloads : List (List UInt8)) :
    Prop :=
  List.Forall₂ (fun a bs => a.payload file = .ok bs) (as.filter (Atom.isKind kind)) payloads

namespace Track

/-- References that can be read. -/
def HasReadableReferences (file : Bytes) (tref : Atom) : Prop :=
  ∃ as, tref.children file = .ok as ∧
    ∀ a ∈ as, a.isKind "chap" → ∃ bs, a.payload file = .ok bs

/-- The headers of one media atom, where all parts of it can be read. -/
def HasMediaHeaders (file : Bytes) (mdia : Atom) (headers : List (List UInt8)) : Prop :=
  ∃ as, mdia.children file = .ok as ∧ HasPayloads file "mdhd" as headers ∧
    ∀ a ∈ as, a.isKind "minf" → ∃ inner, a.children file = .ok inner

/-- The headers of a track and those of each of its media atoms, where all parts of the track can be
read. -/
def HasHeaders (file : Bytes) (trak : Atom) (headers : List (List UInt8))
    (mediaHeaders : List (List (List UInt8))) : Prop :=
  ∃ as, trak.children file = .ok as ∧ HasPayloads file "tkhd" as headers ∧
    List.Forall₂ (HasMediaHeaders file) (as.filter (Atom.isKind "mdia")) mediaHeaders ∧
    ∀ a ∈ as, a.isKind "tref" → HasReadableReferences file a

end Track

section Reading

variable {file : Bytes} {a : Atom} {as : List Atom}

theorem exists_hasPayloads_iff {kind : String} :
    (∃ payloads, HasPayloads file kind as payloads) ↔
      ∀ a ∈ as, a.isKind kind → ∃ bs, a.payload file = .ok bs := by
  constructor
  · rintro ⟨payloads, h⟩ a ha hkind
    obtain ⟨bs, -, hbs⟩ := exists_of_mem_forall₂ h (List.mem_filter.2 ⟨ha, hkind⟩)
    exact ⟨bs, hbs⟩
  · exact fun h =>
      exists_forall₂ fun a ha => h a (List.mem_of_mem_filter ha) (List.of_mem_filter ha)

namespace Track

variable {t t' : Track}

theorem exists_readReference_iff (t : Track) (a : Atom) :
    (∃ t', readReference file t a = .ok t') ↔
      (a.isKind "chap" → ∃ bs, a.payload file = .ok bs) := by
  unfold readReference
  split
  · next hkind => simp [exists_map_eq_ok_iff, hkind]
  · next hkind => simp [hkind]

theorem exists_readMedia_iff (t : Track) (a : Atom) :
    (∃ t', readMedia file t a = .ok t') ↔
      (a.isKind "mdhd" → ∃ bs, a.payload file = .ok bs) ∧
      (a.isKind "minf" → ∃ inner, a.children file = .ok inner) := by
  unfold readMedia
  split
  · next hmdhd =>
    have hminf : a.isKind "minf" = false := Atom.not_isKind hmdhd _ (by decide)
    simp [exists_map_eq_ok_iff, hmdhd, hminf]
  split
  · next hmdhd hminf => simp [exists_map_eq_ok_iff, hmdhd, hminf]
  · next hmdhd hminf => simp [hmdhd, hminf]

theorem exists_foldlM_readMedia_iff (t : Track) :
    (∃ t', (a.children file >>= fun as => as.foldlM (readMedia file) t) = .ok t') ↔
      ∃ headers, HasMediaHeaders file a headers := by
  simp only [bind_eq_ok, HasMediaHeaders]
  constructor
  · rintro ⟨t', as, has, hfold⟩
    have hparts := (exists_foldlM_iff exists_readMedia_iff).1 ⟨t', hfold⟩
    obtain ⟨headers, hheaders⟩ := exists_hasPayloads_iff.2 fun a ha => (hparts a ha).1
    exact ⟨headers, as, has, hheaders, fun a ha => (hparts a ha).2⟩
  · rintro ⟨headers, as, has, hheaders, hminf⟩
    obtain ⟨t', hfold⟩ := (exists_foldlM_iff exists_readMedia_iff).2 fun a ha =>
      ⟨exists_hasPayloads_iff.1 ⟨headers, hheaders⟩ a ha, hminf a ha⟩
    exact ⟨t', as, has, hfold⟩

theorem exists_readChild_iff (t : Track) (a : Atom) :
    (∃ t', readChild file t a = .ok t') ↔
      (a.isKind "tkhd" → ∃ bs, a.payload file = .ok bs) ∧
      (a.isKind "tref" → HasReadableReferences file a) ∧
      (a.isKind "mdia" → ∃ headers, HasMediaHeaders file a headers) := by
  unfold readChild
  split
  · next htkhd =>
    have htref : a.isKind "tref" = false := Atom.not_isKind htkhd _ (by decide)
    have hmdia : a.isKind "mdia" = false := Atom.not_isKind htkhd _ (by decide)
    simp [exists_map_eq_ok_iff, htkhd, htref, hmdia]
  split
  · next htkhd htref =>
    have hmdia : a.isKind "mdia" = false := Atom.not_isKind htref _ (by decide)
    simp only [htkhd, htref, hmdia, Bool.false_eq_true, false_imp_iff, true_imp_iff, true_and,
      and_true, bind_eq_ok, HasReadableReferences]
    rw [exists_comm]
    simp only [exists_and_left, exists_foldlM_iff exists_readReference_iff]
  split
  · next htkhd htref hmdia =>
    simp only [htkhd, htref, hmdia, Bool.false_eq_true, false_imp_iff, true_imp_iff, true_and]
    exact exists_foldlM_readMedia_iff t
  · next htkhd htref hmdia => simp [htkhd, htref, hmdia, pure, Except.pure]

theorem foldlM_readMedia_timescale {headers : List (List UInt8)}
    (hheaders : HasPayloads file "mdhd" as headers) (h : as.foldlM (readMedia file) t = .ok t') :
    t'.timescale = lastNumber t.timescale headers := by
  rw [← foldl_number]
  refine foldlM_put Track.timescale (fun _ a _ h => ⟨fun hkind bs hbs => ?_, ?_⟩) hheaders h
  · exact (readMedia_step h).timescale.1 hkind _ (map_eq_ok.2 ⟨bs, hbs, afterTimes_eq bs⟩)
  · exact (readMedia_step h).timescale.2

theorem readChild_id (h : readChild file t a = .ok t') :
    Feeds (Atom.isKind "tkhd") (fun a bs => a.payload file = .ok bs)
      (fun _ bs => numberAt (numberStart bs) bs) a t.id t'.id :=
  ⟨fun hkind bs hbs =>
    (readChild_step h).id.1 hkind _ (map_eq_ok.2 ⟨bs, hbs, afterTimes_eq bs⟩),
  (readChild_step h).id.2⟩

theorem readChild_timescale (h : readChild file t a = .ok t') :
    Feeds (Atom.isKind "mdia") (HasMediaHeaders file) lastNumber a t.timescale t'.timescale := by
  unfold readChild at h
  split at h
  · next htkhd =>
    obtain ⟨bs, -, rfl⟩ := map_eq_ok.1 h
    simp [Feeds, Atom.not_isKind htkhd "mdia" (by decide)]
  split at h
  · next _ htref =>
    obtain ⟨as, -, hfold⟩ := bind_eq_ok.1 h
    rw [frame_of_foldlM_readReference hfold]
    simp [Feeds, Atom.not_isKind htref "mdia" (by decide)]
  split at h
  · next _ _ hmdia =>
    refine ⟨fun _ headers hheaders => ?_, fun hnot => absurd hmdia (by simp [hnot])⟩
    obtain ⟨as, has, hpayloads, -⟩ := hheaders
    obtain ⟨_, has', hfold⟩ := bind_eq_ok.1 h
    cases has.symm.trans has'
    exact foldlM_readMedia_timescale hpayloads hfold
  · next _ _ hmdia =>
    cases h
    simp [Feeds, hmdia]

variable {trak : Atom} {headers : List (List UInt8)} {mediaHeaders : List (List (List UInt8))}

theorem exists_hasHeaders_iff :
    (∃ headers mediaHeaders, HasHeaders file trak headers mediaHeaders) ↔
      ∃ t, Track.read file trak = .ok t := by
  simp only [Track.read, bind_eq_ok, HasHeaders]
  constructor
  · rintro ⟨headers, mediaHeaders, as, has, hheaders, hmedia, hreferences⟩
    obtain ⟨t, ht⟩ := (exists_foldlM_iff exists_readChild_iff (s := {})).2 fun a ha =>
      ⟨exists_hasPayloads_iff.1 ⟨headers, hheaders⟩ a ha, hreferences a ha, fun hkind => by
        obtain ⟨hs, -, hhs⟩ := exists_of_mem_forall₂ hmedia (List.mem_filter.2 ⟨ha, hkind⟩)
        exact ⟨hs, hhs⟩⟩
    exact ⟨t, as, has, ht⟩
  · rintro ⟨t, as, has, ht⟩
    have hparts := (exists_foldlM_iff exists_readChild_iff).1 ⟨t, ht⟩
    obtain ⟨headers, hheaders⟩ := exists_hasPayloads_iff.2 fun a ha => (hparts a ha).1
    obtain ⟨mediaHeaders, hmedia⟩ := exists_forall₂ (R := HasMediaHeaders file) fun a ha =>
      (hparts a (List.mem_of_mem_filter ha)).2.2 (List.of_mem_filter ha)
    exact ⟨headers, mediaHeaders, as, has, hheaders, hmedia, fun a ha => (hparts a ha).2.1⟩

theorem HasHeaders.read (h : HasHeaders file trak headers mediaHeaders) :
    ∃ t, Track.read file trak = .ok t ∧ t.id = lastNumber 0 headers ∧
      t.timescale = lastNumber 0 mediaHeaders.flatten := by
  obtain ⟨t, ht⟩ := exists_hasHeaders_iff.1 ⟨headers, mediaHeaders, h⟩
  obtain ⟨as, has, hheaders, hmedia, -⟩ := h
  obtain ⟨_, has', hfold⟩ := bind_eq_ok.1 ht
  cases has.symm.trans has'
  refine ⟨t, ht, ?_, ?_⟩
  · rw [← foldl_number]
    exact foldlM_put Track.id (fun _ _ _ => readChild_id) hheaders hfold
  · rw [← foldl_lastNumber]
    exact foldlM_put Track.timescale (fun _ _ _ => readChild_timescale) hmedia hfold

/-- A track is read where all of its parts can be, and then its id is the number of its last header
and its time scale that of its last media header. The number of a header is the one behind its
times, but one that ends within them has it read where the first of them stands, which is only right
where there are no four bytes or they are zero. -/
theorem read_eq_ok_iff (file : Bytes) (trak : Atom) (id timescale : Nat) :
    ((∃ t, Track.read file trak = .ok t ∧ t.id = id ∧ t.timescale = timescale) ↔
      ∃ headers mediaHeaders, HasHeaders file trak headers mediaHeaders ∧
        id = lastNumber 0 headers ∧ timescale = lastNumber 0 mediaHeaders.flatten) ∧
    ∀ payload, numberAt (numberStart payload) payload = numberAt (timesEnd payload) payload ↔
      timesEnd payload ≤ payload.length ∨ numberAt 4 payload = 0 := by
  refine ⟨?_, numberAt_numberStart_eq_iff⟩
  constructor
  · rintro ⟨t, ht, rfl, rfl⟩
    obtain ⟨headers, mediaHeaders, h⟩ := exists_hasHeaders_iff.2 ⟨t, ht⟩
    obtain ⟨t', ht', hid, htimescale⟩ := h.read
    cases ht.symm.trans ht'
    exact ⟨headers, mediaHeaders, h, hid, htimescale⟩
  · rintro ⟨headers, mediaHeaders, h, rfl, rfl⟩
    exact h.read

end Track

end Reading

/-! ## A header that is cut short -/

namespace Shortened

open Bytes (ofNumber)
open Listed (atom)

/-- A header that ends behind the first of its times, which is 2. -/
def header : List UInt8 := ofNumber 4 0 ++ ofNumber 4 2

def movie : List UInt8 :=
  atom "trak" (atom "tkhd" (Book.timed 1) ++ atom "tref" (atom "chap" (ofNumber 4 2))) ++
    atom "trak" (atom "tkhd" header ++ atom "mdia" (Listed.media 8))

/-- The first track refers to the track with the id 2, which no header gives. -/
def file : Bytes := (atom "mdat" [0, 1, 65] ++ atom "moov" movie).toArray

def trak : Atom := ⟨kindOf "trak", 79, 235⟩

def tkhd : Atom := ⟨kindOf "tkhd", 87, 95⟩

def mdia : Atom := ⟨kindOf "mdia", 103, 235⟩

def mdhd : Atom := ⟨kindOf "mdhd", 111, 127⟩

def minf : Atom := ⟨kindOf "minf", 135, 235⟩

theorem hasMediaHeaders : Track.HasMediaHeaders file mdia [Book.timed 600] := by
  have hmdhd : [mdhd, minf].filter (Atom.isKind "mdhd") = [mdhd] := by decide
  refine ⟨[mdhd, minf], by decide +kernel, ?_, ?_⟩
  · rw [HasPayloads, hmdhd]
    exact .cons (by decide +kernel) .nil
  · intro a ha hkind
    obtain rfl | rfl : a = mdhd ∨ a = minf := by simpa using ha
    · exact absurd hkind (by decide)
    · exact ⟨[⟨kindOf "stbl", 143, 235⟩], by decide +kernel⟩

theorem hasHeaders : Track.HasHeaders file trak [header] [[Book.timed 600]] := by
  have htkhd : [tkhd, mdia].filter (Atom.isKind "tkhd") = [tkhd] := by decide
  have hmdia : [tkhd, mdia].filter (Atom.isKind "mdia") = [mdia] := by decide
  refine ⟨[tkhd, mdia], by decide +kernel, ?_, ?_, ?_⟩
  · rw [HasPayloads, htkhd]
    exact .cons (by decide +kernel) .nil
  · rw [hmdia]
    exact .cons hasMediaHeaders .nil
  · intro a ha hkind
    obtain rfl | rfl : a = tkhd ∨ a = mdia := by simpa using ha
    · exact absurd hkind (by decide)
    · exact absurd hkind (by decide)

end Shortened

open Shortened in
/-- There are no four bytes behind the times of this header. The time is read as the id, and the
track is taken for the one that is referred to. -/
theorem time_read_as_id :
    Track.HasHeaders file trak [header] [[Book.timed 600]] ∧
    numberAt (timesEnd header) header = 0 ∧ (Track.read file trak).map Track.id = .ok 2 ∧
    readChapters file file.size = .ok [⟨0, some 5, ⟨1, 600⟩, [⟨"title", "A"⟩]⟩] :=
  ⟨hasHeaders, by decide, by decide +kernel, by decide +kernel⟩

end MediaTags.IsoMedia
