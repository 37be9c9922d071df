import MediaTags.Proofs.Matroska.Routing
import MediaTags.Proofs.Opening.Lengths
import MediaTags.Proofs.Source.Structure

/-!
# What the findings of a demuxer lead to

Readable blocks of metadata may come first. What ends them decides: a readable format opens if none
of its tracks is too long, a block or a format that cannot be read breaks the opening off, and
without either the container is not recognised. Nothing behind that finding is looked at.
-/

namespace MediaTags

namespace Demux

def Value.isBinary : Value → Bool
  | binary _ => true
  | _ => false

theorem Value.text?_eq_none_iff {v : Value} : v.text? = none ↔ v.isBinary = true := by
  cases v <;> simp [text?, isBinary]

/-- The entry of a tag whose value is not binary. -/
def RawTag.textEntry (t : RawTag) : Entry := ⟨t.entryKey, t.value.text?.getD ""⟩

/-- The tags with a value that is not binary, as entries. -/
def textEntries (tags : List RawTag) : List Entry :=
  (tags.filter (!·.value.isBinary)).map RawTag.textEntry

theorem RawTag.entry?_eq (t : RawTag) :
    t.entry? = if t.value.isBinary then none else some t.textEntry := by
  cases hv : t.value.text? with
  | none => rw [if_pos (Value.text?_eq_none_iff.1 hv)]; simp [hv, entry?]
  | some v =>
    have hb : ¬ t.value.isBinary = true := fun hb => by
      rw [Value.text?_eq_none_iff.2 hb] at hv
      cases hv
    rw [if_neg hb]
    simp [textEntry, hv, entry?]

theorem Revision.entries_eq (r : Revision) : r.entries = textEntries r.tags := by
  unfold entries textEntries
  induction r.tags with
  | nil => rfl
  | cons t ts ih =>
    rw [List.filterMap_cons, List.filter_cons, t.entry?_eq]
    cases hb : t.value.isBinary <;> simp [ih]

theorem Revision.flatMap_entries (blocks : List Revision) :
    blocks.flatMap entries = textEntries (blocks.flatMap tags) := by
  rw [funext entries_eq]
  simp only [textEntries, List.filter_flatMap, List.map_flatMap]

namespace Finding

/-- Blocks of metadata, all of them readable. -/
def readable (blocks : List Revision) : List Finding :=
  blocks.map fun block => .metadata (.ok block)

/-- Readable blocks and then a readable format. -/
def Opens (fs : List Finding) (blocks : List Revision) (format : Format) : Prop :=
  ∃ rest, fs = readable blocks ++ .container (.ok format) :: rest

/-- Readable blocks and then nothing, or a demuxer that knows no format. -/
def RunsOut (fs : List Finding) (why : Fault) : Prop :=
  ∃ blocks, (fs = readable blocks ∧ why = .exhausted) ∨
    ∃ rest, fs = readable blocks ++ .nothing why :: rest

/-- Readable blocks and then a block or a format that cannot be read. -/
def Breaks (fs : List Finding) (why : Fault) : Prop :=
  ∃ blocks rest, fs = readable blocks ++ .metadata (.error why) :: rest ∨
    fs = readable blocks ++ .container (.error why) :: rest

variable {fs : List Finding} {blocks : List Revision} {format : Format} {why : Fault}

theorem collect_readable_append (name : String) (blocks acc : List Revision) (fs : List Finding) :
    collect name (readable blocks ++ fs) acc = collect name fs (acc ++ blocks) := by
  induction blocks generalizing acc with
  | nil => simp [readable]
  | cons block blocks ih =>
    have hstep : collect name (readable (block :: blocks) ++ fs) acc
        = collect name (readable blocks ++ fs) (acc ++ [block]) := rfl
    rw [hstep, ih, List.append_assoc, List.singleton_append]

theorem Opens.collect_eq (h : Opens fs blocks format) (name : String) :
    collect name fs [] = .ok (blocks, format) := by
  obtain ⟨rest, rfl⟩ := h
  rw [collect_readable_append]
  rfl

theorem RunsOut.collect_eq (h : RunsOut fs why) (name : String) :
    collect name fs [] = .error (.unrecognized (name ++ ": " ++ why.message)) := by
  obtain ⟨blocks, ⟨rfl, rfl⟩ | ⟨rest, rfl⟩⟩ := h
  · rw [← List.append_nil (readable blocks), collect_readable_append]
    rfl
  · rw [collect_readable_append]
    rfl

theorem Breaks.collect_eq (h : Breaks fs why) (name : String) :
    collect name fs [] = .error (.openFailed (name ++ ": " ++ why.message)) := by
  obtain ⟨blocks, rest, rfl | rfl⟩ := h <;>
  · rw [collect_readable_append]
    rfl

/-- What comes first in a row of findings, once the readable blocks are passed. -/
theorem opens_or_runsOut_or_breaks (fs : List Finding) :
    (∃ blocks format, Opens fs blocks format) ∨ (∃ why, RunsOut fs why) ∨ ∃ why, Breaks fs why := by
  induction fs with
  | nil => exact .inr (.inl ⟨_, [], .inl ⟨rfl, rfl⟩⟩)
  | cons f fs ih =>
    match f with
    | .nothing why => exact .inr (.inl ⟨why, [], .inr ⟨fs, rfl⟩⟩)
    | .metadata (.error why) => exact .inr (.inr ⟨why, [], fs, .inl rfl⟩)
    | .container (.error why) => exact .inr (.inr ⟨why, [], fs, .inr rfl⟩)
    | .container (.ok format) => exact .inl ⟨[], format, fs, rfl⟩
    | .metadata (.ok block) =>
      obtain ⟨blocks, format, rest, rfl⟩ | ⟨why, blocks, ⟨rfl, rfl⟩ | ⟨rest, rfl⟩⟩ |
        ⟨why, blocks, rest, rfl | rfl⟩ := ih
      · exact .inl ⟨block :: blocks, format, rest, rfl⟩
      · exact .inr (.inl ⟨_, block :: blocks, .inl ⟨rfl, rfl⟩⟩)
      · exact .inr (.inl ⟨why, block :: blocks, .inr ⟨rest, rfl⟩⟩)
      · exact .inr (.inr ⟨why, block :: blocks, rest, .inl rfl⟩)
      · exact .inr (.inr ⟨why, block :: blocks, rest, .inr rfl⟩)

theorem collect_eq_ok_iff {name : String} :
    collect name fs [] = .ok (blocks, format) ↔ Opens fs blocks format := by
  constructor
  · intro h
    obtain ⟨blocks', format', hopens⟩ | ⟨why, hout⟩ | ⟨why, hbreaks⟩ :=
      opens_or_runsOut_or_breaks fs
    · rw [hopens.collect_eq] at h
      cases h
      exact hopens
    · rw [hout.collect_eq] at h
      cases h
    · rw [hbreaks.collect_eq] at h
      cases h
  · exact fun hopens => hopens.collect_eq name

theorem collect_eq_error_iff {name : String} {cause : ProbeFailure} :
    collect name fs [] = .error cause ↔
      (∃ why, RunsOut fs why ∧ cause = .unrecognized (name ++ ": " ++ why.message)) ∨
      ∃ why, Breaks fs why ∧ cause = .openFailed (name ++ ": " ++ why.message) := by
  constructor
  · intro h
    obtain ⟨blocks, format, hopens⟩ | ⟨why, hout⟩ | ⟨why, hbreaks⟩ := opens_or_runsOut_or_breaks fs
    · rw [hopens.collect_eq] at h
      cases h
    · rw [hout.collect_eq] at h
      exact .inl ⟨why, hout, (Except.error.inj h).symm⟩
    · rw [hbreaks.collect_eq] at h
      exact .inr ⟨why, hbreaks, (Except.error.inj h).symm⟩
  · rintro (⟨why, hout, rfl⟩ | ⟨why, hbreaks, rfl⟩)
    · exact hout.collect_eq name
    · exact hbreaks.collect_eq name

/-- A finding that is no readable block is the last one looked at. -/
theorem collect_append_cons {found : Finding} (hfound : ∀ block, found ≠ .metadata (.ok block))
    (name : String) (blocks : List Revision) (rest : List Finding) :
    collect name (readable blocks ++ found :: rest) []
      = collect name (readable blocks ++ [found]) [] := by
  rw [collect_readable_append, collect_readable_append]
  match found with
  | .nothing _ => rfl
  | .metadata (.error _) => rfl
  | .metadata (.ok block) => exact absurd rfl (hfound block)
  | .container (.error _) => rfl
  | .container (.ok _) => rfl

end Finding

end Demux

open Demux (Fault Finding Format Revision)
open Demux.Track (Overlong lengths)

namespace Opening

/-- The rate that a container's length and duration come to. -/
def estimate? : Option Nat → Option Int → Option Nat
  | some len, some d => if 0 < d then bitRate? len d.toNat else none
  | _, _ => none

theorem estimate?_eq_none {byteLen : Option Nat} {durationUs : Option Int}
    (h : ∀ len d, byteLen = some len → durationUs = some d → d ≤ 0) :
    estimate? byteLen durationUs = none := by
  unfold estimate?
  split
  · next len d => exact if_neg (h len d rfl rfl).not_gt
  · rfl

theorem setBitRate_none (streams : List Stream) : setBitRate none streams = streams := by
  induction streams with
  | nil => rfl
  | cons s rest ih =>
    rw [setBitRate, ih]
    split
    · next h => rw [← h.2]
    · rfl

/-- The estimate of a bit rate changes nothing but the streams, and these as if it were always made:
an unknown rate is what a stream without one has. -/
theorem estimateBitRate_eq (c : Container) :
    estimateBitRate c =
      { c with streams := setBitRate (estimate? c.byteLen c.durationUs) c.streams } := by
  unfold estimateBitRate
  split
  · next len d hlen hd =>
    have hestimate : estimate? c.byteLen c.durationUs =
        if 0 < d then bitRate? len d.toNat else none := by rw [hlen, hd, estimate?]
    rw [hestimate]
    split
    · rfl
    · rw [setBitRate_none]
  · next hunknown =>
    have hnone : estimate? c.byteLen c.durationUs = none :=
      estimate?_eq_none fun len d hlen hd => (hunknown len d hlen hd).elim
    rw [hnone, setBitRate_none]

/-- The tags of the metadata in force in a format. -/
def formatTags (format : Format) : List Demux.RawTag := (format.revision.map Revision.tags).getD []

/-- The entries of the container itself: the tags of a Matroska file if it has a section of them,
and otherwise those of the format. -/
def ownEntries (structure? : Option Structure) (format : Format) : List Entry :=
  match structure? with
  | some (.matroska info) =>
    if info.hasTags then info.tags else Demux.textEntries (formatTags format)
  | _ => Demux.textEntries (formatTags format)

theorem formatTags_entries (format : Format) :
    (format.revision.map Revision.entries).getD [] = Demux.textEntries (formatTags format) := by
  unfold formatTags
  cases format.revision with
  | none => rfl
  | some r => exact r.entries_eq

theorem metadata_container (name : String) (byteLen : Option Nat) (structure? : Option Structure)
    (blocks : List Revision) (format : Format) (longestUs : Option Int) :
    (container name byteLen structure? blocks format longestUs).metadata
      = Demux.textEntries (blocks.flatMap Revision.tags) ++ ownEntries structure? format := by
  rw [container, estimateBitRate_eq]
  simp only [entries, formatTags_entries, Revision.flatMap_entries]
  obtain _ | ⟨info⟩ | ⟨chapters⟩ := structure? <;> rfl

end Opening

namespace Source

section Probe

variable {s s' : Source} {walk : List Request} {structure? : Option Structure} {name : String}
  {settings : ProbeSettings} {fs : List Finding} {blocks : List Revision} {format : Format}

/-- What is opened where the longest track can be told in microseconds. -/
def opened (s : Source) (structure? : Option Structure) (name : String) (settings : ProbeSettings)
    (blocks : List Revision) (format : Format) : Opened where
  name := name
  seekable := (Buffered.ofSource s settings.blockSize).isSeekable
  container := Opening.container name (Buffered.ofSource s settings.blockSize).byteLen? structure?
    blocks format ((lengths format.tracks).max?.map (· * 1000))

theorem openWith_eq : s.openWith structure? name settings fs =
    (Finding.collect name fs []).mapError .failure >>= fun found =>
      if Overlong found.2.tracks then .error .overflow
      else .ok (s.opened structure? name settings found.1 found.2) := by
  rw [openWith]
  refine congrArg _ (funext fun ⟨blocks, format⟩ => ?_)
  dsimp only
  rw [Opening.longestUs?_streams]
  by_cases hlong : Overlong format.tracks
  · rw [if_pos hlong, if_pos hlong]
    rfl
  · rw [if_neg hlong, if_neg hlong]
    rfl

theorem openWith_of_opens (h : Finding.Opens fs blocks format) :
    s.openWith structure? name settings fs =
      if Overlong format.tracks then .error .overflow
      else .ok (s.opened structure? name settings blocks format) := by
  rw [openWith_eq, h.collect_eq]
  rfl

theorem openWith_eq_ok_iff {o : Opened} :
    s.openWith structure? name settings fs = .ok o ↔
      ∃ blocks format, Finding.Opens fs blocks format ∧ ¬ Overlong format.tracks ∧
        o = s.opened structure? name settings blocks format := by
  simp only [openWith_eq, bind_eq_ok, mapError_eq_ok, Prod.exists, Finding.collect_eq_ok_iff]
  refine exists_congr fun blocks => exists_congr fun format => and_congr_right fun _ => ?_
  split <;> simp [*, eq_comm]

theorem openWith_eq_overflow_iff :
    s.openWith structure? name settings fs = .error .overflow ↔
      ∃ blocks format, Finding.Opens fs blocks format ∧ Overlong format.tracks := by
  simp [openWith_eq, bind_eq_error, mapError_failure_ne_overflow, mapError_eq_ok,
    Finding.collect_eq_ok_iff]

theorem openWith_eq_failure_iff {cause : ProbeFailure} :
    s.openWith structure? name settings fs = .error (.failure cause) ↔
      Finding.collect name fs [] = .error cause := by
  rw [openWith_eq, bind_eq_error, mapError_eq_error]
  constructor
  · rintro (⟨_, hfound, hcause⟩ | ⟨found, -, h⟩)
    · cases hcause
      exact hfound
    · split at h <;> cases h
  · exact fun hfound => .inl ⟨cause, hfound, rfl⟩

theorem probe_eq (h : s.readStructure walk = .ok (structure?, s')) (name : String)
    (settings : ProbeSettings) (findings : List Finding) :
    s.probe name settings findings walk = s'.openWith structure? name settings findings := by
  rw [probe, h]
  rfl

/-- Where the structure cannot be read, nothing is opened. -/
theorem probe_of_error {why : Abort IoFailure} (h : s.readStructure walk = .error why)
    (name : String) (settings : ProbeSettings) (findings : List Finding) :
    s.probe name settings findings walk = .error (why.map .io) := by
  rw [probe, h]
  rfl

/-- An opened container is put together from the structure and from the findings that open it. -/
theorem probe_of_opens (h : s.readStructure walk = .ok (structure?, s'))
    (hopens : Finding.Opens fs blocks format) (name : String) (settings : ProbeSettings) :
    s.probe name settings fs walk =
      if Overlong format.tracks then .error .overflow
      else .ok (s'.opened structure? name settings blocks format) := by
  rw [probe_eq h, openWith_of_opens hopens]

theorem probe_of_not_overlong (h : s.readStructure walk = .ok (structure?, s'))
    (hopens : Finding.Opens fs blocks format) (hfits : ¬ Overlong format.tracks) (name : String)
    (settings : ProbeSettings) :
    ∃ o, s.probe name settings fs walk = .ok o ∧
      o = s'.opened structure? name settings blocks format :=
  ⟨_, by rw [probe_of_opens h hopens, if_neg hfits], rfl⟩

theorem probe_eq_overflow_iff_of_opens (h : s.readStructure walk = .ok (structure?, s'))
    (hopens : Finding.Opens fs blocks format) :
    s.probe name settings fs walk = .error .overflow ↔ Overlong format.tracks := by
  rw [probe_of_opens h hopens]
  split <;> simp [*]

theorem exists_of_probe {o : Opened} (h : s.probe name settings fs walk = .ok o) :
    ∃ structure? s' blocks format, s.readStructure walk = .ok (structure?, s') ∧
      Finding.Opens fs blocks format ∧ ¬ Overlong format.tracks ∧
      o = s'.opened structure? name settings blocks format := by
  cases hread : s.readStructure walk with
  | error why =>
    rw [probe_of_error hread] at h
    cases h
  | ok found =>
    obtain ⟨structure?, s'⟩ := found
    rw [probe_eq hread] at h
    obtain ⟨blocks, format, hopens, hfits, ho⟩ := openWith_eq_ok_iff.1 h
    exact ⟨structure?, s', blocks, format, rfl, hopens, hfits, ho⟩

/-! ## The structure that was read -/

theorem readInfo_of_readStructure {info : Matroska.Info}
    (h : s.readStructure walk = .ok (some (.matroska info), s')) :
    Matroska.readInfo s.data s.data.size = .ok info := by
  obtain ⟨layout, -, hread⟩ := structureOf_eq_some_iff.1 (structureOf_of_readStructure h)
  cases layout with
  | matroska =>
    obtain ⟨found, hfound, hinfo⟩ := map_eq_ok.1 (mapError_eq_ok.1 hread)
    cases hinfo
    exact hfound
  | isoMedia =>
    obtain ⟨chapters, -, hchapters⟩ := map_eq_ok.1 (mapError_eq_ok.1 hread)
    cases hchapters

/-- What is found in a source that can move and stands at its start is what its bytes hold. -/
theorem structureOf_of_start (h : s.readStructure walk = .ok (structure?, s'))
    (hm : s.seeking = .memory ∨ s.seeking = .file) (hs : s.sized = true) (hp : s.position = 0) :
    structureOf s.data = .ok structure? := by
  obtain ⟨s'', -, -, hread⟩ := readStructure_start hm hs hp walk
  obtain ⟨found, hfound, hpair⟩ := map_eq_ok.1 (hread.symm.trans h)
  cases hpair
  exact hfound

/-- A Matroska structure that was found has tags if it has a section for them. -/
theorem hasTags_of_readStructure {info : Matroska.Info}
    (h : s.readStructure walk = .ok (some (.matroska info), s')) :
    ∃ segment sections, Matroska.readSegment s.data s.data.size = .ok segment ∧
      Matroska.readSections s.data segment = .ok sections ∧
      (info.hasTags = true ↔ ∃ e ∈ sections, e.id = Matroska.Id.tags) :=
  Matroska.hasTags_of_readInfo (readInfo_of_readStructure h)

end Probe

/-- What an opening comes to. Where the structure cannot be read, it ends with that. Otherwise it
is told which findings open the container, on which of these the length of a track overflows, which
leave the container unrecognised and which break the opening off; the entries of an opened
container, for which it counts whether a Matroska file has a section of tags; that a source at its
start is looked through for that, whatever its reads give at a time; and that a finding other than a
readable block is the last one looked at. -/
theorem probe_outcome (s : Source) (walk : List Request) (name : String) (settings : ProbeSettings)
    (fs : List Finding) :
    (∀ why, s.readStructure walk = .error why →
      s.probe name settings fs walk = .error (why.map .io)) ∧
    ∀ structure? s', s.readStructure walk = .ok (structure?, s') →
      ((∃ o, s.probe name settings fs walk = .ok o) ↔
        ∃ blocks format, Finding.Opens fs blocks format ∧ ¬ Overlong format.tracks) ∧
      (s.probe name settings fs walk = .error .overflow ↔
        ∃ blocks format, Finding.Opens fs blocks format ∧ Overlong format.tracks) ∧
      (∀ what, s.probe name settings fs walk = .error (.failure (.unrecognized what)) ↔
        ∃ why, Finding.RunsOut fs why ∧ what = name ++ ": " ++ why.message) ∧
      (∀ what, s.probe name settings fs walk = .error (.failure (.openFailed what)) ↔
        ∃ why, Finding.Breaks fs why ∧ what = name ++ ": " ++ why.message) ∧
      (∀ blocks format, Finding.Opens fs blocks format → ¬ Overlong format.tracks →
        ∃ o, s.probe name settings fs walk = .ok o ∧
          o.container.metadata = Demux.textEntries (blocks.flatMap Revision.tags) ++
            Opening.ownEntries structure? format) ∧
      (∀ info, structure? = some (.matroska info) →
        ∃ segment sections, Matroska.readSegment s.data s.data.size = .ok segment ∧
          Matroska.readSections s.data segment = .ok sections ∧
          (info.hasTags = true ↔ ∃ e ∈ sections, e.id = Matroska.Id.tags)) ∧
      (s.seeking = .memory ∨ s.seeking = .file → s.sized = true → s.position = 0 →
        structureOf s.data = .ok structure?) ∧
      (∀ blocks found rest, fs = Finding.readable blocks ++ found :: rest →
        (∀ block, found ≠ .metadata (.ok block)) →
        s.probe name settings fs walk
          = s.probe name settings (Finding.readable blocks ++ [found]) walk) := by
  refine ⟨fun why h => probe_of_error h name settings fs, fun structure? s' h => ?_⟩
  simp only [probe_eq h]
  refine ⟨?_, openWith_eq_overflow_iff, fun what => ?_, fun what => ?_, ?_, ?_,
    structureOf_of_start h, ?_⟩
  · simp only [openWith_eq_ok_iff]
    grind
  · rw [openWith_eq_failure_iff, Finding.collect_eq_error_iff]
    simp
  · rw [openWith_eq_failure_iff, Finding.collect_eq_error_iff]
    simp
  · intro blocks format hopens hfits
    rw [openWith_of_opens hopens, if_neg hfits]
    exact ⟨_, rfl, Opening.metadata_container ..⟩
  · rintro info rfl
    exact hasTags_of_readStructure h
  · rintro blocks found rest rfl hfound
    rw [openWith, openWith, Finding.collect_append_cons hfound]

namespace TwoBlocks

/-- A Matroska file with one tag for the whole file. -/
def file : Bytes :=
  #[0x1A, 0x45, 0xDF, 0xA3, 0x80, 0x18, 0x53, 0x80, 0x67, 0x93, 0x12, 0x54, 0xC3, 0x67, 0x8E,
    0x73, 0x73, 0x8B, 0x67, 0xC8, 0x88, 0x45, 0xA3, 0x81, 0x54, 0x44, 0x87, 0x81, 0x4C]

/-- A source of which a first read gives three bytes. -/
def source : Source := { data := file, grants := [3] }

def blocks : List Revision :=
  [{ tags := [{ key := "TIT2", value := .text "So What" },
      { key := "PRIV", value := .binary #[0] }] },
    { tags := [{ key := "??", standard := some .bpm, value := .int 136 }] }]

def format : Format :=
  { revision := some { tags := [{ key := "TITLE", value := .text "Part I" }] } }

end TwoBlocks

open TwoBlocks in
theorem probe_outcome_twoBlocks :
    source.readStructure []
      = .ok (some (.matroska { tags := [⟨"T", "L"⟩], hasTags := true }), .ofBytes file) ∧
    structureOf file = .ok (some (.matroska { tags := [⟨"T", "L"⟩], hasTags := true })) ∧
    (∃ o, source.probe "a.mka" {}
        (Finding.readable blocks ++ [.container (.ok format), .nothing .reset]) [] = .ok o ∧
      o.container.metadata = [⟨"TIT2", "So What"⟩, ⟨"BPM", "136"⟩, ⟨"T", "L"⟩]) ∧
    (inMemory overlong 0 0).probe "a.m4b" {} [] [] = .error .overflow := by
  have hread : source.readStructure []
      = .ok (some (.matroska { tags := [⟨"T", "L"⟩], hasTags := true }), .ofBytes file) := by
    decide +kernel
  obtain ⟨-, hfound⟩ := probe_outcome source [] "a.mka" {}
    (Finding.readable blocks ++ [.container (.ok format), .nothing .reset])
  obtain ⟨-, -, -, -, hopens, -, hstart, -⟩ := hfound _ _ hread
  obtain ⟨o, ho, hmetadata⟩ := hopens blocks format ⟨_, rfl⟩ (by decide)
  have hfails : (inMemory overlong 0 0).readStructure [] = .error .overflow := by decide +kernel
  exact ⟨hread, hstart (.inl rfl) rfl rfl, ⟨o, ho, hmetadata.trans (by decide +kernel)⟩,
    (probe_outcome (inMemory overlong 0 0) [] "a.m4b" {} []).1 _ hfails⟩

/-- A readable format behind a readable block is not opened when its track goes on for ever. -/
theorem endless_format_not_opened :
    (forward #[]).readStructure [] = .ok (none, forward #[]) ∧
    Finding.Opens [.metadata (.ok {}), .container (.ok { tracks := [.endless] })] [{}]
      { tracks := [.endless] } ∧
    (forward #[]).probe "a.ogg" {}
      [.metadata (.ok {}), .container (.ok { tracks := [.endless] })] [] = .error .overflow :=
  ⟨rfl, ⟨[], rfl⟩, by decide +kernel⟩

end Source

end MediaTags
