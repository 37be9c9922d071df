import MediaTags.Proofs.Opening.BitRate

/-!
# Two descriptions of one stream

Each track of a demuxer makes one stream. Where the file is Matroska and declares a track of the
same number, that description adds what the demuxer left open and takes nothing back. The bit
rate is in neither description: it is estimated from the container as a whole.
-/

namespace MediaTags

/-- A value that the one description knows stays, and one that it does not know comes from the
other. -/
def Filled {α : Type} (own other result : Option α) : Prop :=
  (∀ v, own = some v → result = some v) ∧ (own = none → result = other)

theorem filled_orElse {α : Type} (own other : Option α) : Filled own other (own <|> other) := by
  cases own with
  | none => exact ⟨by simp, fun _ => rfl⟩
  | some v => exact ⟨fun w hw => hw, by simp⟩

namespace Matroska

/-- The first of some tracks to have a number. -/
def IsFirstNumbered (tracks : List Track) (number : Nat) (m : Track) : Prop :=
  ∃ before after, tracks = before ++ m :: after ∧ m.number = number ∧
    ∀ other ∈ before, other.number ≠ number

theorem track?_eq_some_iff {info : Info} {number : Nat} {m : Track} :
    info.track? number = some m ↔ IsFirstNumbered info.tracks number m := by
  simp only [Info.track?, List.find?_eq_some_iff_append, IsFirstNumbered, beq_iff_eq,
    Bool.not_eq_true', beq_eq_false_iff_ne]
  constructor
  · rintro ⟨hnumber, before, after, htracks, hbefore⟩
    exact ⟨before, after, htracks, hnumber, hbefore⟩
  · rintro ⟨before, after, htracks, hnumber, hbefore⟩
    exact ⟨hnumber, before, after, htracks, hbefore⟩

theorem track?_eq_none_iff {info : Info} {number : Nat} :
    info.track? number = none ↔ ∀ m ∈ info.tracks, m.number ≠ number := by
  simp [Info.track?]

end Matroska

namespace Demux.Track

/-- What of a stream only a demuxer's track tells. Its unit of time is a frame of the sample rate if
the track declares none, and it has no length if the number of frames is unknown or too large. -/
structure DeclaredIn (t : Track) (s : Stream) : Prop where
  bitsPerCodedSample : s.bitsPerCodedSample = t.bitsPerCodedSample
  timeBase : ∀ b, t.timeBase = some b → s.timeBase = some b
  frameUnit : t.timeBase = none → ∀ b, s.timeBase = some b ↔
    ∃ rate, t.sampleRate = some rate ∧ 0 < rate ∧ b = ⟨1, rate⟩
  duration : ∀ frames : Nat, t.frames = some frames → frames ≤ maxInstant →
    s.duration = some (frames : Int)
  noDuration : (∀ frames : Nat, t.frames = some frames → maxInstant < frames) → s.duration = none

/-- What a stream is that only a demuxer's track describes. -/
structure StandsAlone (t : Track) (s : Stream) : Prop extends t.DeclaredIn s where
  codec : ∀ c, t.codec = some c → s.codec = c
  noCodec : t.codec = none → s.codec = .unknown
  profile : s.profile = none
  kind : s.kind =
    if t.codec = none ∧ t.sampleRate = none ∧ t.channels = none then .other else .audio
  sampleRate : s.sampleRate = t.sampleRate
  channels : s.channels = t.channels
  bitsPerRawSample : s.bitsPerRawSample = t.bitsPerSample
  privateData : s.privateData = t.extraData
  metadata : s.metadata = t.language.toList.map (⟨"language", ·⟩)

/-- What a stream is that a demuxer's track and a Matroska track describe. -/
structure MergedWith (t : Track) (m : Matroska.Track) (s : Stream) : Prop
    extends t.DeclaredIn s where
  knownCodec : ∀ c, t.codec = some c → c ≠ .unknown → s.codec = c ∧ s.profile = none
  unknownCodec : t.codec = none ∨ t.codec = some .unknown →
    s.codec = m.codec.1 ∧ s.profile = m.codec.2
  kind : s.kind =
    if m.trackType = some Matroska.Track.audioType then .audio
    else if m.trackType = some Matroska.Track.videoType then .video
    else if t.codec = none ∧ t.sampleRate = none ∧ t.channels = none then .other
    else .audio
  sampleRate : Filled t.sampleRate m.sampleRate s.sampleRate
  channels : Filled t.channels m.channels s.channels
  bitsPerRawSample : Filled t.bitsPerSample m.bitDepth s.bitsPerRawSample
  privateData : Filled t.extraData m.codecPrivate s.privateData
  /-- The demuxer's entries, the name of the track as a title, and the tags of the track. -/
  metadata : s.metadata = t.language.toList.map (⟨"language", ·⟩) ++
    (m.name.toList.filter (· ≠ "")).map (⟨"title", ·⟩) ++ m.tags

theorem kind_toStream (t : Track) (index : Nat) : (t.toStream index).kind =
    if t.codec = none ∧ t.sampleRate = none ∧ t.channels = none then .other else .audio := by
  have hother : t.codec = none ∧ t.sampleRate = none ∧ t.channels = none ↔ ¬ t.isAudio = true := by
    simp [isAudio, and_assoc]
  rw [if_congr hother rfl rfl, ite_not]
  rfl

theorem declaredIn_toStream (t : Track) (index : Nat) : t.DeclaredIn (t.toStream index) where
  bitsPerCodedSample := rfl
  timeBase b hb := unit?_eq_some_iff.2 (.inl hb)
  frameUnit hnone b := by
    refine unit?_eq_some_iff.trans ?_
    simp [CountsIn, hnone]
  duration frames hframes hle := duration?_eq_some_iff.2 ⟨frames, hframes, rfl, hle⟩
  noDuration hlarge := by
    refine Option.eq_none_iff_forall_ne_some.2 fun d hd => ?_
    obtain ⟨frames, hframes, rfl, hle⟩ := duration?_eq_some_iff.1 hd
    exact not_lt.2 hle (hlarge frames hframes)

theorem standsAlone_toStream (t : Track) (index : Nat) (rate : Option Nat) :
    t.StandsAlone { t.toStream index with bitRate := rate } where
  toDeclaredIn := { t.declaredIn_toStream index with }
  codec c hc := by simp [toStream, hc]
  noCodec hnone := by simp [toStream, hnone]
  profile := rfl
  kind := t.kind_toStream index
  sampleRate := rfl
  channels := rfl
  bitsPerRawSample := rfl
  privateData := rfl
  metadata := rfl

theorem entries_eq (m : Matroska.Track) :
    m.entries = (m.name.toList.filter (· ≠ "")).map (⟨"title", ·⟩) ++ m.tags := by
  unfold Matroska.Track.entries
  cases m.name with
  | none => rfl
  | some name => by_cases hempty : name = "" <;> simp [hempty]

theorem mergedWith_applyTo (t : Track) (m : Matroska.Track) (index : Nat) (rate : Option Nat) :
    t.MergedWith m { m.applyTo (t.toStream index) with bitRate := rate } where
  toDeclaredIn := { t.declaredIn_toStream index with }
  knownCodec c hc hknown := by simp [Matroska.Track.applyTo, toStream, hc, hknown]
  unknownCodec hunknown := by
    have hcodec : t.codec.getD .unknown = .unknown := by
      rcases hunknown with h | h <;> rw [h] <;> rfl
    simp [Matroska.Track.applyTo, toStream, hcodec]
  kind := by rw [← t.kind_toStream index]; rfl
  sampleRate := filled_orElse ..
  channels := filled_orElse ..
  bitsPerRawSample := filled_orElse ..
  privateData := filled_orElse ..
  metadata := by simp [Matroska.Track.applyTo, toStream, entries_eq]

end Demux.Track

open Demux (Finding Format Revision)
open Demux.Track (Overlong)

namespace Opening

/-- The stream of a track before a bit rate is estimated. -/
def described (info : Option Matroska.Info) (t : Demux.Track) (index : Nat) : Stream :=
  (info.bind (·.track? t.id)).elim (t.toStream index) (·.applyTo (t.toStream index))

theorem index_described (info : Option Matroska.Info) (t : Demux.Track) (index : Nat) :
    (described info t index).index = index := by
  unfold described
  cases info.bind (·.track? t.id) <;> rfl

theorem streams_eq (info : Option Matroska.Info) (tracks : List Demux.Track) :
    streams info tracks = tracks.mapIdx fun i t => described info t i := by
  unfold streams described
  congr
  funext i t
  cases info.bind (·.track? t.id) <;> rfl

variable {name : String} {byteLen : Option Nat} {structure? : Option Structure}
  {blocks : List Revision} {format : Format} {longestUs : Option Int} {i : Nat} {t : Demux.Track}
  {s : Stream}

/-- A stream of a container is what its track makes of it, but for the bit rate. -/
theorem eq_described (ht : format.tracks[i]? = some t)
    (hs : (container name byteLen structure? blocks format longestUs).streams[i]? = some s) :
    s = { described (structure?.bind Structure.matroska?) t i with bitRate := s.bitRate } := by
  rw [getElem?_streams_container, streams_eq, List.getElem?_mapIdx, ht] at hs
  obtain rfl := Option.some.inj hs
  split <;> rfl

/-- Without a Matroska track of its number a track's stream says what the demuxer says. -/
theorem standsAlone (ht : format.tracks[i]? = some t)
    (hs : (container name byteLen structure? blocks format longestUs).streams[i]? = some s)
    (hnone : ∀ info, structure? = some (.matroska info) → ∀ m ∈ info.tracks, m.number ≠ t.id) :
    t.StandsAlone s := by
  have hfound : (structure?.bind Structure.matroska?).bind (·.track? t.id) = none := by
    match structure? with
    | none => rfl
    | some (.isoMedia _) => rfl
    | some (.matroska info) => exact Matroska.track?_eq_none_iff.2 (hnone info rfl)
  rw [eq_described ht hs, described, hfound]
  exact Demux.Track.standsAlone_toStream ..

theorem mergedWith (ht : format.tracks[i]? = some t)
    (hs : (container name byteLen structure? blocks format longestUs).streams[i]? = some s)
    {info : Matroska.Info} (hinfo : structure? = some (.matroska info)) {m : Matroska.Track}
    (hm : Matroska.IsFirstNumbered info.tracks t.id m) : t.MergedWith m s := by
  have hfound : (structure?.bind Structure.matroska?).bind (·.track? t.id) = some m := by
    rw [hinfo]
    exact Matroska.track?_eq_some_iff.2 hm
  rw [eq_described ht hs, described, hfound]
  exact Demux.Track.mergedWith_applyTo ..

end Opening

namespace Source

/-- The streams of an opened container: one for each track, in order. One without a Matroska track
of its number says what the demuxer says of the track and no more. One with such a track is merged
with the first of them, whose tags are those of the file that name its uid. Neither knows a bit
rate; a stream that has one has the estimate made of the container as a whole. Only the length of a
track keeps the container from being opened. -/
theorem probe_streams {s s' : Source} {walk : List Request} {structure? : Option Structure}
    (hread : s.readStructure walk = .ok (structure?, s')) {findings : List Finding}
    {blocks : List Revision} {format : Format} (hopens : Finding.Opens findings blocks format)
    (name : String) (settings : ProbeSettings) :
    (s.probe name settings findings walk = .error .overflow ↔ Overlong format.tracks) ∧
    (¬ Overlong format.tracks →
      ∃ o, s.probe name settings findings walk = .ok o ∧
        o.container.streams.length = format.tracks.length ∧
        (∀ (i : Nat) (t : Demux.Track) (stream : Stream), format.tracks[i]? = some t →
          o.container.streams[i]? = some stream →
          stream.index = i ∧
          ((∀ info, structure? = some (.matroska info) → ∀ m ∈ info.tracks, m.number ≠ t.id) →
            t.StandsAlone stream) ∧
          (∀ info m, structure? = some (.matroska info) →
            Matroska.IsFirstNumbered info.tracks t.id m → t.MergedWith m stream) ∧
          (stream.bitRate = none ∨ stream.bitRate =
            Opening.estimate? o.container.byteLen o.container.durationUs)) ∧
        ∀ info, structure? = some (.matroska info) →
          ∃ segment sections, Matroska.readSegment s.data s.data.size = .ok segment ∧
            Matroska.readSections s.data segment = .ok sections ∧
            ∀ m ∈ info.tracks, m.tags = ((Matroska.tagsIn s.data sections).filter
              (Matroska.NamesTrack s.data m.uid ·)).flatMap (Matroska.entriesOf s.data)) := by
  refine ⟨probe_eq_overflow_iff_of_opens hread hopens, fun hfits => ?_⟩
  obtain ⟨o, ho, rfl⟩ := probe_of_not_overlong hread hopens hfits name settings
  refine ⟨_, ho, (Opening.forall₂_lasts_container ..).length_eq.symm, ?_, ?_⟩
  · intro i t stream ht hstream
    refine ⟨?_, Opening.standsAlone ht hstream,
      fun info m hinfo hm => Opening.mergedWith ht hstream hinfo hm, ?_⟩
    · rw [Opening.eq_described ht hstream]
      exact Opening.index_described ..
    · have hrate := Opening.bitRate_of_getElem? _ _ _ _ _ _ hstream
      dsimp only at hrate
      split at hrate
      · exact .inr hrate
      · exact .inl hrate
  · rintro info rfl
    exact Matroska.tags_of_readInfo (readInfo_of_readStructure hread)

namespace TwiceNumbered

/-- A Matroska file with two tracks of number 1, the first of them with a name and a tag. -/
def file : Bytes :=
  #[0x1A, 0x45, 0xDF, 0xA3, 0x80, 0x18, 0x53, 0x80, 0x67, 0xC8, 0x16, 0x54, 0xAE, 0x6B, 0xA9,
    0xAE, 0x9A, 0xD7, 0x81, 0x01, 0x73, 0xC5, 0x81, 0x07, 0x86, 0x88, 0x41, 0x5F, 0x54, 0x52,
    0x55, 0x45, 0x48, 0x44, 0x53, 0x6E, 0x81, 0x4E, 0xE1, 0x83, 0x9F, 0x81, 0x08, 0xAE, 0x8B,
    0xD7, 0x81, 0x01, 0x86, 0x86, 0x41, 0x5F, 0x46, 0x4C, 0x41, 0x43, 0x12, 0x54, 0xC3, 0x67,
    0x95, 0x73, 0x73, 0x92, 0x63, 0xC0, 0x84, 0x63, 0xC5, 0x81, 0x07, 0x67, 0xC8, 0x88, 0x45,
    0xA3, 0x81, 0x45, 0x44, 0x87, 0x81, 0x78]

def named : Matroska.Track where
  number := 1
  uid := 7
  codecId := "A_TRUEHD"
  name := some "N"
  channels := some 8
  tags := [⟨"E", "x"⟩]

def info : Matroska.Info where
  tracks := [named, { number := 1, codecId := "A_FLAC" }]
  hasTags := true

def silent : Demux.Track := { id := 1, sampleRate := some 44100, language := some "de" }

def stereo : Demux.Track :=
  { id := 2, codec := some .mp3, channels := some 2, frames := some 9, timeBase := some ⟨1, 3⟩ }

def format : Format := { tracks := [silent, stereo] }

end TwiceNumbered

open TwiceNumbered in
theorem probe_streams_twiceNumbered :
    (ofBytes file).readStructure [] = .ok (some (.matroska info), ofBytes file) ∧
    Finding.Opens [.container (.ok format)] [] format ∧ ¬ Overlong format.tracks ∧
    ∃ o merged alone, (ofBytes file).probe "a.mka" {} [.container (.ok format)] [] = .ok o ∧
      o.container.streams = [merged, alone] ∧ merged.codec = .trueHd ∧
      merged.sampleRate = some 44100 ∧ merged.channels = some 8 ∧
      merged.metadata = [⟨"language", "de"⟩, ⟨"title", "N"⟩, ⟨"E", "x"⟩] ∧
      alone.codec = .mp3 ∧ alone.timeBase = some ⟨1, 3⟩ ∧ alone.duration = some 9 := by
  have hread : (ofBytes file).readStructure [] = .ok (some (.matroska info), ofBytes file) := by
    decide +kernel
  have hopens : Finding.Opens [.container (.ok format)] [] format := ⟨[], rfl⟩
  have hfits : ¬ Overlong format.tracks := by decide
  obtain ⟨o, ho, hlength, hstreams, -⟩ := (probe_streams hread hopens "a.mka" {}).2 hfits
  obtain ⟨merged, alone, hlist⟩ : ∃ merged alone, o.container.streams = [merged, alone] :=
    List.length_eq_two.1 hlength
  obtain ⟨-, -, hmerged, -⟩ := hstreams 0 silent merged rfl (by rw [hlist]; rfl)
  obtain ⟨-, halone, -, -⟩ := hstreams 1 stereo alone rfl (by rw [hlist]; rfl)
  have hfirst : Matroska.IsFirstNumbered info.tracks 1 named := ⟨[], _, rfl, rfl, by simp⟩
  have hnone : ∀ found, some (Structure.matroska info) = some (.matroska found) →
      ∀ m ∈ found.tracks, m.number ≠ stereo.id := by
    rintro _ ⟨⟩
    decide
  have h := hmerged info named rfl hfirst
  have hsecond := halone hnone
  exact ⟨hread, hopens, hfits, o, merged, alone, ho, hlist, (h.unknownCodec (.inl rfl)).1,
    h.sampleRate.1 _ rfl, h.channels.2 rfl, h.metadata.trans (by decide), hsecond.codec _ rfl,
    hsecond.timeBase _ rfl, hsecond.duration 9 rfl (by decide)⟩

open TwiceNumbered in
/-- A track that goes on for ever leaves the track beside it without a stream, too. -/
theorem endless_track_without_streams :
    (ofBytes file).readStructure [] = .ok (some (.matroska info), ofBytes file) ∧
    (ofBytes file).probe "a.mka" {} [.container (.ok { tracks := [silent, .endless] })] []
      = .error .overflow := by
  decide +kernel

end Source

end MediaTags
