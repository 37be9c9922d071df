import MediaTags.LoadedTag
import MediaTags.Proofs.Normalize.Twice
import MediaTags.Proofs.Opening.Streams
import MediaTags.Proofs.Text.Blank
import MediaTags.Proofs.Text.LeadingNumber
import MediaTags.Proofs.Text.Search

/-!
# Codecs without a name

A declared profile has a name, and so has every codec that goes by a name of its own; one that
nobody declares is called `unknown`. Where the demuxer knows no codec, a Matroska track of the same
number stands in for it with the short form of its codec id. If nothing of that can be seen, then
neither can the name, and the tag of the file has no codec.
-/

namespace MediaTags

open Text (AllBlank)

theorem Text.allBlank_asciiLower {s : String} : AllBlank (asciiLower s) ↔ AllBlank s := by
  simp [AllBlank, asciiLower]

theorem Codec.allBlank_shortName_iff {c : Codec} :
    AllBlank c.shortName ↔ ∃ name, c = .other name ∧ AllBlank name := by
  constructor
  · intro h
    cases c with
    | other name => exact ⟨name, rfl, h⟩
    | _ => exact absurd h (by decide)
  · rintro ⟨name, rfl, h⟩
    exact h

theorem Profile.not_allBlank_name (p : Profile) : ¬ AllBlank p.name := by
  cases p <;> decide

namespace Stream

theorem codecName_of_profile {s : Stream} {p : Profile} (h : s.profile = some p) :
    s.codecName = p.name := by
  rw [codecName, h]

/-- Without a declared profile, a hint turns a name into that of a profile or does nothing. -/
theorem codecName_eq_or {s : Stream} (h : s.profile = none) :
    s.codecName = s.codec.shortName ∨ ∃ p : Profile, s.codecName = p.name := by
  unfold codecName
  rw [h]
  dsimp only
  split
  · exact .inr ⟨_, rfl⟩
  · split
    · exact .inr ⟨_, rfl⟩
    · exact .inl rfl
  · exact .inr ⟨_, rfl⟩
  · exact .inr ⟨_, rfl⟩
  · exact .inl rfl

/-- Hints only apply to codecs with a name of their own. -/
theorem codecName_of_other {s : Stream} {name : String} (hprofile : s.profile = none)
    (hcodec : s.codec = .other name) : s.codecName = name := by
  simp [codecName, hprofile, hcodec, Codec.shortName]

theorem codecName_of_unknown {s : Stream} (hprofile : s.profile = none)
    (hcodec : s.codec = .unknown) : s.codecName = "unknown" := by
  simp [codecName, hprofile, hcodec, Codec.shortName]

theorem allBlank_codecName_iff {s : Stream} :
    AllBlank s.codecName ↔ s.profile = none ∧ ∃ name, s.codec = .other name ∧ AllBlank name := by
  constructor
  · intro h
    cases hprofile : s.profile with
    | some p =>
      rw [codecName_of_profile hprofile] at h
      exact absurd h p.not_allBlank_name
    | none =>
      obtain hshort | ⟨p, hp⟩ := codecName_eq_or hprofile
      · exact ⟨rfl, Codec.allBlank_shortName_iff.1 (hshort ▸ h)⟩
      · exact absurd (hp ▸ h) p.not_allBlank_name
  · rintro ⟨hprofile, name, hcodec, hname⟩
    rwa [codecName_of_other hprofile hcodec]

end Stream

namespace Matroska.Track

/-- Nothing can be seen of the codec id, or of what follows the `A_` that marks it as audio. -/
def NamesNothing (m : Track) : Prop :=
  ∃ rest, AllBlank rest ∧ (m.codecId = rest ∨ m.codecId = "A_" ++ rest)

theorem namesNothing_iff {m : Track} :
    m.NamesNothing ↔ AllBlank ((Text.after? "A_" m.codecId).getD m.codecId) := by
  constructor
  · rintro ⟨rest, hrest, rfl | hid⟩
    · cases hafter : Text.after? "A_" m.codecId with
      | none => exact hrest
      | some rest =>
        have hmem : 'A' ∈ m.codecId.toList := by
          rw [Text.after?_eq_some_iff.1 hafter]
          simp
        exact absurd (hrest 'A' hmem) (by decide)
    · rwa [Text.after?_eq_some_iff.2 hid]
  · intro h
    cases hafter : Text.after? "A_" m.codecId with
    | none => exact ⟨m.codecId, by rwa [hafter] at h, .inl rfl⟩
    | some rest => exact ⟨rest, by rwa [hafter] at h, .inr (Text.after?_eq_some_iff.1 hafter)⟩

theorem not_namesNothing_of_after {m : Track} {word : String} (hword : ¬ AllBlank word)
    (h : (Text.after? ("A_" ++ word) m.codecId).isSome) : ¬ m.NamesNothing := by
  obtain ⟨rest, hrest⟩ := Option.isSome_iff_exists.1 h
  have hid : m.codecId = "A_" ++ (word ++ rest) := by
    rw [Text.after?_eq_some_iff.1 hrest, String.append_assoc]
  rw [namesNothing_iff, Text.after?_eq_some_iff.2 hid, Option.getD_some, Text.allBlank_append]
  exact fun hboth => hword hboth.1

/-- A codec id gives a codec with a blank name exactly if it names nothing. -/
theorem allBlank_shortName_codec_iff {m : Track} :
    AllBlank m.codec.1.shortName ↔ m.NamesNothing := by
  unfold codec
  split
  case h_12 =>
    split
    · next hword =>
      have hseen : ¬ AllBlank "AC3" := by decide
      exact iff_of_false (by decide) (not_namesNothing_of_after hseen hword)
    · split
      · next hword =>
        have hseen : ¬ AllBlank "AAC" := by decide
        exact iff_of_false (by decide) (not_namesNothing_of_after hseen hword)
      · rw [namesNothing_iff]
        exact Text.allBlank_asciiLower
  -- the ids that are spelled out
  all_goals
    next hid =>
    rw [namesNothing_iff, hid]
    decide

/-- A codec that only goes by its short name has no declared profile. -/
theorem profile_of_other {m : Track} {name : String} (h : m.codec.1 = .other name) :
    m.codec.2 = none := by
  unfold codec at h ⊢
  grind

theorem other_allBlank_iff {m : Track} :
    (m.codec.2 = none ∧ ∃ name, m.codec.1 = .other name ∧ AllBlank name) ↔ m.NamesNothing := by
  rw [← allBlank_shortName_codec_iff, Codec.allBlank_shortName_iff]
  exact and_iff_right_of_imp fun ⟨_, hother, _⟩ => profile_of_other hother

end Matroska.Track

open Demux (Finding Format Revision)

namespace Opening

/-- Why a track's codec has a name that cannot be seen. -/
inductive Nameless (structure? : Option Structure) (t : Demux.Track) : Prop where
  /-- The demuxer knows the codec under such a short name. -/
  | shortName (name : String) (codec : t.codec = some (.other name)) (blank : AllBlank name)
  /-- The demuxer does not know the codec, and the Matroska track in its place has a codec id that
  names nothing. -/
  | codecId (info : Matroska.Info) (m : Matroska.Track)
    (unknown : t.codec = none ∨ t.codec = some .unknown)
    (declared : structure? = some (.matroska info))
    (first : Matroska.IsFirstNumbered info.tracks t.id m) (nothing : m.NamesNothing)

/-- A Matroska file has a track for the number of a demuxer's track. -/
def IsDeclared (structure? : Option Structure) (t : Demux.Track) : Prop :=
  ∃ info m, structure? = some (.matroska info) ∧ Matroska.IsFirstNumbered info.tracks t.id m

variable {name : String} {byteLen : Option Nat} {structure? : Option Structure}
  {blocks : List Revision} {format : Format} {longestUs : Option Int} {i : Nat} {t : Demux.Track}
  {s : Stream}

theorem number_ne_of_not_isDeclared (h : ¬ IsDeclared structure? t) {info : Matroska.Info}
    (hinfo : structure? = some (.matroska info)) : ∀ m ∈ info.tracks, m.number ≠ t.id := by
  refine Matroska.track?_eq_none_iff.1 (Option.eq_none_iff_forall_ne_some.2 fun m hm => h ?_)
  exact ⟨info, m, hinfo, Matroska.track?_eq_some_iff.1 hm⟩

/-- Where a stream has its codec from: the demuxer knows it, or else a Matroska track declares it,
or else nobody does. -/
theorem codec_stream_cases (ht : format.tracks[i]? = some t)
    (hs : (container name byteLen structure? blocks format longestUs).streams[i]? = some s) :
    (∃ c, t.codec = some c ∧ c ≠ .unknown ∧ s.codec = c ∧ s.profile = none) ∨
    (t.codec = none ∨ t.codec = some .unknown) ∧
      ((∃ info m, structure? = some (.matroska info) ∧
        Matroska.IsFirstNumbered info.tracks t.id m ∧ s.codec = m.codec.1 ∧ s.profile = m.codec.2) ∨
      ¬ IsDeclared structure? t ∧ s.codec = .unknown ∧ s.profile = none) := by
  have hcases :
      (∃ c, t.codec = some c ∧ c ≠ .unknown) ∨ t.codec = none ∨ t.codec = some .unknown := by
    cases t.codec with
    | none => exact .inr (.inl rfl)
    | some c => by_cases hc : c = .unknown <;> simp [hc]
  by_cases hdeclared : IsDeclared structure? t
  · obtain ⟨info, m, hinfo, hm⟩ := hdeclared
    have hmerged := mergedWith ht hs hinfo hm
    obtain ⟨c, hc, hknown⟩ | hunknown := hcases
    · exact .inl ⟨c, hc, hknown, hmerged.knownCodec c hc hknown⟩
    · exact .inr ⟨hunknown, .inl ⟨info, m, hinfo, hm, hmerged.unknownCodec hunknown⟩⟩
  · have halone := standsAlone ht hs fun info hinfo => number_ne_of_not_isDeclared hdeclared hinfo
    obtain ⟨c, hc, hknown⟩ | hunknown := hcases
    · exact .inl ⟨c, hc, hknown, halone.codec c hc, halone.profile⟩
    · have hcodec : s.codec = .unknown := hunknown.elim halone.noCodec (halone.codec .unknown)
      exact .inr ⟨hunknown, .inr ⟨hdeclared, hcodec, halone.profile⟩⟩

theorem allBlank_codecName_iff (ht : format.tracks[i]? = some t)
    (hs : (container name byteLen structure? blocks format longestUs).streams[i]? = some s) :
    AllBlank s.codecName ↔ Nameless structure? t := by
  rw [Stream.allBlank_codecName_iff]
  obtain ⟨c, hc, hknown, hcodec, hprofile⟩ |
      ⟨hunknown, ⟨info, m, hinfo, hm, hcodec, hprofile⟩ | ⟨hdeclared, hcodec, hprofile⟩⟩ :=
    codec_stream_cases ht hs
  · rw [hcodec, hprofile]
    constructor
    · rintro ⟨-, short, rfl, hblank⟩
      exact .shortName short hc hblank
    · rintro (⟨short, hshort, hblank⟩ | ⟨-, -, hunknown, -, -, -⟩)
      · exact ⟨rfl, short, Option.some.inj (hc.symm.trans hshort), hblank⟩
      · simp [hc, hknown] at hunknown
  · rw [hcodec, hprofile, Matroska.Track.other_allBlank_iff]
    constructor
    · exact .codecId info m hunknown hinfo hm
    · rintro (⟨short, hshort, hblank⟩ | ⟨info', m', -, hinfo', hm', hnothing⟩)
      · simp [hshort] at hunknown
      · cases hinfo.symm.trans hinfo'
        -- the first track of a number is the only one that counts
        have hsame : some m = some m' := by
          rw [← Matroska.track?_eq_some_iff.2 hm, Matroska.track?_eq_some_iff.2 hm']
        exact Option.some.inj hsame ▸ hnothing
  · rw [hcodec, hprofile]
    refine iff_of_false (by simp) ?_
    rintro (⟨short, hshort, -⟩ | ⟨info, m, -, hinfo, hm, -⟩)
    · simp [hshort] at hunknown
    · exact hdeclared ⟨info, m, hinfo, hm⟩

end Opening

namespace Container

/-- The codec that the tag of a file is given is the name of the codec, trimmed. -/
theorem codec_withFacts (t : Tag) (facts : CodecFacts) (art : Option Picture) :
    Tag.codec { t.applyFacts facts with art }.finish =
      (Text.present? facts.codecName).getD t.codec := by
  simp only [Tag.finish, Tag.applyFacts]

theorem codec_loadTag {c : Container} {facts : CodecFacts} (h : c.probeCodec = .ok facts)
    (s : Separators) (cover : Option Picture) :
    ∃ loaded, c.loadTag s cover = .ok loaded ∧ loaded.tag.codec = Text.trim facts.codecName := by
  have hempty : (c.describe s).tag.codec = "" :=
    ((Tag.sameFacts_applyAll ..).trans (Tag.sameFacts_applyAll ..)).codec
  refine ⟨_, by rw [loadTag, h]; rfl, ?_⟩
  rw [codec_withFacts, hempty]
  cases hname : Text.present? facts.codecName with
  | none => exact (Text.present?_eq_none_iff.1 hname).symm
  | some codec => exact (Text.present?_eq_some_iff.1 hname).1

theorem codecName_probeCodec {c : Container} {s : Stream} (h : c.firstAudio? = some s) :
    ∃ facts, c.probeCodec = .ok facts ∧ facts.codecName = s.codecName := by
  rw [probeCodec, h]
  refine ⟨_, rfl, ?_⟩
  split <;> rfl

end Container

namespace Source

/-- The codec of an opened container with an audio stream is always probed, and the tag of the file
takes over its name. The name can be seen, and the tag has a codec, unless the demuxer's own name is
blank or it knows no codec and the Matroska track of that number has a codec id that names nothing.
A codec that neither of them declares is called `unknown`. The Matroska tracks of a source at its
start are those that its bytes hold, whatever its reads give at a time. -/
theorem probe_codecName {s : Source} {walk : List Request} {findings : List Finding}
    {name : String} {settings : ProbeSettings} {o : Opened} {stream : Stream}
    (h : s.probe name settings findings walk = .ok o)
    (haudio : o.container.firstAudio? = some stream) :
    ∃ structure? s' blocks format t facts, s.readStructure walk = .ok (structure?, s') ∧
      (s.seeking = .memory ∨ s.seeking = .file → s.sized = true → s.position = 0 →
        structureOf s.data = .ok structure?) ∧
      Finding.Opens findings blocks format ∧ format.tracks[stream.index]? = some t ∧
      o.container.probeCodec = .ok facts ∧
      (AllBlank facts.codecName ↔ Opening.Nameless structure? t) ∧
      (t.codec = none ∨ t.codec = some .unknown → ¬ Opening.IsDeclared structure? t →
        facts.codecName = "unknown") ∧
      ∀ separators cover, ∃ loaded, o.container.loadTag separators cover = .ok loaded ∧
        loaded.tag.codec = Text.trim facts.codecName ∧
        (loaded.tag.codec = "" ↔ Opening.Nameless structure? t) := by
  obtain ⟨structure?, s', blocks, format, hread, hopens, -, ho⟩ := exists_of_probe h
  obtain ⟨i, hi⟩ := List.getElem?_of_mem (List.mem_of_find?_eq_some haudio)
  rw [ho] at hi
  obtain ⟨t, ht⟩ : ∃ t, format.tracks[i]? = some t := by
    have hlength : format.tracks.length =
        (s'.opened structure? name settings blocks format).container.streams.length :=
      (Opening.forall₂_lasts_container ..).length_eq
    have hlt := (List.getElem?_eq_some_iff.1 hi).1
    exact ⟨_, List.getElem?_eq_getElem (by omega)⟩
  have hindex : stream.index = i := by
    rw [Opening.eq_described ht hi]
    exact Opening.index_described ..
  obtain ⟨facts, hfacts, hname⟩ := Container.codecName_probeCodec haudio
  have hblank : AllBlank facts.codecName ↔ Opening.Nameless structure? t :=
    hname ▸ Opening.allBlank_codecName_iff ht hi
  refine ⟨structure?, s', blocks, format, t, facts, hread, structureOf_of_start hread, hopens,
    hindex ▸ ht, hfacts, hblank, fun hunknown hdeclared => ?_, fun separators cover => ?_⟩
  · obtain ⟨c, hc, hknown, -, -⟩ | ⟨-, ⟨info, m, hinfo, hm, -, -⟩ | ⟨-, hcodec, hprofile⟩⟩ :=
      Opening.codec_stream_cases ht hi
    · simp [hc, hknown] at hunknown
    · exact absurd ⟨info, m, hinfo, hm⟩ hdeclared
    · rw [hname, Stream.codecName_of_unknown hprofile hcodec]
  · obtain ⟨loaded, hloaded, hcodec⟩ := Container.codec_loadTag hfacts separators cover
    refine ⟨loaded, hloaded, hcodec, ?_⟩
    rw [hcodec, Text.trim_eq_empty_iff, hblank]

namespace WithoutId

/-- A Matroska file whose only track is number 1, without a codec id. -/
def file : Bytes :=
  #[0x1A, 0x45, 0xDF, 0xA3, 0x80, 0x18, 0x53, 0x80, 0x67, 0x8A, 0x16, 0x54, 0xAE, 0x6B, 0x85,
    0xAE, 0x83, 0xD7, 0x81, 0x01]

/-- A track of that number, of which the demuxer knows the sample rate only. -/
def silent (number : Nat) : Demux.Track := { id := number, sampleRate := some 48000 }

def format (number : Nat) : Format := { tracks := [silent number] }

end WithoutId

open WithoutId in
theorem probe_codecName_undeclared :
    ∃ o stream facts loaded,
      (ofBytes file).probe "a.mka" {} [.container (.ok (format 2))] [] = .ok o ∧
      o.container.firstAudio? = some stream ∧ o.container.probeCodec = .ok facts ∧
      facts.codecName = "unknown" ∧ o.container.loadTag .standard none = .ok loaded ∧
      loaded.tag.codec = "unknown" := by
  have hread : (ofBytes file).readStructure []
      = .ok (some (.matroska { tracks := [{ number := 1 }] }), ofBytes file) := by
    decide +kernel
  have hopens : Finding.Opens [.container (.ok (format 2))] [] (format 2) := ⟨[], rfl⟩
  obtain ⟨o, ho, hopened⟩ := probe_of_not_overlong hread hopens (by decide) "a.mka" {}
  obtain ⟨stream, haudio⟩ : ∃ stream, o.container.firstAudio? = some stream := by
    rw [hopened]
    exact ⟨_, rfl⟩
  obtain ⟨structure?, s', blocks, found, t, facts, hread', -, hopens', ht, hfacts, -, hunknown,
    htag⟩ := probe_codecName ho haudio
  obtain ⟨rfl, rfl⟩ : [] = blocks ∧ format 2 = found := by
    simpa using (hopens.collect_eq "").symm.trans (hopens'.collect_eq "")
  cases hread.symm.trans hread'
  obtain rfl : t = silent 2 := by simpa [format] using List.mem_of_getElem? ht
  have hname : facts.codecName = "unknown" := by
    refine hunknown (.inl rfl) ?_
    rintro ⟨info, m, hinfo, hm⟩
    cases hinfo
    cases Matroska.track?_eq_some_iff.2 hm
  obtain ⟨loaded, hloaded, hcodec, -⟩ := htag .standard none
  have htrim : loaded.tag.codec = "unknown" := by
    rw [hcodec, hname]
    decide
  exact ⟨o, stream, facts, loaded, ho, haudio, hfacts, hname, hloaded, htrim⟩

open WithoutId in
/-- The track has a number but no codec id, and what stands in for it cannot be seen. -/
theorem missing_id_names_nothing :
    ∃ o facts, (ofBytes file).probe "a.mka" {} [.container (.ok (format 1))] [] = .ok o ∧
      o.container.firstAudio?.isSome ∧ o.container.probeCodec = .ok facts ∧
      facts.codecName = "" ∧
      (o.container.loadTag .standard none).map (·.tag.codec) = .ok "" := by
  have hread : (ofBytes file).readStructure []
      = .ok (some (.matroska { tracks := [{ number := 1 }] }), ofBytes file) := by
    decide +kernel
  have hopens : Finding.Opens [.container (.ok (format 1))] [] (format 1) := ⟨[], rfl⟩
  obtain ⟨o, ho, hopened⟩ := probe_of_not_overlong hread hopens (by decide) "a.mka" {}
  refine ⟨o, { sampleRate := 48000 }, ho, ?_⟩
  rw [hopened]
  exact ⟨rfl, rfl, rfl, by decide +kernel⟩

end Source

end MediaTags
