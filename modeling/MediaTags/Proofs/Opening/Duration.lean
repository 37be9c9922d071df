import MediaTags.Proofs.Opening.Outcome

/-!
# How long a container is

The longest track with a known length decides, and where there is none, what a Matroska segment
says. In milliseconds that length fits in its type. In microseconds it may not, and then the
container is not opened.
-/

namespace MediaTags

open Demux (Finding Format Revision)
open Demux.Track (Longest Overlong lengths)

namespace Opening

theorem map_durationMs_setBitRate (rate : Option Nat) (streams : List Stream) :
    (setBitRate rate streams).map Stream.durationMs = streams.map Stream.durationMs := by
  induction streams with
  | nil => rfl
  | cons s rest ih =>
    rw [setBitRate]
    split
    · rfl
    · rw [List.map_cons, List.map_cons, ih]

variable (name : String) (byteLen : Option Nat) (structure? : Option Structure)
  (blocks : List Revision) (format : Format) (longestUs : Option Int)

/-- The streams are as long as the tracks, in order. -/
theorem forall₂_lasts_container :
    List.Forall₂ (fun t s => ∀ ms, s.durationMs = some ms ↔ t.Lasts ms) format.tracks
      (container name byteLen structure? blocks format longestUs).streams := by
  have hmap : (container name byteLen structure? blocks format longestUs).streams.map
      Stream.durationMs = format.tracks.map fun t => (t.toStream 0).durationMs := by
    rw [container, estimateBitRate_eq, map_durationMs_setBitRate, map_durationMs_streams]
  have hlasts : List.Forall₂ (fun t s => (t.toStream 0).durationMs = s.durationMs) format.tracks
      (container name byteLen structure? blocks format longestUs).streams := by
    rw [← List.forall₂_map_left_iff (f := fun t : Demux.Track => (t.toStream 0).durationMs)
      (R := fun d s => d = Stream.durationMs s), ← List.forall₂_map_right_iff (R := Eq), hmap]
    exact List.forall₂_eq_eq_eq ▸ rfl
  exact hlasts.imp fun t s h ms => h ▸ Demux.Track.durationMs_toStream_eq_some_iff

theorem durationUs_container :
    (container name byteLen structure? blocks format longestUs).durationUs =
      (longestUs <|> (structure?.bind Structure.matroska?).bind Matroska.Info.durationUs) := by
  rw [container, estimateBitRate_eq]

end Opening

namespace Source

section Probe

variable {s s' : Source} {walk : List Request} {structure? : Option Structure} {name : String}
  {settings : ProbeSettings} {blocks : List Revision} {format : Format}

theorem durationUs_opened_of_longest {ms : Int} (h : Longest format.tracks ms) :
    (s.opened structure? name settings blocks format).container.durationUs =
      some (ms * 1000) := by
  rw [opened, Opening.durationUs_container, Demux.Track.longest_iff.1 h]
  rfl

theorem durationUs_opened_of_unknown (h : ∀ t ∈ format.tracks, ∀ ms, ¬ t.Lasts ms) :
    let c := (s.opened structure? name settings blocks format).container
    (∀ info, structure? = some (.matroska info) → c.durationUs = info.durationUs) ∧
      ((∀ info, structure? ≠ some (.matroska info)) → c.durationUs = none) := by
  have hnil : lengths format.tracks = [] := by
    refine List.eq_nil_iff_forall_not_mem.2 fun ms hms => ?_
    obtain ⟨t, ht, hlasts⟩ := Demux.Track.mem_lengths.1 hms
    exact h t ht ms hlasts
  dsimp only
  rw [opened, Opening.durationUs_container, hnil]
  refine ⟨?_, fun hother => ?_⟩
  · rintro info rfl
    rfl
  · match structure? with
    | none => rfl
    | some (.isoMedia _) => rfl
    | some (.matroska info) => exact absurd rfl (hother info)

/-- The length in microseconds that an opened container is said to have, by the lengths of its
tracks: a thousand times the longest one. It fits in a signed 64-bit number, for where it does not
there is an overflow and nothing is opened. Without any known length it is the one that a Matroska
segment declares, and in another file there is none. -/
theorem probe_durationUs (hread : s.readStructure walk = .ok (structure?, s'))
    {findings : List Finding} (hopens : Finding.Opens findings blocks format) (name : String)
    (settings : ProbeSettings) :
    (s.probe name settings findings walk = .error .overflow ↔ Overlong format.tracks) ∧
    (¬ Overlong format.tracks →
      ∃ o, s.probe name settings findings walk = .ok o ∧
        List.Forall₂ (fun t s => ∀ ms, s.durationMs = some ms ↔ t.Lasts ms) format.tracks
          o.container.streams ∧
        ((∃ t ∈ format.tracks, ∃ ms, t.Lasts ms) →
          ∃ ms, Longest format.tracks ms ∧ 0 ≤ ms ∧ ms * 1000 ≤ maxInstant ∧
            o.container.durationUs = some (ms * 1000)) ∧
        ((∀ t ∈ format.tracks, ∀ ms, ¬ t.Lasts ms) →
          (∀ info, structure? = some (.matroska info) →
            o.container.durationUs = info.durationUs) ∧
          ((∀ info, structure? ≠ some (.matroska info)) → o.container.durationUs = none))) := by
  refine ⟨probe_eq_overflow_iff_of_opens hread hopens, fun hfits => ?_⟩
  obtain ⟨o, ho, rfl⟩ := probe_of_not_overlong hread hopens hfits name settings
  refine ⟨_, ho, Opening.forall₂_lasts_container .., fun hknown => ?_,
    durationUs_opened_of_unknown⟩
  obtain ⟨ms, hlongest⟩ := Demux.Track.exists_longest hknown
  have hle : ms * 1000 ≤ maxInstant := not_lt.1 fun hlarge => hfits (hlongest.overlong_iff.2 hlarge)
  obtain ⟨t, -, hlasts⟩ := hlongest.1
  exact ⟨ms, hlongest, hlasts.nonneg, hle, durationUs_opened_of_longest hlongest⟩

end Probe

namespace Lengths

/-- One second by frames of its sample rate, three by its time base, and two tracks without a
known length: the number of frames is too large, or missing. -/
def format : Format :=
  { tracks := [{ frames := some 48000, sampleRate := some 48000 },
      { frames := some 3, timeBase := some ⟨1, 1⟩ },
      { frames := some 0x8000000000000000, timeBase := some ⟨1, 1⟩ },
      { timeBase := some ⟨1, 1⟩ }] }

end Lengths

open Lengths in
theorem probe_durationUs_threeSeconds :
    (forward #[]).readStructure [] = .ok (none, forward #[]) ∧
    Finding.Opens [.container (.ok format)] [] format ∧ ¬ Overlong format.tracks ∧
    (∃ t ∈ format.tracks, ∃ ms, t.Lasts ms) ∧
    ∃ o, (forward #[]).probe "a.ogg" {} [.container (.ok format)] [] = .ok o ∧
      o.container.durationUs = some 3000000 := by
  have hread : (forward #[]).readStructure [] = .ok (none, forward #[]) := rfl
  have hopens : Finding.Opens [.container (.ok format)] [] format := ⟨[], rfl⟩
  have hfits : ¬ Overlong format.tracks := by decide
  have hthree : Longest format.tracks 3000 := Demux.Track.longest_iff.2 (by decide)
  have hknown : ∃ t ∈ format.tracks, ∃ ms, t.Lasts ms := by
    obtain ⟨t, ht, hlasts⟩ := hthree.1
    exact ⟨t, ht, 3000, hlasts⟩
  obtain ⟨o, ho, -, hlongest, -⟩ := (probe_durationUs hread hopens "a.ogg" {}).2 hfits
  obtain ⟨ms, hms, -, -, hduration⟩ := hlongest hknown
  obtain rfl : ms = 3000 :=
    Option.some.inj ((Demux.Track.longest_iff.1 hms).symm.trans (Demux.Track.longest_iff.1 hthree))
  exact ⟨hread, hopens, hfits, hknown, o, ho, hduration⟩

/-- The length of the longest track there can be overflows in microseconds. -/
theorem endless_duration_overflows :
    Longest [.endless] maxInstant ∧
    (forward #[]).probe "a.ogg" {} [.container (.ok { tracks := [.endless] })] []
      = .error .overflow :=
  ⟨Demux.Track.longest_iff.2 (by decide), by decide +kernel⟩

end Source

end MediaTags
