import MediaTags.Proofs.Opening.Duration

/-!
# Which stream is given a bit rate

No track declares a bit rate, and what Matroska says may change the kind of a stream but gives it
no rate either. So the first audio stream without a rate is the first audio stream, and it alone
gets the rate that the length and the duration of the whole container come to. The numbers on the
way to it fit in 128 bits.
-/

namespace MediaTags

/-! ## In 128 bits -/

namespace Wide

/-- One more than the largest unsigned 128-bit number. -/
def size : Nat := 2 ^ 128

/-- The unsigned number with the same bits. -/
def ofInt (n : Int) : Nat := (n % size).toNat

def mul? (m n : Nat) : Option Nat := if m * n < size then some (m * n) else none

def div? (m n : Nat) : Option Nat := if n = 0 then none else some (m / n)

/-- The bits per second of `len` bytes in a time. Nothing comes out where a product leaves its
type, or where the time is zero. -/
def bitRate? (len : Nat) (durationUs : Int) : Option (Option Nat) := do
  let bits ← mul? len 8
  let bits ← mul? bits 1000000
  let rate ← div? bits (ofInt durationUs)
  return if rate < UInt64.size then some rate else none

theorem ofInt_eq_toNat {n : Int} (h : IsInstant n) (hpos : 0 < n) : ofInt n = n.toNat := by
  have hlt : n < size := by
    have hmax := h.2
    simp only [maxInstant, size] at *
    omega
  rw [ofInt, Int.emod_eq_of_lt hpos.le hlt]

/-- An unsigned 64-bit length and a positive time make neither product too large and no division
by zero. -/
theorem bitRate?_eq {len : Nat} {d : Int} (hlen : len < UInt64.size) (hd : IsInstant d)
    (hpos : 0 < d) : bitRate? len d = some (Opening.bitRate? len d.toNat) := by
  have hbytes : len * 8 < size := by
    simp only [UInt64.size, size] at *
    omega
  have hbits : len * 8 * 1000000 < size := by
    simp only [UInt64.size, size] at *
    omega
  have hzero : d.toNat ≠ 0 := by omega
  have hmul : mul? len 8 = some (len * 8) := if_pos hbytes
  have hmul' : mul? (len * 8) 1000000 = some (len * 8 * 1000000) := if_pos hbits
  have hdiv : div? (len * 8 * 1000000) (ofInt d) = some (len * 8 * 1000000 / d.toNat) := by
    rw [ofInt_eq_toNat hd hpos]
    exact if_neg hzero
  rw [bitRate?, hmul, Option.bind_eq_bind, Option.bind_some, hmul', Option.bind_some, hdiv,
    Option.bind_some]
  rfl

end Wide

namespace Matroska

theorem isInstant_microseconds? {scale : Nat} {duration : Float} {us : Int}
    (h : microseconds? scale duration = some us) : IsInstant us := by
  unfold microseconds? at h
  split at h
  · cases h
    exact ⟨Int64.le_toInt _, Int64.toInt_le _⟩
  · cases h

/-- The duration of a segment is a signed 64-bit number. -/
theorem isInstant_durationUs {file : Bytes} {len : Nat} {info : Info}
    (h : readInfo file len = .ok info) {us : Int} (hus : info.durationUs = some us) :
    IsInstant us := by
  obtain ⟨segment, -, h⟩ := bind_eq_ok.1 h
  obtain ⟨sections, -, h⟩ := bind_eq_ok.1 h
  obtain ⟨declared, hdeclared, h⟩ := bind_eq_ok.1 h
  obtain ⟨_, -, h⟩ := bind_eq_ok.1 h
  obtain ⟨_, -, h⟩ := bind_eq_ok.1 h
  obtain ⟨_, -, h⟩ := bind_eq_ok.1 h
  cases h
  obtain rfl : declared = some (some us) := by
    cases declared with
    | none => cases hus
    | some d => exact congrArg some hus
  unfold readSection at hdeclared
  split at hdeclared
  · obtain ⟨d, hread, hd⟩ := map_eq_ok.1 hdeclared
    cases hd
    obtain ⟨⟨scale, duration⟩, -, hread⟩ := bind_eq_ok.1 hread
    have hmicro : duration.bind (microseconds? scale) = some us := Except.ok.inj hread
    obtain ⟨d, -, hd⟩ := Option.bind_eq_some_iff.1 hmicro
    exact isInstant_microseconds? hd
  · cases hdeclared

end Matroska

open Demux (Finding Format Revision)

namespace Opening

/-! ## One stream with a rate -/

/-- The place of the first audio stream. -/
def firstAudioAt? (streams : List Stream) : Option Nat :=
  streams.findIdx? fun s => s.kind == .audio

theorem firstAudioAt?_cons (s : Stream) (rest : List Stream) :
    firstAudioAt? (s :: rest) =
      if s.kind = .audio then some 0 else (firstAudioAt? rest).map (· + 1) := by
  simp [firstAudioAt?, List.findIdx?_cons]

theorem bitRate_streams {info : Option Matroska.Info} {tracks : List Demux.Track} {s : Stream}
    (h : s ∈ streams info tracks) : s.bitRate = none := by
  obtain ⟨i, hi, rfl⟩ := List.mem_mapIdx.1 h
  split <;> rfl

theorem getElem?_setBitRate (rate : Option Nat) {streams : List Stream}
    (hnone : ∀ s ∈ streams, s.bitRate = none) (i : Nat) :
    (setBitRate rate streams)[i]? = streams[i]?.map fun s =>
      if firstAudioAt? streams = some i then { s with bitRate := rate } else s := by
  induction streams generalizing i with
  | nil => rfl
  | cons s rest ih =>
    have hs : s.bitRate = none := hnone s (by simp)
    have hrest := ih fun s' hs' => hnone s' (by simp [hs'])
    by_cases haudio : s.kind = .audio
    · -- the first audio stream ends the search, having no rate of its own
      rw [setBitRate, if_pos ⟨haudio, hs⟩]
      cases i <;> simp [firstAudioAt?_cons, haudio]
    · rw [setBitRate, if_neg fun h => haudio h.1]
      cases i with
      | zero => simp [firstAudioAt?_cons, haudio]
      | succ i => simp [firstAudioAt?_cons, haudio, hrest]

theorem firstAudioAt?_setBitRate (rate : Option Nat) (streams : List Stream) :
    firstAudioAt? (setBitRate rate streams) = firstAudioAt? streams := by
  induction streams with
  | nil => rfl
  | cons s rest ih =>
    rw [setBitRate]
    split
    · next h => simp [firstAudioAt?_cons, h.1]
    · rw [firstAudioAt?_cons, firstAudioAt?_cons, ih]

variable (name : String) (byteLen : Option Nat) (structure? : Option Structure)
  (blocks : List Revision) (format : Format) (longestUs : Option Int)

/-- The streams are those of the tracks, but for the rate of the first audio stream. -/
theorem getElem?_streams_container (i : Nat) :
    let c := container name byteLen structure? blocks format longestUs
    c.streams[i]? =
      (streams (structure?.bind Structure.matroska?) format.tracks)[i]?.map fun s =>
        if firstAudioAt? c.streams = some i then
          { s with bitRate := estimate? c.byteLen c.durationUs }
        else s := by
  dsimp only
  rw [container, estimateBitRate_eq]
  simp only [firstAudioAt?_setBitRate, getElem?_setBitRate _ fun _ => bitRate_streams]

theorem bitRate_of_getElem? {i : Nat} {s : Stream}
    (h : (container name byteLen structure? blocks format longestUs).streams[i]? = some s) :
    let c := container name byteLen structure? blocks format longestUs
    s.bitRate = if firstAudioAt? c.streams = some i then estimate? c.byteLen c.durationUs
      else none := by
  dsimp only
  rw [getElem?_streams_container] at h
  obtain ⟨built, hbuilt, rfl⟩ := Option.map_eq_some_iff.1 h
  have hnone := bitRate_streams (List.mem_of_getElem? hbuilt)
  split
  · rfl
  · exact hnone

end Opening

namespace Source

variable {s : Source} {walk : List Request}

/-- The length in microseconds of an opened container is a signed 64-bit number. -/
theorem isInstant_durationUs_of_probe {fs : List Finding} {name : String}
    {settings : ProbeSettings} {o : Opened} (h : s.probe name settings fs walk = .ok o) {d : Int}
    (hd : o.container.durationUs = some d) : IsInstant d := by
  obtain ⟨structure?, s', blocks, format, hread, -, hfits, rfl⟩ := exists_of_probe h
  rw [opened, Opening.durationUs_container] at hd
  -- the longest of the tracks counts, and where none is known, the segment
  cases hmax : (Demux.Track.lengths format.tracks).max? with
  | some ms =>
    rw [hmax] at hd
    cases hd
    have hlongest := Demux.Track.longest_iff.2 hmax
    obtain ⟨t, -, hlasts⟩ := hlongest.1
    have hnonneg := hlasts.nonneg
    rw [hlongest.overlong_iff] at hfits
    simp only [IsInstant, minInstant]
    omega
  | none =>
    rw [hmax] at hd
    obtain ⟨info, hinfo, hd⟩ := Option.bind_eq_some_iff.1 hd
    obtain ⟨found, rfl, hfound⟩ := Option.bind_eq_some_iff.1 hinfo
    cases found with
    | matroska info =>
      cases hfound
      exact Matroska.isInstant_durationUs (readInfo_of_readStructure hread) hd
    | isoMedia chapters => cases hfound

/-- The bit rates of an opened container's streams. Where the length is known and the duration is
positive, the first audio stream has the bits of the whole per second, rounded down, if these are
an unsigned 64-bit number. No other stream has a rate, and else none has. Computed in unsigned
128-bit numbers, the rate of an unsigned 64-bit length never overflows nor divides by zero. -/
theorem probe_bitRates {fs : List Finding} {name : String} {settings : ProbeSettings} {o : Opened}
    (h : s.probe name settings fs walk = .ok o) :
    (∀ len d, o.container.byteLen = some len → o.container.durationUs = some d → 0 < d →
      (∀ i stream, o.container.streams[i]? = some stream →
        (Opening.firstAudioAt? o.container.streams = some i →
          (len * 8 * 1000000 / d.toNat < UInt64.size →
            stream.bitRate = some (len * 8 * 1000000 / d.toNat)) ∧
          (UInt64.size ≤ len * 8 * 1000000 / d.toNat → stream.bitRate = none)) ∧
        (Opening.firstAudioAt? o.container.streams ≠ some i → stream.bitRate = none)) ∧
      (len < UInt64.size → Wide.bitRate? len d = some (Opening.bitRate? len d.toNat))) ∧
    ((∀ len d, o.container.byteLen = some len → o.container.durationUs = some d → d ≤ 0) →
      ∀ stream ∈ o.container.streams, stream.bitRate = none) := by
  have hduration := fun d => isInstant_durationUs_of_probe h (d := d)
  obtain ⟨structure?, s', blocks, format, -, -, -, ho⟩ := exists_of_probe h
  have hrate : ∀ i stream, o.container.streams[i]? = some stream → stream.bitRate =
      if Opening.firstAudioAt? o.container.streams = some i then
        Opening.estimate? o.container.byteLen o.container.durationUs
      else none := by
    rw [ho]
    intro i stream hi
    exact Opening.bitRate_of_getElem? _ _ _ _ _ _ hi
  refine ⟨fun len d hlen hd hpos => ⟨fun i stream hi => ?_, fun hlt => ?_⟩, fun hunknown => ?_⟩
  · rw [hrate i stream hi]
    refine ⟨fun hfirst => ?_, fun hother => if_neg hother⟩
    rw [if_pos hfirst, hlen, hd, Opening.estimate?, if_pos hpos, Opening.bitRate?]
    exact ⟨fun hfits => if_pos hfits, fun hlarge => if_neg (by omega)⟩
  · exact Wide.bitRate?_eq hlt (hduration d hd) hpos
  · intro stream hstream
    obtain ⟨i, hi⟩ := List.getElem?_of_mem hstream
    rw [hrate i stream hi, Opening.estimate?_eq_none hunknown, ite_self]

namespace VideoFirst

/-- A Matroska file whose only track is number 1, a video. -/
def file : Bytes :=
  #[0x1A, 0x45, 0xDF, 0xA3, 0x80, 0x18, 0x53, 0x80, 0x67, 0x8D, 0x16, 0x54, 0xAE, 0x6B, 0x88,
    0xAE, 0x86, 0xD7, 0x81, 0x01, 0x83, 0x81, 0x01]

/-- Three tracks that the demuxer takes for audio, the first of them one second long. -/
def format : Format :=
  { tracks := [{ id := 1, codec := some .flac, sampleRate := some 48000, frames := some 48000 },
      { id := 2, codec := some .aac }, { id := 3, codec := some .mp3 }] }

end VideoFirst

open VideoFirst in
theorem probe_bitRates_videoFirst :
    ∃ o, (ofBytes file).probe "a.mka" {} [.container (.ok format)] [] = .ok o ∧
      ∃ video first second, o.container.streams = [video, first, second] ∧
        video.bitRate = none ∧ first.bitRate = some 184 ∧ second.bitRate = none := by
  have hread : (ofBytes file).readStructure []
      = .ok (some (.matroska { tracks := [{ number := 1, trackType := some 1 }] }),
        ofBytes file) := by
    decide +kernel
  have hopens : Finding.Opens [.container (.ok format)] [] format := ⟨[], rfl⟩
  obtain ⟨o, ho, hopened⟩ := probe_of_not_overlong hread hopens (by decide) "a.mka" {}
  have hlen : o.container.byteLen = some 23 := by
    rw [hopened]
    decide +kernel
  have hduration : o.container.durationUs = some 1000000 := by
    rw [hopened]
    decide +kernel
  have hfirst : Opening.firstAudioAt? o.container.streams = some 1 := by
    rw [hopened]
    decide +kernel
  obtain ⟨video, first, second, hstreams⟩ :
      ∃ video first second, o.container.streams = [video, first, second] := by
    rw [hopened]
    exact ⟨_, _, _, rfl⟩
  obtain ⟨hrates, -⟩ := (probe_bitRates ho).1 23 1000000 hlen hduration (by decide)
  refine ⟨o, ho, video, first, second, hstreams, ?_, ?_, ?_⟩
  · exact (hrates 0 video (by rw [hstreams]; rfl)).2 (by rw [hfirst]; decide)
  · exact ((hrates 1 first (by rw [hstreams]; rfl)).1 hfirst).1 (by decide)
  · exact (hrates 2 second (by rw [hstreams]; rfl)).2 (by rw [hfirst]; decide)

end Source

end MediaTags
