import MediaTags.Matroska.Track
import MediaTags.Proofs.Matroska.Field

/-!
# What the children of a track entry say

Each child of a track entry feeds one field of the track, and a child with audio settings feeds
those about sound.
-/

namespace MediaTags.Matroska

/-- The value of a child that holds a number. -/
def HasUint (file : Bytes) (e : Element) (n : Nat) : Prop := uint file e = .ok n

def HasFloat (file : Bytes) (e : Element) (d : Float) : Prop := float file e = .ok d

def HasText (file : Bytes) (e : Element) (s : String) : Prop := text file e = .ok s

def HasBytes (file : Bytes) (e : Element) (bs : List UInt8) : Prop := payload file e = .ok bs

namespace Track

variable {file : Bytes} {t t' : Track} {e : Element}

/-- What one audio setting does to a track. -/
structure AudioStep (file : Bytes) (e : Element) (t t' : Track) : Prop where
  channels : Feeds Id.channels (HasUint file) (fun _ n => count? n) e t.channels t'.channels
  bitDepth : Feeds Id.bitDepth (HasUint file) (fun _ n => count? n) e t.bitDepth t'.bitDepth
  sampleRate : Feeds Id.samplingFrequency (HasFloat file) (fun _ r => sampleRateOf? r) e
    t.sampleRate t'.sampleRate
  frame : t' = { t with
    sampleRate := t'.sampleRate, channels := t'.channels, bitDepth := t'.bitDepth }

theorem readAudio_step (h : readAudio file t e = .ok t') : AudioStep file e t t' := by
  unfold readAudio at h
  split at h
  case h_4 =>
    cases h
    constructor <;> simp_all [feeds_iff, Id.channels, Id.bitDepth, Id.samplingFrequency]
  all_goals
    next hid =>
    obtain ⟨n, hn, rfl⟩ := map_eq_ok.1 h
    constructor <;> simp +decide [feeds_iff, HasUint, HasFloat, hid, hn]

/-- Audio settings of a track entry, as far as they are known. -/
structure Audio where
  channels : Option Nat := none
  bitDepth : Option Nat := none
  channels_le : ∀ n ∈ channels, n ≤ Text.maxCount := by decide
  bitDepth_le : ∀ n ∈ bitDepth, n ≤ Text.maxCount := by decide

/-- The value of a child that holds audio settings. -/
def HasAudio (file : Bytes) (e : Element) (a : Audio) : Prop :=
  ∀ t, (children file e).foldlM (readAudio file) t =
    .ok { t with channels := a.channels <|> t.channels, bitDepth := a.bitDepth <|> t.bitDepth }

theorem frame_of_foldlM_readAudio {es : List Element}
    (h : es.foldlM (readAudio file) t = .ok t') :
    t' = { t with
      sampleRate := t'.sampleRate, channels := t'.channels, bitDepth := t'.bitDepth } := by
  refine foldlM_rel (P := fun t t' => t' = { t with
    sampleRate := t'.sampleRate, channels := t'.channels, bitDepth := t'.bitDepth })
    (fun _ => rfl) ?_ (fun _ _ _ h => (readAudio_step h).frame) h
  intro s m s' hm hs
  rw [hs, hm]

/-- What one child of a track entry does to the track. -/
structure ChildStep (file : Bytes) (e : Element) (t t' : Track) : Prop where
  number : Feeds Id.trackNumber (HasUint file) (fun _ n => n) e t.number t'.number
  uid : Feeds Id.trackUid (HasUint file) (fun _ n => n) e t.uid t'.uid
  trackType : Feeds Id.trackType (HasUint file) (fun _ n => some n) e t.trackType t'.trackType
  codecId : Feeds Id.codecId (HasText file) (fun _ s => s) e t.codecId t'.codecId
  codecPrivate : Feeds Id.codecPrivate (HasBytes file) (fun _ bs => some bs.toArray) e
    t.codecPrivate t'.codecPrivate
  name : Feeds Id.name (HasText file) (fun _ s => some s) e t.name t'.name
  channels : Feeds Id.audio (HasAudio file) (fun c a => a.channels <|> c) e
    t.channels t'.channels
  bitDepth : Feeds Id.audio (HasAudio file) (fun d a => a.bitDepth <|> d) e
    t.bitDepth t'.bitDepth
  sampleRate : Feeds Id.audio (HasAudio file) (fun r _ => r) e t.sampleRate t'.sampleRate
  tags : t'.tags = t.tags

theorem readChild_step (h : readChild file t e = .ok t') : ChildStep file e t t' := by
  unfold readChild at h
  split at h
  case h_7 hid =>
    have haudio (a : Audio) (ha : HasAudio file e a) : t' = { t with
        channels := a.channels <|> t.channels, bitDepth := a.bitDepth <|> t.bitDepth } :=
      Except.ok.inj (h.symm.trans (ha t))
    have hframe := frame_of_foldlM_readAudio (Children.foldlM_eq_ok.1 h).2
    -- Sound aside, audio settings leave the track as it was.
    constructor
    case channels => exact .of_eq hid fun a ha => by rw [haudio a ha]
    case bitDepth => exact .of_eq hid fun a ha => by rw [haudio a ha]
    case sampleRate => exact .of_eq hid fun a ha => by rw [haudio a ha]
    case tags => rw [hframe]
    all_goals
      refine .of_ne (by rw [hid]; decide) ?_
      rw [hframe]
  case h_8 =>
    cases h
    constructor <;> simp_all [feeds_iff, Id.trackNumber, Id.trackUid, Id.trackType, Id.codecId,
      Id.codecPrivate, Id.name, Id.audio]
  all_goals
    next hid =>
    obtain ⟨n, hn, rfl⟩ := map_eq_ok.1 h
    constructor <;> simp +decide [feeds_iff, HasUint, HasText, HasBytes, hid, hn]

end Track

end MediaTags.Matroska
