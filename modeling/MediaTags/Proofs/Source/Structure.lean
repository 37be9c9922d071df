import MediaTags.Opening
import MediaTags.Proofs.IsoMedia.Overflow
import MediaTags.Proofs.Source.Cursor

/-!
# Reading the structure leaves no trace

A source that can move is put back where it stood, wherever the walk through its structure went and
however that walk ended, if only no offset overflowed on it. What is found follows from the bytes,
in whatever pieces they come. A source that cannot move, or does not know its length, is not
touched.
-/

namespace MediaTags

namespace Layout

variable {layout : Layout} {file : Bytes} {len : Nat}

/-- Only the chapters of an ISO media file overflow. -/
theorem read_eq_overflow_iff :
    layout.read file len = .error .overflow ↔
      layout = .isoMedia ∧ IsoMedia.Overflows file len := by
  cases layout with
  | matroska => cases h : Matroska.readInfo file len <;> simp [read, h, Except.mapError, Except.map]
  | isoMedia =>
    rw [← IsoMedia.readChapters_eq_overflow_iff]
    rw [read, mapError_eq_error]
    simp only [map_eq_error, true_and]
    constructor
    · rintro ⟨_ | _, h, hmap⟩
      · cases hmap
      · exact h
    · exact fun h => ⟨.overflow, h, rfl⟩

end Layout

namespace Source

/-- Bytes in memory that are read from a position on. -/
def inMemory (data : Bytes) (chunkSize : Nat) (position : UInt64) : Source :=
  { data, chunkSize, position := position.toNat }

/-- The structure that bytes hold, if their first ones tell a format and it can be read. -/
def structureOf (data : Bytes) : Except (Abort IoFailure) (Option Structure) :=
  match Layout.ofHead? (data.window 0 Layout.headLength) with
  | none => .ok none
  | some layout => Abort.ignore (layout.read data data.size)

section Bytes

variable {data : Bytes}

theorem structureOf_eq_some_iff {st : Structure} :
    structureOf data = .ok (some st) ↔
      ∃ layout, Layout.ofHead? (data.window 0 Layout.headLength) = some layout ∧
        layout.read data data.size = .ok st := by
  unfold structureOf
  cases Layout.ofHead? (data.window 0 Layout.headLength) <;> simp [Abort.ignore_eq_some_iff]

theorem structureOf_eq_overflow_iff :
    structureOf data = .error .overflow ↔
      Layout.ofHead? (data.window 0 Layout.headLength) = some .isoMedia ∧
        IsoMedia.Overflows data data.size := by
  unfold structureOf
  cases Layout.ofHead? (data.window 0 Layout.headLength) <;>
    simp [Abort.ignore_eq_error_iff, Layout.read_eq_overflow_iff]

theorem structureOf_eq_overflow_or (data : Bytes) :
    structureOf data = .error .overflow ∨ ∃ found, structureOf data = .ok found := by
  unfold structureOf
  cases Layout.ofHead? (data.window 0 Layout.headLength) with
  | none => exact .inr ⟨none, rfl⟩
  | some layout =>
    rcases hread : layout.read data data.size with (_ | _) | st
    · exact .inr ⟨none, Abort.ignore_eq_none_iff.2 ⟨_, hread⟩⟩
    · exact .inl (Abort.ignore_eq_error_iff.2 ⟨rfl, hread⟩)
    · exact .inr ⟨some st, Abort.ignore_eq_some_iff.2 hread⟩

end Bytes

/-! ## Requests -/

/-- A source that has moved and handed out pieces, and is otherwise the same. -/
structure Moved (s s' : Source) : Prop where
  data : s'.data = s.data
  chunkSize : s'.chunkSize = s.chunkSize
  sized : s'.sized = s.sized
  seeking : s'.seeking = s.seeking
  grants : s'.grants <:+ s.grants

variable {s s' s'' : Source}

namespace Moved

theorem refl (s : Source) : Moved s s := ⟨rfl, rfl, rfl, rfl, List.suffix_rfl⟩

theorem trans (h : Moved s s') (h' : Moved s' s'') : Moved s s'' :=
  ⟨h'.data.trans h.data, h'.chunkSize.trans h.chunkSize, h'.sized.trans h.sized,
    h'.seeking.trans h.seeking, h'.grants.trans h.grants⟩

/-- A source that gives all that is asked for is the same again where it is back. -/
theorem eq (h : Moved s s') (hg : s.grants = []) (hp : s'.position = s.position) : s' = s := by
  obtain ⟨hdata, hchunk, hsized, hseeking, hgrants⟩ := h
  cases s
  cases s'
  simp_all

theorem read {n : Nat} {bytes : List UInt8} (h : s.read n = (bytes, s')) : Moved s s' := by
  obtain ⟨-, rfl⟩ := Prod.mk.inj h
  exact ⟨rfl, rfl, rfl, rfl, List.tail_suffix _⟩

theorem readExact (s : Source) (n : Nat) : Moved s (s.readExact n).2 := by
  fun_induction Source.readExact s n with
  | case1 s => exact refl s
  | case2 s n _ s' hread => exact read hread
  | case3 s n _ bytes s' hread _ more s'' hrest ih =>
    rw [hrest] at ih
    exact (read hread).trans ih

theorem seek {t : SeekTarget} (h : s.seek t = .ok s') : Moved s s' := by
  unfold Source.seek moveTo at h
  repeat' split at h
  all_goals cases h
  all_goals exact ⟨rfl, rfl, rfl, rfl, List.suffix_rfl⟩

theorem after (s : Source) (r : Request) : Moved s (s.after r) := by
  cases r with
  | read n => exact read rfl
  | seek t =>
    rw [Source.after]
    cases hseek : s.seek t with
    | error cause => exact refl s
    | ok s' => exact seek hseek

theorem afterAll (s : Source) (walk : List Request) : Moved s (s.afterAll walk) := by
  induction walk generalizing s with
  | nil => exact refl s
  | cons r walk ih => exact (after s r).trans (ih (s.after r))

end Moved

/-- A read gives the next bytes, and none only where there are none or none are asked for. -/
theorem read_spec {n : Nat} {bytes : List UInt8} (h : s.read n = (bytes, s')) :
    bytes = s.data.window s.position bytes.length ∧ bytes.length ≤ n ∧
      s'.position = s.position + bytes.length ∧
      (bytes = [] → n = 0 ∨ s.data.size ≤ s.position) := by
  obtain ⟨rfl, rfl⟩ := Prod.mk.inj h
  refine ⟨?_, ?_, rfl, fun hnil => ?_⟩
  · rw [Bytes.length_window, Bytes.window_min]
  · rw [Bytes.length_window]
    omega
  · have hlength := congrArg List.length hnil
    rw [Bytes.length_window, List.length_nil] at hlength
    omega

/-- Read on and on, a source gives its bytes as one read of all of them would. -/
theorem readExact_bytes (s : Source) (n : Nat) :
    (s.readExact n).1 = s.data.window s.position n := by
  fun_induction readExact s n with
  | case1 s => exact (Bytes.window_zero ..).symm
  | case2 s n hn s' hread =>
    have hend := ((read_spec hread).2.2.2 rfl).resolve_left hn
    refine (List.eq_nil_of_length_eq_zero ?_).symm
    rw [Bytes.length_window]
    omega
  | case3 s n _ bytes s' hread _ more s'' hrest ih =>
    obtain ⟨hbytes, hle, hposition, -⟩ := read_spec hread
    rw [hrest, hposition, (Moved.read hread).data] at ih
    dsimp only at ih ⊢
    calc bytes ++ more
        = s.data.window s.position bytes.length ++
            s.data.window (s.position + bytes.length) (n - bytes.length) := by rw [← hbytes, ih]
      _ = s.data.window s.position n := by rw [← Bytes.window_add, Nat.add_sub_of_le hle]

/-! ## Reading the structure -/

/-- A source that can move goes to its start from everywhere. -/
theorem seek_zero (hm : s.seeking = .memory ∨ s.seeking = .file) {t : SeekTarget}
    (ht : s.destination t = 0) : s.seek t = .ok { s with position := 0 } := by
  obtain hm | hm := hm <;> simp [seek, hm, moveTo, ht, UInt64.size]

theorem Moved.rewind (h : Moved s s') (hm : s.seeking = .memory ∨ s.seeking = .file) :
    ∃ s'', s'.reseek (.start 0) = .ok s'' ∧ Moved s s'' ∧ s''.position = 0 := by
  refine ⟨{ s' with position := 0 }, ?_, ⟨h.data, h.chunkSize, h.sized, h.seeking, h.grants⟩, rfl⟩
  rw [reseek, seek_zero (h.seeking ▸ hm) rfl]
  rfl

/-- At its start a source that can move has the structure that its bytes hold, however many of them
come at a time, and is put back there. -/
theorem readStructure_start (hm : s.seeking = .memory ∨ s.seeking = .file) (hs : s.sized = true)
    (hp : s.position = 0) (walk : List Request) :
    ∃ s', Moved s s' ∧ s'.position = 0 ∧
      s.readStructure walk = (structureOf s.data).map (·, s') := by
  have hlen : s.byteLen? = some s.data.size := by rw [byteLen?, hs, if_pos rfl]
  have hseekable : s.isSeekable = true := by obtain hm | hm := hm <;> rw [isSeekable, hm] <;> rfl
  have htell : s.reseek (.current 0) = .ok s := by
    rw [reseek, seek_zero hm (by simp [destination, hp]), ← hp]
    rfl
  have hhead : (s.readExact Layout.headLength).1 = s.data.window 0 Layout.headLength := by
    rw [readExact_bytes, hp]
  -- The first seek follows the head, the second one the walk.
  obtain ⟨s₁, hfirst, hmoved₁, hp₁⟩ := (Moved.readExact s Layout.headLength).rewind hm
  obtain ⟨s₂, hsecond, hmoved₂, hp₂⟩ := (hmoved₁.trans (.afterAll s₁ walk)).rewind hm
  cases hlayout : Layout.ofHead? (s.data.window 0 Layout.headLength) with
  | none =>
    refine ⟨s₁, hmoved₁, hp₁, ?_⟩
    simp only [readStructure, hlen, hseekable, htell, hp, hhead, hfirst, hlayout, structureOf,
      if_true, bind, Except.bind, pure, Except.pure, ne_eq, not_true_eq_false, if_false, Except.map]
  | some layout =>
    refine ⟨s₂, hmoved₂, hp₂, ?_⟩
    simp only [readStructure, hlen, hseekable, htell, hp, hhead, hfirst, hlayout, hmoved₁.data,
      structureOf, if_true, bind, Except.bind, pure, Except.pure, ne_eq, not_true_eq_false,
      if_false]
    rw [hsecond]
    obtain _ | _ := (Abort.ignore (layout.read s.data s.data.size) :
      Except (Abort IoFailure) (Option Structure)) <;> rfl

/-- A source in memory that does not stand at its start is not read. -/
theorem readStructure_elsewhere (hm : s.seeking = .memory) (hs : s.sized = true)
    (hlt : s.position < UInt64.size) (hp : s.position ≠ 0) (walk : List Request) :
    s.readStructure walk = .ok (none, s) := by
  have hlen : s.byteLen? = some s.data.size := by rw [byteLen?, hs, if_pos rfl]
  have hseekable : s.isSeekable = true := by rw [isSeekable, hm]; rfl
  have htell : s.reseek (.current 0) = .ok s := by
    have hdest : s.destination (.current 0) = s.position := by simp [destination]
    rw [reseek, seek_memory hm, hdest, if_pos ⟨by omega, by exact_mod_cast hlt⟩]
    rfl
  simp only [readStructure, hlen, hseekable, if_true, htell, bind, Except.bind, if_pos hp, pure,
    Except.pure]

/-- A source that cannot move or does not tell its length is not touched. -/
theorem readStructure_untouched (h : s.isSeekable = false ∨ s.byteLen? = none)
    (walk : List Request) : s.readStructure walk = .ok (none, s) := by
  rw [readStructure]
  cases hlen : s.byteLen? with
  | none => rfl
  | some len =>
    obtain hfixed | hnone := h
    · simp [hfixed]
    · rw [hlen] at hnone
      cases hnone

/-- A structure that was found is what the bytes hold. -/
theorem structureOf_of_readStructure {walk : List Request} {st : Structure}
    (h : s.readStructure walk = .ok (some st, s')) : structureOf s.data = .ok (some st) := by
  rw [readStructure] at h
  split at h
  · cases h
  next len hlen =>
  obtain rfl : s.data.size = len := Option.some.inj (Option.ite_none_right_eq_some.1 hlen).2
  split at h
  · obtain ⟨s₁, hs₁, h⟩ := bind_eq_ok.1 h
    have hmoved₁ := Moved.seek (mapError_eq_ok.1 hs₁)
    dsimp only at h
    split at h
    · cases h
    next hstart =>
    obtain ⟨s₂, hs₂, h⟩ := bind_eq_ok.1 h
    have hmoved₂ := hmoved₁.trans ((Moved.readExact s₁ _).trans (.seek (mapError_eq_ok.1 hs₂)))
    rw [readExact_bytes, not_not.1 hstart, hmoved₁.data] at h
    split at h
    · cases h
    next layout hlayout =>
    obtain ⟨found, hfound, h⟩ := bind_eq_ok.1 h
    obtain ⟨s₃, -, h⟩ := bind_eq_ok.1 h
    cases h
    rw [structureOf, hlayout, ← hmoved₂.data, ← hfound, hmoved₂.data]
  · cases h

theorem readStructure_inMemory (data : Bytes) (chunkSize : Nat) (position : UInt64)
    (walk : List Request) :
    (inMemory data chunkSize position).readStructure walk =
      (if position = 0 then structureOf data else .ok none).map
        (·, inMemory data chunkSize position) := by
  by_cases hzero : position = 0
  · have hp : (inMemory data chunkSize position).position = 0 := by rw [hzero]; rfl
    obtain ⟨s', hmoved, hp', hread⟩ := readStructure_start (.inl rfl) rfl hp walk
    rw [if_pos hzero, hread, hmoved.eq rfl (hp'.trans hp.symm)]
    rfl
  · have hp : (inMemory data chunkSize position).position ≠ 0 := fun h =>
      hzero (UInt64.toNat_inj.1 h)
    rw [if_neg hzero, readStructure_elsewhere rfl rfl position.toNat_lt hp]
    rfl

/-- Reading the structure of bytes in memory leaves no trace, and where no offset of a sample
overflows it succeeds; what is found is what the bytes hold, if they are read from their start.
Where the walk through them fails, nothing is found, and the container opens as it would without
looking for structure. A source that cannot move or does not tell its length is left as it is. -/
theorem readStructure_leaves_no_trace (data : Bytes) (chunkSize : Nat) (position : UInt64)
    (walk : List Request) :
    ((inMemory data chunkSize position).readStructure walk = .error .overflow ↔
      position = 0 ∧
        Layout.ofHead? (data.window 0 Layout.headLength) = some .isoMedia ∧
        IsoMedia.Overflows data data.size) ∧
    ((inMemory data chunkSize position).readStructure walk ≠ .error .overflow →
      ∃ found, (inMemory data chunkSize position).readStructure walk
          = .ok (found, inMemory data chunkSize position) ∧
        ∀ st, found = some st ↔ position = 0 ∧
          ∃ layout, Layout.ofHead? (data.window 0 Layout.headLength) = some layout ∧
            layout.read data data.size = .ok st) ∧
    (∀ layout cause, Layout.ofHead? (data.window 0 Layout.headLength) = some layout →
      layout.read data data.size = .error (.failure cause) →
      (inMemory data chunkSize position).readStructure walk
          = .ok (none, inMemory data chunkSize position) ∧
        ∀ name settings findings,
          (inMemory data chunkSize position).probe name settings findings walk
            = (inMemory data chunkSize position).openWith none name settings findings) ∧
    ∀ s : Source, s.isSeekable = false ∨ s.byteLen? = none →
      s.readStructure walk = .ok (none, s) := by
  have hread := readStructure_inMemory data chunkSize position walk
  refine ⟨?_, fun hne => ?_, fun layout cause hhead hfails => ?_, fun s hs =>
    readStructure_untouched hs walk⟩
  · rw [hread, map_eq_error, ← structureOf_eq_overflow_iff]
    by_cases hzero : position = 0 <;> simp [hzero]
  · rw [hread] at hne ⊢
    by_cases hzero : position = 0
    · rw [if_pos hzero] at hne ⊢
      obtain hoverflow | ⟨found, hfound⟩ := structureOf_eq_overflow_or data
      · exact absurd (by rw [hoverflow]; rfl) hne
      · refine ⟨found, by rw [hfound]; rfl, fun st => ?_⟩
        simp [hzero, ← structureOf_eq_some_iff, hfound]
    · exact ⟨none, by rw [if_neg hzero]; rfl, by simp [hzero]⟩
  · have hnone : structureOf data = .ok none := by
      rw [structureOf, hhead]
      exact Abort.ignore_eq_none_iff.2 ⟨cause, hfails⟩
    have hfound : (inMemory data chunkSize position).readStructure walk
        = .ok (none, inMemory data chunkSize position) := by
      rw [hread, hnone, ite_self]
      rfl
    exact ⟨hfound, fun name settings findings => by rw [probe, hfound]; rfl⟩

/-- A Matroska file whose segment breaks off in the header of its first section. -/
def brokenOff : Bytes :=
  #[0x1A, 0x45, 0xDF, 0xA3, 0x80, 0x18, 0x53, 0x80, 0x67, 0x83, 0x15, 0x49, 0xA9]

theorem readStructure_leaves_no_trace_brokenOff :
    Layout.ofHead? (brokenOff.window 0 Layout.headLength) = some .matroska ∧
    Layout.matroska.read brokenOff brokenOff.size
      = .error (.failure ⟨.unexpectedEof, "failed to fill whole buffer"⟩) ∧
    (inMemory brokenOff 0 0).readStructure [.read 3, .seek (.fromEnd 7)]
      = .ok (none, inMemory brokenOff 0 0) ∧
    (∃ found, (inMemory brokenOff 0 5).readStructure [] = .ok (found, inMemory brokenOff 0 5)) ∧
    (forward brokenOff).readStructure [.read 3, .seek (.fromEnd 7)]
      = .ok (none, forward brokenOff) := by
  have hhead : Layout.ofHead? (brokenOff.window 0 Layout.headLength) = some .matroska := by
    decide +kernel
  have hfails : Layout.matroska.read brokenOff brokenOff.size
      = .error (.failure ⟨.unexpectedEof, "failed to fill whole buffer"⟩) := by
    decide +kernel
  obtain ⟨-, -, hmemory, hforward⟩ :=
    readStructure_leaves_no_trace brokenOff 0 0 [.read 3, .seek (.fromEnd 7)]
  obtain ⟨hoverflow, hfound, -⟩ := readStructure_leaves_no_trace brokenOff 0 5 []
  obtain ⟨found, hfive, -⟩ := hfound fun h => absurd (hoverflow.1 h).1 (by decide)
  exact ⟨hhead, hfails, (hmemory _ _ hhead hfails).1, ⟨found, hfive⟩, hforward _ (.inl rfl)⟩

/-- The movie whose offsets overflow, behind a head that tells its format. -/
def overlong : Bytes := (IsoMedia.Listed.atom "ftyp" [] ++ IsoMedia.Overlong.movie).toArray

/-- Reading this structure ends with an overflow. -/
theorem readStructure_overlong :
    (inMemory overlong 0 0).readStructure [] = .error .overflow := by
  decide +kernel

end Source

end MediaTags
