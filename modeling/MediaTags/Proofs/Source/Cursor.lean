import MediaTags.Proofs.Bytes
import MediaTags.Source.Buffered

/-!
# A buffered source is a cursor

Whatever is asked of a buffered source, the bytes and positions that it answers with are those of
a plain cursor over the same data. A source that cannot move hands out its data from front to
back and knows how much it has handed out.
-/

namespace MediaTags

inductive Response where
  | bytes (bs : List UInt8)
  | position (p : Nat)
  | failure (cause : IoFailure)
  deriving DecidableEq, Repr

namespace Response

def ofSeek : Except IoFailure Nat → Response
  | .ok p => position p
  | .error cause => failure cause

/-- The bytes that were read. -/
def handedOut : Response → List UInt8
  | bytes bs => bs
  | _ => []

end Response

namespace Buffered

def respond (b : Buffered) : Request → Response × Buffered
  | .read n => (.bytes (b.read n).1, (b.read n).2)
  | .seek target => (.ofSeek (b.seek target).1, (b.seek target).2)

/-- Answer requests one after the other. -/
def run (b : Buffered) : List Request → List Response × Buffered
  | [] => ([], b)
  | r :: rs => ((b.respond r).1 :: ((b.respond r).2.run rs).1, ((b.respond r).2.run rs).2)

end Buffered

theorem Source.seek_memory {s : Source} (hm : s.seeking = .memory) (t : SeekTarget) :
    s.seek t =
      if 0 ≤ s.destination t ∧ s.destination t < UInt64.size then
        .ok { s with position := (s.destination t).toNat }
      else .error ⟨.invalidInput, "invalid seek to a negative or overflowing position"⟩ := by
  have hseek : s.seek t = s.moveTo UInt64.size
      ⟨.invalidInput, "invalid seek to a negative or overflowing position"⟩ (s.destination t) := by
    rw [seek, hm]
  exact hseek

/-- A cursor over bytes in memory. -/
def Source.cursor (data : Bytes) (pos : Nat) : Source := { data, position := pos }

@[simp] theorem Source.position_cursor (data : Bytes) (pos : Nat) :
    (Source.cursor data pos).position = pos := rfl

/-- What a plain cursor may answer, and where it stands then. A read gives some of the next
bytes, at least one of them if there are any. -/
inductive CursorStep (data : Bytes) : Nat → Request → Response → Nat → Prop where
  | read {pos n k : Nat} (hle : k ≤ n) (hlen : (data.window pos k).length = k)
      (hpos : 1 ≤ n → pos < data.size → 1 ≤ k) :
      CursorStep data pos (.read n) (.bytes (data.window pos k)) (pos + k)
  | seek {pos : Nat} {target : SeekTarget} {s : Source}
      (h : (Source.cursor data pos).seek target = .ok s) :
      CursorStep data pos (.seek target) (.position s.position) s.position
  | refuse {pos : Nat} {target : SeekTarget} {cause : IoFailure}
      (h : (Source.cursor data pos).seek target = .error cause) :
      CursorStep data pos (.seek target) (.failure cause) pos

/-- What a stream that only goes forward may answer, and how much it has handed out then. -/
inductive ForwardStep (data : Bytes) : Nat → Request → Response → Nat → Prop where
  | read {pos n k : Nat} (hle : k ≤ n) (hlen : (data.window pos k).length = k) :
      ForwardStep data pos (.read n) (.bytes (data.window pos k)) (pos + k)
  | tell {pos : Nat} : ForwardStep data pos (.seek (.current 0)) (.position pos) pos
  | refuse {pos : Nat} {target : SeekTarget} (h : target ≠ .current 0) :
      ForwardStep data pos (.seek target) (.failure .cannotSeek) pos

/-- Answers to requests in a row. -/
inductive Steps (step : Nat → Request → Response → Nat → Prop) :
    Nat → List Request → List Response → Nat → Prop where
  | nil {pos : Nat} : Steps step pos [] [] pos
  | cons {pos mid stop : Nat} {r : Request} {a : Response} {rs : List Request}
      {as : List Response} (h : step pos r a mid) (hs : Steps step mid rs as stop) :
      Steps step pos (r :: rs) (a :: as) stop

namespace Buffered

/-- The buffer holds what comes next at `pos`, and the source stands behind it. -/
structure Tracks (data : Bytes) (b : Buffered) (pos : Nat) : Prop where
  data_eq : b.source.data = data
  block_pos : 0 < b.blockSize
  ahead : b.source.position = pos + b.buffer.length
  held : b.buffer = data.window pos b.buffer.length

theorem one_le_length_read {s : Source} {n : Nat} (hg : s.grants = []) (hn : 1 ≤ n)
    (hp : s.position < s.data.size) : 1 ≤ (s.read n).1.length := by
  simp only [Source.read, hg, List.headD_nil, Bytes.length_window]
  omega

namespace Tracks

variable {data : Bytes} {b : Buffered} {pos : Nat}

theorem position_eq (h : Tracks data b pos) : b.position = pos := by
  simp [position, h.ahead]

theorem length_le (h : Tracks data b pos) : b.buffer.length ≤ data.size - pos := by
  have := congrArg List.length h.held
  rw [Bytes.length_window] at this
  omega

/-- Handing out bytes of the buffer moves on by as many. -/
theorem take (h : Tracks data b pos) (n : Nat) :
    ∃ k, k = min n b.buffer.length ∧ (b.take n).1 = data.window pos k ∧
      (data.window pos k).length = k ∧ Tracks data (b.take n).2 (pos + k) := by
  have hlen := h.length_le
  refine ⟨_, rfl, ?_, ?_, h.data_eq, h.block_pos, ?_, ?_⟩
  · rw [Buffered.take, h.held, Bytes.take_window, ← h.held]
  · rw [Bytes.length_window]
    omega
  · simp only [Buffered.take, h.ahead, List.length_drop]
    omega
  · simp only [Buffered.take, List.length_drop]
    rw [h.held, Bytes.drop_window, ← h.held]
    by_cases hn : n ≤ b.buffer.length
    · rw [Nat.min_eq_left hn]
    · simp [Nat.sub_eq_zero_of_le (Nat.le_of_not_le hn)]

/-- An empty buffer is filled with what comes next. -/
theorem fill (h : Tracks data b pos) (he : b.buffer = []) (m : Nat) :
    Tracks data { b with source := (b.source.read m).2, buffer := (b.source.read m).1 } pos := by
  have hpos : b.source.position = pos := by simpa [he] using h.ahead
  refine ⟨h.data_eq, h.block_pos, ?_, ?_⟩
  · simp [Source.read, hpos]
  · simp only [Source.read, h.data_eq, hpos, Bytes.length_window, Bytes.window_min]

/-- A read that goes around an empty buffer leaves it empty. -/
theorem bypass (h : Tracks data b pos) (he : b.buffer = []) (n : Nat) :
    ∃ k ≤ n, k = (b.source.read n).1.length ∧ (b.source.read n).1 = data.window pos k ∧
      (data.window pos k).length = k ∧
      Tracks data { b with source := (b.source.read n).2 } (pos + k) := by
  have hpos : b.source.position = pos := by simpa [he] using h.ahead
  refine ⟨_, ?_, rfl, ?_, ?_, h.data_eq, h.block_pos, ?_, ?_⟩
  · simp only [Source.read, Bytes.length_window]
    omega
  · simp only [Source.read, h.data_eq, hpos, Bytes.length_window, Bytes.window_min]
  · simp only [Source.read, h.data_eq, hpos, Bytes.length_window]
    omega
  · simp [Source.read, hpos, he]
  · simp [he]

/-- A read hands out the next bytes, and at least one of them if there are any and the source
holds nothing back. -/
theorem read (h : Tracks data b pos) (n : Nat) :
    ∃ k ≤ n, (b.read n).1 = data.window pos k ∧ (data.window pos k).length = k ∧
      Tracks data (b.read n).2 (pos + k) ∧
      (b.source.grants = [] → 1 ≤ n → pos < data.size → 1 ≤ k) := by
  unfold Buffered.read
  split
  · next c cs hbuf =>
    obtain ⟨k, rfl, hbytes, hlen, ht⟩ := h.take n
    refine ⟨_, Nat.min_le_left .., hbytes, hlen, ht, ?_⟩
    intro _ hn _
    simp [hbuf]
    omega
  · next hbuf =>
    have hpos : b.source.position = pos := by simpa [hbuf] using h.ahead
    split
    · obtain ⟨k, hk, hcount, hbytes, hlen, ht⟩ := h.bypass hbuf n
      refine ⟨k, hk, hbytes, hlen, ht, ?_⟩
      intro hg hn hsize
      rw [hcount]
      exact one_le_length_read hg hn (by rw [hpos, h.data_eq]; exact hsize)
    · obtain ⟨k, hk, hbytes, hlen, ht⟩ := (h.fill hbuf b.blockSize).take n
      refine ⟨k, ?_, hbytes, hlen, ht, ?_⟩
      · rw [hk]
        exact Nat.min_le_left ..
      · intro hg hn hsize
        have hblock := one_le_length_read (s := b.source) hg h.block_pos
          (by rw [hpos, h.data_eq]; exact hsize)
        rw [hk]
        exact Nat.le_min.2 ⟨hn, hblock⟩

end Tracks

@[simp] theorem seeking_read (b : Buffered) (n : Nat) :
    (b.read n).2.source.seeking = b.source.seeking := by
  unfold Buffered.read
  split
  · rfl
  · split <;> rfl

@[simp] theorem sized_read (b : Buffered) (n : Nat) :
    (b.read n).2.source.sized = b.source.sized := by
  unfold Buffered.read
  split
  · rfl
  · split <;> rfl

theorem grants_read {b : Buffered} (h : b.source.grants = []) (n : Nat) :
    (b.read n).2.source.grants = [] := by
  unfold Buffered.read
  split
  · exact h
  · split <;> simp [Source.read, take, h]

/-- The source moved to a position under an empty buffer. -/
def movedTo (b : Buffered) (pos : Nat) : Buffered :=
  { b with source := { b.source with position := pos }, buffer := [] }

theorem Tracks.movedTo {data : Bytes} {b : Buffered} {pos : Nat} (h : Tracks data b pos)
    (p : Nat) : Tracks data (b.movedTo p) p :=
  ⟨h.data_eq, h.block_pos, rfl, by simp [Buffered.movedTo]⟩

/-- What a buffered source over memory does when the source below is told to go where a cursor is
told to go. -/
theorem reposition_eq {data : Bytes} {b : Buffered} {pos : Nat} {t t' : SeekTarget}
    (hm : b.source.seeking = .memory)
    (hd : b.source.destination t' = (Source.cursor data pos).destination t) :
    b.reposition t' =
      match (Source.cursor data pos).seek t with
      | .ok s => (.ok s.position, b.movedTo s.position)
      | .error cause => (.error cause, b) := by
  have hc : (Source.cursor data pos).seeking = .memory := rfl
  rw [reposition, Source.seek_memory hm, hd, Source.seek_memory hc]
  by_cases hin : 0 ≤ (Source.cursor data pos).destination t ∧
      (Source.cursor data pos).destination t < UInt64.size
  · simp only [hin, and_self, if_true, movedTo]
  · simp only [hin, if_false]

/-- Whether a target is so far back that the buffer is given up before moving there. -/
def givesUp (b : Buffered) : SeekTarget → Bool
  | .current d => d - b.buffer.length < minInstant
  | _ => false

/-- Over memory the buffered source tracks a cursor. -/
structure OverMemory (data : Bytes) (b : Buffered) (pos : Nat) : Prop
    extends Tracks data b pos where
  seeking : b.source.seeking = .memory
  sized : b.source.sized = true
  grants : b.source.grants = []
  pos_lt : pos < UInt64.size

namespace OverMemory

variable {data : Bytes} {b : Buffered} {pos : Nat}

theorem movedTo (h : OverMemory data b pos) {p : Nat} (hp : p < UInt64.size) :
    OverMemory data (b.movedTo p) p :=
  { h.toTracks.movedTo p with
    seeking := h.seeking
    sized := h.sized
    grants := h.grants
    pos_lt := hp }

theorem isSeekable (h : OverMemory data b pos) : b.isSeekable = true := by
  simp [Buffered.isSeekable, Source.isSeekable, byteLen?, Source.byteLen?, h.seeking, h.sized]

theorem read (h : OverMemory data b pos) (hsize : data.size < UInt64.size) (n : Nat) :
    ∃ k, CursorStep data pos (.read n) (.bytes (b.read n).1) (pos + k) ∧
      OverMemory data (b.read n).2 (pos + k) := by
  obtain ⟨k, hk, hbytes, hlen, ht, hpos⟩ := h.toTracks.read n
  refine ⟨k, hbytes ▸ .read hk hlen (hpos h.grants), ⟨ht, ?_, ?_, grants_read h.grants n, ?_⟩⟩
  · rw [seeking_read, h.seeking]
  · rw [sized_read, h.sized]
  · have := h.pos_lt
    rw [Bytes.length_window] at hlen
    omega

theorem lt_of_seek {s : Source} {t : SeekTarget} (h : (Source.cursor data pos).seek t = .ok s) :
    s.position < UInt64.size := by
  have hc : (Source.cursor data pos).seeking = .memory := rfl
  rw [Source.seek_memory hc] at h
  split at h
  · next hin =>
    cases h
    exact (Int.toNat_lt hin.1).2 hin.2
  · cases h

/-- Asking for the position moves nothing. -/
theorem seek_current_zero (h : OverMemory data b pos) (hsize : data.size < UInt64.size) :
    b.seek (.current 0) = (.ok pos, b) := by
  have hlen := h.length_le
  have hlt := h.pos_lt
  have hdest : b.source.destination (.current 0) = (pos + b.buffer.length : Nat) := by
    simp [Source.destination, h.ahead]
  have hin : 0 ≤ b.source.destination (.current 0) ∧
      b.source.destination (.current 0) < UInt64.size := by omega
  simp only [Buffered.seek, if_true, Source.seek_memory h.seeking, hin, and_self, Except.map,
    h.position_eq]

theorem cursor_seek_current_zero (h : OverMemory data b pos) :
    (Source.cursor data pos).seek (.current 0) = .ok (Source.cursor data pos) := by
  have hc : (Source.cursor data pos).seeking = .memory := rfl
  have hdest : (Source.cursor data pos).destination (.current 0) = (pos : Nat) := by
    simp [Source.destination, Source.cursor]
  have hlt := h.pos_lt
  have hin : 0 ≤ (pos : Int) ∧ (pos : Int) < UInt64.size := by omega
  rw [Source.seek_memory hc, hdest]
  simp only [hin, and_self, if_true, Int.toNat_natCast, Source.cursor]

/-- A buffered source moves as a cursor does. When the move fails nothing changes, except that the
buffer is given up when the distance for the source below does not fit in 64 bits. -/
theorem seek_eq (h : OverMemory data b pos) {t : SeekTarget} (ht : t ≠ .current 0) :
    b.seek t =
      match (Source.cursor data pos).seek t with
      | .ok s => (.ok s.position, b.movedTo s.position)
      | .error cause => (.error cause, if b.givesUp t then b.movedTo pos else b) := by
  cases t with
  | start n =>
    have hd : b.source.destination (.start n) = (Source.cursor data pos).destination (.start n) :=
      rfl
    simp only [Buffered.seek, h.isSeekable, if_true, givesUp, Bool.false_eq_true, if_false,
      reposition_eq h.seeking hd]
  | fromEnd d =>
    have hd : b.source.destination (.fromEnd d) =
        (Source.cursor data pos).destination (.fromEnd d) := by
      simp [Source.destination, Source.cursor, h.data_eq]
    simp only [Buffered.seek, h.isSeekable, if_true, givesUp, Bool.false_eq_true, if_false,
      reposition_eq h.seeking hd]
  | current d =>
    have hd₀ : d ≠ 0 := by simpa using ht
    simp only [Buffered.seek, hd₀, if_false, h.isSeekable, if_true, givesUp]
    by_cases hfit : minInstant ≤ d - b.buffer.length
    · have hd : b.source.destination (.current (d - b.buffer.length)) =
          (Source.cursor data pos).destination (.current d) := by
        simp only [Source.destination, Source.cursor, h.ahead]
        omega
      simp only [hfit, if_true, reposition_eq h.seeking hd, Int.not_lt.2 hfit, decide_false,
        Bool.false_eq_true, if_false]
    · have hback : b.source.destination (.current (-b.buffer.length)) =
          (Source.cursor data pos).destination (.current 0) := by
        simp only [Source.destination, Source.cursor, h.ahead]
        omega
      have hd : (b.movedTo pos).source.destination (.current d) =
          (Source.cursor data pos).destination (.current d) := rfl
      simp only [hfit, if_false, reposition_eq h.seeking hback, h.cursor_seek_current_zero,
        Source.position_cursor, reposition_eq (h.movedTo h.pos_lt).seeking hd, Int.not_le.1 hfit,
        decide_true, if_true]
      cases (Source.cursor data pos).seek (.current d) <;> rfl

theorem state_of_failed_seek (h : OverMemory data b pos) (hsize : data.size < UInt64.size)
    {t : SeekTarget} {cause : IoFailure} (hf : (b.seek t).1 = .error cause) :
    (b.seek t).2 = if b.givesUp t then b.movedTo pos else b := by
  by_cases ht : t = .current 0
  · rw [ht, h.seek_current_zero hsize] at hf
    cases hf
  · rw [h.seek_eq ht] at hf ⊢
    cases hs : (Source.cursor data pos).seek t with
    | ok s =>
      rw [hs] at hf
      cases hf
    | error e => rfl

/-- Any answer to a seek is that of a cursor. -/
theorem seek (h : OverMemory data b pos) (hsize : data.size < UInt64.size) (t : SeekTarget) :
    ∃ p, CursorStep data pos (.seek t) (.ofSeek (b.seek t).1) p ∧
      OverMemory data (b.seek t).2 p := by
  by_cases ht : t = .current 0
  · subst ht
    rw [h.seek_current_zero hsize]
    exact ⟨pos, .seek h.cursor_seek_current_zero, h⟩
  · rw [h.seek_eq ht]
    match hs : (Source.cursor data pos).seek t with
    | .ok s => exact ⟨s.position, .seek hs, h.movedTo (lt_of_seek hs)⟩
    | .error cause =>
      refine ⟨pos, .refuse hs, ?_⟩
      dsimp only
      split
      · exact h.movedTo h.pos_lt
      · exact h

theorem run (h : OverMemory data b pos) (hsize : data.size < UInt64.size)
    (requests : List Request) :
    ∃ p, Steps (CursorStep data) pos requests (b.run requests).1 p ∧
      OverMemory data (b.run requests).2 p := by
  induction requests generalizing b pos with
  | nil => exact ⟨pos, .nil, h⟩
  | cons r rs ih =>
    obtain ⟨mid, hstep, hmid⟩ : ∃ mid, CursorStep data pos r (b.respond r).1 mid ∧
        OverMemory data (b.respond r).2 mid := by
      cases r with
      | read n => exact (h.read hsize n).imp' (pos + ·) fun k hk => hk
      | seek t => exact h.seek hsize t
    obtain ⟨stop, hsteps, hstop⟩ := ih hmid
    exact ⟨stop, .cons hstep hsteps, hstop⟩

end OverMemory

/-- Over a stream that only goes forward the buffered source knows how much it handed out. -/
structure OverForward (data : Bytes) (b : Buffered) (pos : Nat) : Prop
    extends Tracks data b pos where
  seeking : b.source.seeking = .forward

namespace OverForward

variable {data : Bytes} {b : Buffered} {pos : Nat}

theorem read (h : OverForward data b pos) (n : Nat) :
    ∃ k, ForwardStep data pos (.read n) (.bytes (b.read n).1) (pos + k) ∧
      OverForward data (b.read n).2 (pos + k) := by
  obtain ⟨k, hk, hbytes, hlen, ht, -⟩ := h.toTracks.read n
  refine ⟨k, hbytes ▸ .read hk hlen, ht, ?_⟩
  rw [seeking_read, h.seeking]

theorem seek_eq (h : OverForward data b pos) (t : SeekTarget) :
    b.seek t = if t = .current 0 then (.ok pos, b) else (.error .cannotSeek, b) := by
  have hno : b.isSeekable = false := by
    simp [Buffered.isSeekable, Source.isSeekable, h.seeking]
  cases t with
  | current d =>
    by_cases hd : d = 0
    · simp [Buffered.seek, Source.seek, h.seeking, hd, Except.map, h.position_eq]
    · simp [Buffered.seek, hno, hd]
  | start | fromEnd => simp [Buffered.seek, hno]

theorem run (h : OverForward data b pos) (requests : List Request) :
    ∃ p, Steps (ForwardStep data) pos requests (b.run requests).1 p ∧
      OverForward data (b.run requests).2 p := by
  induction requests generalizing b pos with
  | nil => exact ⟨pos, .nil, h⟩
  | cons r rs ih =>
    obtain ⟨mid, hstep, hmid⟩ : ∃ mid, ForwardStep data pos r (b.respond r).1 mid ∧
        OverForward data (b.respond r).2 mid := by
      cases r with
      | read n => exact (h.read n).imp' (pos + ·) fun k hk => hk
      | seek t =>
        refine ⟨pos, ?_⟩
        rw [respond, h.seek_eq]
        split
        · next ht => exact ⟨ht ▸ .tell, h⟩
        · next ht => exact ⟨.refuse ht, h⟩
    obtain ⟨stop, hsteps, hstop⟩ := ih hmid
    exact ⟨stop, .cons hstep hsteps, hstop⟩

end OverForward

end Buffered

/-- What a stream handed out on the way from one place to another is what lies between them. -/
theorem Steps.handedOut_forward {data : Bytes} {pos stop : Nat} {requests : List Request}
    {responses : List Response} (h : Steps (ForwardStep data) pos requests responses stop) :
    ∃ n, stop = pos + n ∧ responses.flatMap Response.handedOut = data.window pos n ∧
      (data.window pos n).length = n := by
  induction h with
  | nil => exact ⟨0, rfl, by simp, by simp⟩
  | cons hstep _ ih =>
    obtain ⟨n, rfl, hn, hlen⟩ := ih
    cases hstep with
    | @read _ k _ hk =>
      refine ⟨k + n, by omega, ?_, ?_⟩
      · rw [List.flatMap_cons, hn, Response.handedOut, Bytes.window_add]
      · rw [Bytes.length_window] at *
        omega
    | tell | refuse => exact ⟨n, rfl, by simpa [Response.handedOut] using hn, hlen⟩

namespace Buffered

theorem overMemory_ofSource (data : Bytes) (chunkSize defaultSize : Nat) :
    OverMemory data (ofSource { data, chunkSize } defaultSize) 0 where
  data_eq := rfl
  block_pos := by
    simp only [ofSource]
    split <;> omega
  ahead := rfl
  held := by simp [ofSource]
  seeking := rfl
  sized := rfl
  grants := rfl
  pos_lt := by decide

theorem overForward_ofSource (data : Bytes) (grants : List Nat) (defaultSize : Nat) :
    OverForward data (ofSource (.forward data grants) defaultSize) 0 where
  data_eq := rfl
  block_pos := by
    simp only [ofSource]
    split <;> omega
  ahead := rfl
  held := by simp [ofSource]
  seeking := rfl

/-- After any requests a buffered source over memory has answered as a cursor, and stands where
the cursor stands. A seek that fails changes nothing, unless it goes so far back that the buffer is
given up; it stands where it stood then, too. Over a stream that only goes forward the reads give
the stream from its start, the position is the number of bytes handed out, and every other seek
fails and changes nothing. -/
theorem run_refines_cursor (data : Bytes) (hsize : data.size < UInt64.size)
    (chunkSize defaultSize : Nat) (grants : List Nat) (requests : List Request) :
    let m := (ofSource { data, chunkSize } defaultSize).run requests
    let f := (ofSource (.forward data grants) defaultSize).run requests
    Steps (CursorStep data) 0 requests m.1 m.2.position ∧
    (∀ t cause, (m.2.seek t).1 = .error cause →
      (m.2.seek t).2 = if m.2.givesUp t then m.2.movedTo m.2.position else m.2) ∧
    Steps (ForwardStep data) 0 requests f.1 f.2.position ∧
    f.1.flatMap Response.handedOut <+: data.toList ∧
    ∀ t, f.2.seek t =
      if t = .current 0 then (.ok (f.1.flatMap Response.handedOut).length, f.2)
      else (.error .cannotSeek, f.2) := by
  intro m f
  obtain ⟨p, hsteps, hp⟩ := (overMemory_ofSource data chunkSize defaultSize).run hsize requests
  obtain ⟨q, hforward, hq⟩ := (overForward_ofSource data grants defaultSize).run requests
  obtain ⟨n, rfl, hout, hlen⟩ := hforward.handedOut_forward
  refine ⟨hp.position_eq ▸ hsteps, ?_, hq.position_eq ▸ hforward, ?_, ?_⟩
  · intro t cause h
    have hstate := hp.state_of_failed_seek hsize h
    rwa [← hp.position_eq] at hstate
  · rw [hout, Bytes.window_eq]
    exact List.take_prefix _ _
  · intro t
    rw [hout, hlen, hq.seek_eq, Nat.zero_add]

/-- Eight bytes in blocks of four, with moves ahead, to the last byte and in front of the first. -/
theorem run_refines_cursor_eight :
    let data : Bytes := #[0, 1, 2, 3, 4, 5, 6, 7]
    let requests : List Request :=
      [.read 1, .seek (.current 1), .read 4, .seek (.fromEnd (-1)), .read 9, .seek (.current (-9))]
    data.size < UInt64.size ∧
    Steps (CursorStep data) 0 requests
      [.bytes [0], .position 2, .bytes [2, 3, 4, 5], .position 7, .bytes [7],
        .failure ⟨.invalidInput, "invalid seek to a negative or overflowing position"⟩] 8 := by
  intro data requests
  have hsize : data.size < UInt64.size := by decide
  have hsteps := (run_refines_cursor data hsize 0 4 [] requests).1
  have hanswers : ((ofSource { data } 4).run requests).1 =
      [.bytes [0], .position 2, .bytes [2, 3, 4, 5], .position 7, .bytes [7],
        .failure ⟨.invalidInput, "invalid seek to a negative or overflowing position"⟩] := by
    decide
  have hpos : ((ofSource { data } 4).run requests).2.position = 8 := by decide
  rw [hanswers, hpos] at hsteps
  exact ⟨hsize, hsteps⟩

/-- A seek that goes too far back loses what was read ahead: the next read is longer than it would
have been. -/
theorem failed_seek_changes_reads :
    ¬ ∀ (data : Bytes) (defaultSize : Nat) (before after : List Request) (t : SeekTarget)
      (cause : IoFailure),
      let b := ((ofSource (.ofBytes data) defaultSize).run before).2
      (b.seek t).1 = .error cause → ((b.seek t).2.run after).1 = (b.run after).1 := by
  intro h
  have hread := h #[0, 1, 2, 3, 4, 5, 6, 7] 4 [.read 1] [.read 4] (.current minInstant)
    ⟨.invalidInput, "invalid seek to a negative or overflowing position"⟩ (by decide)
  revert hread
  decide

end Buffered

end MediaTags
