import MediaTags.Matroska.Value
import MediaTags.Proofs.Matroska.Field
import MediaTags.Proofs.Matroska.Tiling
import MediaTags.Proofs.Matroska.Vint

/-!
# Reading under guard

Here headers and payloads are read in numbers of 32 and 64 bits, and each step is watched: the
reading breaks off where a number leaves its type, where a payload does not lie in its element and
in all elements around it, and where a loop takes more steps than there are bytes between its ends.
None of this ever happens, so that the guarded reading comes to the same as the plain one.
-/

namespace MediaTags.Matroska

/-- Why a guarded reading breaks off. -/
inductive Halt where
  | fault (f : Fault)
  | overflow
  | outside
  | outOfSteps
  deriving DecidableEq, Repr

/-- An element and those that it lies in, innermost first. -/
structure Spot where
  element : Element
  around : List Element := []
  deriving DecidableEq, Repr

namespace Spot

def child (s : Spot) (e : Element) : Spot := ⟨e, s.element :: s.around⟩

/-- The element ends at a number of 64 bits, and within all elements around it. -/
structure Nested (s : Spot) : Prop where
  stop_lt : s.element.stop < UInt64.size
  within : ∀ a ∈ s.around, a.dataStart ≤ s.element.dataStart ∧ s.element.stop ≤ a.stop

theorem Nested.child {s : Spot} {file : Bytes} {pos : Nat} {e : Element} (h : s.Nested)
    (hpos : s.element.dataStart ≤ pos) (he : StartsAt file s.element.stop pos e) :
    (s.child e).Nested where
  stop_lt := he.stop_le.trans_lt h.stop_lt
  within := by
    have hself : s.element.dataStart ≤ e.dataStart ∧ e.stop ≤ s.element.stop :=
      ⟨hpos.trans he.lt_dataStart.le, he.stop_le⟩
    refine List.forall_mem_cons.2 ⟨hself, fun a ha => ?_⟩
    obtain ⟨hstart, hstop⟩ := h.within a ha
    exact ⟨hstart.trans hself.1, hself.2.trans hstop⟩

theorem Nested.child_of_mem {s : Spot} {file : Bytes} {last : Element → Bool} {e : Element}
    (h : s.Nested) (he : e ∈ (childrenUntil file last s.element).elements) :
    (s.child e).Nested := by
  obtain ⟨p, htiles, -⟩ := tiles_childrenUntil file last s.element
  obtain ⟨pos, hpos, hstarts⟩ := htiles.exists_starts (fun _ _ hx => hx.lt_stop.le) he
  exact h.child hpos hstarts

end Spot

/-- All of the `count` bytes from `start` on lie in the payload of an element. -/
def Element.Covers (a : Element) (start count : Nat) : Prop :=
  ∀ p, start ≤ p → p < start + count → a.dataStart ≤ p ∧ p < a.stop

theorem Element.covers_iff {a : Element} {start count : Nat} :
    a.Covers start count ↔ count = 0 ∨ a.dataStart ≤ start ∧ start + count ≤ a.stop := by
  constructor
  · intro h
    by_cases hcount : count = 0
    · exact .inl hcount
    · have hfirst := h start le_rfl (by omega)
      have hlast := h (start + count - 1) (by omega) (by omega)
      exact .inr ⟨hfirst.1, by omega⟩
  · rintro (rfl | ⟨hstart, hstop⟩) p hp hlt
    · omega
    · omega

instance (a : Element) (start count : Nat) : Decidable (a.Covers start count) :=
  decidable_of_iff _ Element.covers_iff.symm

/-- The payload of a nested element lies in the element and in all those around it. -/
theorem Spot.Nested.covers {s : Spot} (h : s.Nested) :
    ∀ a ∈ s.element :: s.around, a.Covers s.element.dataStart s.element.size := by
  have hself : s.element.Covers s.element.dataStart s.element.size := fun p hp hlt =>
    ⟨hp, by rw [Element.size] at hlt; omega⟩
  refine List.forall_mem_cons.2 ⟨hself, fun a ha p hp hlt => ?_⟩
  obtain ⟨hstart, hstop⟩ := h.within a ha
  have hin := hself p hp hlt
  omega

namespace Guarded

/-! ## Numbers -/

def add (m n : Nat) : Except Halt Nat :=
  if m + n < UInt64.size then .ok (m + n) else .error .overflow

def sub (m n : Nat) : Except Halt Nat := if n ≤ m then .ok (m - n) else .error .overflow

/-- A sum that is known not to be one if it overflows. -/
def checkedAdd? (m n : Nat) : Option Nat := if m + n < UInt64.size then some (m + n) else none

/-- A power of two, in 64 bits. -/
def bit (k : Nat) : Except Halt Nat := if k < 64 then .ok (1 <<< k) else .error .overflow

/-- Put one more byte behind a number that stays below a limit. -/
def shiftIn (limit value : Nat) (b : UInt8) : Except Halt Nat :=
  if value * 256 + b.toNat < limit then .ok (value * 256 + b.toNat) else .error .overflow

/-- The number below a limit that the bytes write. -/
def bigEndian (limit : Nat) (bs : List UInt8) : Except Halt Nat := bs.foldlM (shiftIn limit) 0

def takeBytes (limit value count : Nat) (bs : List UInt8) : Except Halt (Nat × List UInt8) :=
  if count ≤ bs.length then
    ((bs.take count).foldlM (shiftIn limit) value).map (·, bs.drop count)
  else .error (.fault .endOfData)

def readId : List UInt8 → Except Halt (Nat × List UInt8)
  | [] => .error (.fault .endOfData)
  | b :: bs =>
    if 4 < markedWidth b then .error (.fault .idTooWide)
    else takeBytes UInt32.size b.toNat (markedWidth b - 1) bs

def unknownSize (width : Nat) : Except Halt Nat := do sub (← bit (7 * width)) 1

def readSize : List UInt8 → Except Halt (Option Nat × List UInt8)
  | [] => .error (.fault .endOfData)
  | b :: bs =>
    let width := markedWidth b
    if 8 < width then .error (.fault .sizeTooWide)
    else do
      let (n, rest) ← takeBytes UInt64.size (b.toNat % (1 <<< (8 - width))) (width - 1) bs
      let unknown ← unknownSize width
      return (if n = unknown then none else some n, rest)

/-! ## Headers, loops and payloads -/

def header (file : Bytes) (pos parentStop : Nat) : Except Halt Element := do
  let bs := file.window pos headerWidth
  let (id, afterId) ← readId bs
  let (size, rest) ← readSize afterId
  let dataStart ← add pos (bs.length - rest.length)
  match size with
  | none => return ⟨id, dataStart, parentStop⟩
  | some n =>
    match (checkedAdd? dataStart n).filter (· ≤ parentStop) with
    | some stop => return ⟨id, dataStart, stop⟩
    | none => .error (.fault .overrun)

section Loop

variable {σ α : Type}

/-- Read a header, visit its element and go on behind it, up to an element that `last` holds for. -/
def visitFrom (file : Bytes) (last : Element → Bool) (parent : Spot)
    (visit : σ → Spot → Except Halt σ) : Nat → σ → Nat → Except Halt σ
  | 0, s, pos => if pos < parent.element.stop then .error .outOfSteps else .ok s
  | steps + 1, s, pos =>
    if pos < parent.element.stop then do
      let e ← header file pos parent.element.stop
      if last e then .ok s
      else do
        let s ← visit s (parent.child e)
        visitFrom file last parent visit steps s e.stop
    else .ok s

/-- Visit the children of an element, in no more steps than its payload has bytes. -/
def visitUntil (file : Bytes) (last : Element → Bool) (parent : Spot)
    (visit : σ → Spot → Except Halt σ) (init : σ) : Except Halt σ :=
  visitFrom file last parent visit (parent.element.stop - parent.element.dataStart) init
    parent.element.dataStart

def visitChildren (file : Bytes) (parent : Spot) (visit : σ → Spot → Except Halt σ) (init : σ) :
    Except Halt σ :=
  visitUntil file (fun _ => false) parent visit init

/-- Read each child up to one that `last` holds for. -/
def readUntil (file : Bytes) (last : Element → Bool) (parent : Spot) (read : Spot → Except Halt α) :
    Except Halt (List α) :=
  visitUntil file last parent (fun vs c => (read c).map (vs ++ [·])) []

def readEach (file : Bytes) (parent : Spot) (read : Spot → Except Halt α) : Except Halt (List α) :=
  readUntil file (fun _ => false) parent read

/-- Read an element if it has the right id. -/
def readIf (wanted : Nat) (read : Spot → Except Halt α) (c : Spot) : Except Halt (Option α) :=
  if c.element.id = wanted then (read c).map some else .ok none

/-- Read those children that have an id. -/
def readAll (file : Bytes) (parent : Spot) (wanted : Nat) (read : Spot → Except Halt α) :
    Except Halt (List α) :=
  (readEach file parent (readIf wanted read)).map fun values => values.filterMap id

end Loop

def payload (file : Bytes) (s : Spot) : Except Halt (List UInt8) :=
  if maxPayload < s.element.size then .error (.fault .payloadTooLarge)
  else if ∀ a ∈ s.element :: s.around, a.Covers s.element.dataStart s.element.size then
    match file.slice? s.element.dataStart s.element.size with
    | some bs => .ok bs
    | none => .error (.fault .endOfData)
  else .error .outside

def uint (file : Bytes) (s : Spot) : Except Halt Nat :=
  if 8 < s.element.size then .error (.fault .integerTooWide)
  else do bigEndian UInt64.size (← payload file s)

def float (file : Bytes) (s : Spot) : Except Halt Float := do
  let bs ← payload file s
  match bs.length with
  | 0 => .ok 0
  | 4 => .ok (Float32.ofBits (.ofNat (Bytes.bigEndian bs))).toFloat
  | 8 => .ok (Float.ofBits (.ofNat (Bytes.bigEndian bs)))
  | _ => .error (.fault .floatWidth)

def text (file : Bytes) (s : Spot) : Except Halt String :=
  (payload file s).map fun bs =>
    .ofList (Text.dropEndWhile (· == Char.ofNat 0) (Text.Utf8.decodeLossy bs))

/-! ## Numbers stay in their types -/

theorem foldlM_shiftIn {limit value : Nat} {bs : List UInt8}
    (h : (value + 1) * 256 ^ bs.length ≤ limit) :
    bs.foldlM (shiftIn limit) value = .ok (value * 256 ^ bs.length + Bytes.bigEndian bs) := by
  induction bs generalizing value with
  | nil => simp [pure, Except.pure]
  | cons b bs ih =>
    have hb := b.toNat_lt
    have hpow : 0 < 256 ^ bs.length := by positivity
    rw [List.length_cons, Nat.pow_succ] at h
    have hnext : (value * 256 + b.toNat + 1) * 256 ^ bs.length ≤ limit :=
      calc (value * 256 + b.toNat + 1) * 256 ^ bs.length
          ≤ ((value + 1) * 256) * 256 ^ bs.length := Nat.mul_le_mul_right _ (by omega)
        _ = (value + 1) * (256 ^ bs.length * 256) := by ring
        _ ≤ limit := h
    have hlt : value * 256 + b.toNat < limit :=
      (Nat.le_mul_of_pos_right _ hpow).trans hnext
    rw [List.foldlM_cons, shiftIn, if_pos hlt]
    refine (ih hnext).trans ?_
    rw [Bytes.bigEndian_cons, List.length_cons, Nat.pow_succ]
    congr 1
    ring

theorem bigEndian_eq {limit : Nat} {bs : List UInt8} (h : 256 ^ bs.length ≤ limit) :
    bigEndian limit bs = .ok (Bytes.bigEndian bs) := by
  have hfold : bs.foldlM (shiftIn limit) 0 = .ok (0 * 256 ^ bs.length + Bytes.bigEndian bs) :=
    foldlM_shiftIn (by omega)
  rw [bigEndian, hfold, Nat.zero_mul, Nat.zero_add]

theorem takeBytes_agrees {limit value count : Nat} (h : (value + 1) * 256 ^ count ≤ limit)
    (bs : List UInt8) :
    Agrees .fault (takeBytes limit value count bs) (Matroska.takeBytes value count bs) := by
  rw [takeBytes, takeBytes_eq]
  split
  · next hcount =>
    have hlen := List.length_take_of_le hcount
    rw [foldlM_shiftIn (by rwa [hlen]), hlen]
    rfl
  · rfl

theorem readId_agrees (bs : List UInt8) : Agrees .fault (readId bs) (Matroska.readId bs) := by
  cases bs with
  | nil => rfl
  | cons b bs =>
    rw [readId, Matroska.readId]
    split
    · rfl
    · next hwidth =>
      refine takeBytes_agrees ?_ bs
      have hb : b.toNat + 1 ≤ 256 := b.toNat_lt
      calc (b.toNat + 1) * 256 ^ (markedWidth b - 1)
          ≤ 256 * 256 ^ 3 :=
            Nat.mul_le_mul hb (Nat.pow_le_pow_right (by decide) (by omega))
        _ ≤ UInt32.size := by decide

theorem unknownSize_eq_ok {width : Nat} (h : width ≤ 8) :
    unknownSize width = .ok (Matroska.unknownSize width) := by
  have hpos : 1 ≤ 1 <<< (7 * width) := by
    rw [Nat.one_shiftLeft]
    exact Nat.one_le_two_pow
  rw [unknownSize, bit, if_pos (by omega)]
  exact if_pos hpos

theorem readSize_agrees (bs : List UInt8) : Agrees .fault (readSize bs) (Matroska.readSize bs) := by
  cases bs with
  | nil => rfl
  | cons b bs =>
    rw [readSize, Matroska.readSize]
    dsimp only
    split
    · rfl
    · next hwidth =>
      have hb : b.toNat % 1 <<< (8 - markedWidth b) + 1 ≤ 256 :=
        (Nat.mod_le _ _).trans_lt b.toNat_lt
      generalize b.toNat % 1 <<< (8 - markedWidth b) = value at hb ⊢
      have hlimit : (value + 1) * 256 ^ (markedWidth b - 1) ≤ UInt64.size :=
        calc (value + 1) * 256 ^ (markedWidth b - 1)
            ≤ 256 * 256 ^ 7 :=
              Nat.mul_le_mul hb (Nat.pow_le_pow_right (by decide) (by omega))
          _ ≤ UInt64.size := by decide
      rw [unknownSize_eq_ok (by omega), takeBytes_agrees hlimit bs]
      cases Matroska.takeBytes value (markedWidth b - 1) bs with
      | error f => rfl
      | ok r => rfl

theorem filter_checkedAdd? {m n : Nat} {p : Nat → Bool} (hp : ∀ k, p k → k < UInt64.size) :
    (checkedAdd? m n).filter p = if p (m + n) then some (m + n) else none := by
  rw [checkedAdd?]
  split
  · rfl
  · next hlarge => rw [if_neg fun h => hlarge (hp _ h), Option.filter_none]

/-! ## Headers and loops -/

section Loop

variable {file : Bytes} (hfile : file.size < UInt64.size)
variable {σ α : Type} {last : Element → Bool} {parent : Spot}

include hfile

theorem header_agrees (pos : Nat) {parentStop : Nat} (hstop : parentStop < UInt64.size) :
    Agrees .fault (header file pos parentStop) (Matroska.header file pos parentStop) := by
  rw [header, Matroska.header]
  dsimp only
  have hwindow : (file.window pos headerWidth).length ≤ file.size - pos := by
    rw [Bytes.length_window]
    exact Nat.min_le_right ..
  generalize file.window pos headerWidth = bs at hwindow ⊢
  rw [readId_agrees bs]
  cases hid : Matroska.readId bs with
  | error f => rfl
  | ok r =>
    obtain ⟨id, afterId⟩ := r
    simp only [Except.mapError, bind, Except.bind]
    rw [readSize_agrees afterId]
    cases hsize : Matroska.readSize afterId with
    | error f => rfl
    | ok r =>
      obtain ⟨size, rest⟩ := r
      -- The bytes of the header lie in the file, and so its end does.
      have hstart : pos + (bs.length - rest.length) < UInt64.size := by
        have hidLength := length_of_readId hid
        have hsizeLength := length_of_readSize hsize
        omega
      simp only [Except.mapError, add, if_pos hstart]
      cases size with
      | none => rfl
      | some n =>
        generalize pos + (bs.length - rest.length) = start
        have hbound (k : Nat) (hk : decide (k ≤ parentStop)) : k < UInt64.size :=
          (of_decide_eq_true hk).trans_lt hstop
        dsimp only
        rw [filter_checkedAdd? hbound]
        by_cases hfits : start + n ≤ parentStop
        · rw [if_pos hfits, if_pos (decide_eq_true hfits)]
          rfl
        · rw [if_neg hfits, if_neg (by simpa using hfits)]
          rfl

section Visit

variable (hparent : parent.Nested) {visit : σ → Spot → Except Halt σ}
  {read : σ → Element → Except Fault σ}
  (hvisit : ∀ s c, c.Nested → Agrees .fault (visit s c) (read s c.element))

include hparent hvisit

/-- A loop does with one element after the other what is done with them once they are listed. -/
theorem visitFrom_agrees (steps : Nat) (s : σ) {pos : Nat}
    (hpos : parent.element.dataStart ≤ pos) (hsteps : parent.element.stop - pos ≤ steps) :
    Agrees .fault (visitFrom file last parent visit steps s pos)
      ((childrenFrom file last parent.element.stop [] pos).foldlM read s) := by
  induction steps generalizing s pos with
  | zero =>
    have hend : parent.element.stop ≤ pos := by omega
    rw [visitFrom, if_neg (by omega), childrenFrom_of_le [] hend]
    rfl
  | succ steps ih =>
    rw [visitFrom]
    split
    · next hlt =>
      rw [header_agrees hfile pos hparent.stop_lt]
      cases he : Matroska.header file pos parent.element.stop with
      | error f =>
        rw [childrenFrom_of_error [] hlt he]
        rfl
      | ok e =>
        by_cases hlast : last e
        · rw [childrenFrom_of_ok [] hlt he, if_pos hlast]
          exact if_pos hlast
        · have hstarts := startsAt_of_header hlt he
          have hnext : Agrees .fault
              (visit s (parent.child e) >>= fun s =>
                visitFrom file last parent visit steps s e.stop)
              (read s e >>= (childrenFrom file last parent.element.stop [] e.stop).foldlM read) :=
            (hvisit s _ (hparent.child hpos hstarts)).bind fun s _ =>
              ih s (hpos.trans hstarts.lt_stop.le) (by have := hstarts.lt_stop; omega)
          rw [childrenFrom_cons hlt he hlast, Children.foldlM_cons]
          exact (if_neg hlast).trans hnext
    · rw [childrenFrom_of_le [] (by omega)]
      rfl

theorem visitUntil_agrees (init : σ) :
    Agrees .fault (visitUntil file last parent visit init)
      ((childrenUntil file last parent.element).foldlM read init) :=
  visitFrom_agrees hfile hparent hvisit _ init le_rfl le_rfl

theorem visitChildren_agrees (init : σ) :
    Agrees .fault (visitChildren file parent visit init)
      ((children file parent.element).foldlM read init) :=
  visitUntil_agrees hfile hparent hvisit init

end Visit

section Read

variable (hparent : parent.Nested) {read : Spot → Except Halt α}
  {plain : Element → Except Fault α}
  (hread : ∀ c, c.Nested → Agrees .fault (read c) (plain c.element))

include hparent hread

/-- Reading one child after the other is reading all of them. -/
theorem readUntil_agrees :
    Agrees .fault (readUntil file last parent read)
      ((childrenUntil file last parent.element).mapM plain) := by
  rw [← Children.foldlM_append_singleton]
  exact visitUntil_agrees hfile hparent (fun vs c hc => (hread c hc).map _) []

theorem readEach_agrees :
    Agrees .fault (readEach file parent read) ((children file parent.element).mapM plain) :=
  readUntil_agrees hfile hparent hread

omit hfile hparent in
theorem readIf_agrees (wanted : Nat) (c : Spot) (hc : c.Nested) :
    Agrees .fault (readIf wanted read c) (Children.readIf wanted plain c.element) := by
  rw [readIf, Children.readIf]
  split
  · exact (hread c hc).map some
  · exact .ok _ _

theorem readAll_agrees (wanted : Nat) :
    Agrees .fault (readAll file parent wanted read)
      ((children file parent.element).readAll wanted plain) :=
  (readEach_agrees hfile hparent (readIf_agrees hread wanted)).map _

end Read

end Loop

/-! ## Values -/

section Values

variable {file : Bytes} {s : Spot}

theorem length_of_payload {e : Element} {bs : List UInt8}
    (h : Matroska.payload file e = .ok bs) : bs.length = e.size := by
  unfold Matroska.payload at h
  split at h
  · cases h
  · split at h
    · next hslice =>
      cases h
      exact Bytes.length_of_slice? hslice
    · cases h

theorem payload_agrees (hs : s.Nested) :
    Agrees .fault (payload file s) (Matroska.payload file s.element) := by
  rw [payload, Matroska.payload]
  split
  · rfl
  · rw [if_pos hs.covers]
    cases file.slice? s.element.dataStart s.element.size <;> rfl

/-- A number of up to eight bytes is one of 64 bits. -/
theorem uint_agrees (hs : s.Nested) :
    Agrees .fault (uint file s) (Matroska.uint file s.element) := by
  rw [uint, Matroska.uint]
  split
  · rfl
  · next hwidth =>
    refine (payload_agrees hs).bind_map fun bs hbs => ?_
    have hlength := length_of_payload hbs
    refine bigEndian_eq ?_
    calc 256 ^ bs.length ≤ 256 ^ 8 := Nat.pow_le_pow_right (by decide) (by omega)
      _ ≤ UInt64.size := by decide

theorem float_agrees (hs : s.Nested) :
    Agrees .fault (float file s) (Matroska.float file s.element) := by
  refine (payload_agrees hs).bind fun bs _ => ?_
  generalize bs.length = width
  split <;> simp_all [Agrees, Except.mapError]

theorem text_agrees (hs : s.Nested) :
    Agrees .fault (text file s) (Matroska.text file s.element) :=
  (payload_agrees hs).map _

end Values

end Guarded

end MediaTags.Matroska
