import MediaTags.IsoMedia.Nero
import MediaTags.Proofs.IsoMedia.Fields
import MediaTags.Proofs.Text.Blank
import MediaTags.Proofs.Text.Utf8

/-!
# Written chapter lists

A chapter list is a version and flags, the number of chapters, and for each of them its start and
its title. It is read back as it was written. A list that is cut short, wherever that is, has the
first of its chapters, each of them as in the whole list.
-/

namespace MediaTags.IsoMedia.Nero

open Bytes (ofNumber takeBytes? takeNumber?)

/-! ## Lists that are written -/

/-- A start and a title that fit into a list. -/
structure Mark where
  start : Nat
  title : String
  start_lt : start < 256 ^ 8 := by decide
  trimmed : Text.trim title = title := by decide
  length_lt : (Text.Utf8.encode title.toList).length < 256 := by decide

namespace Mark

def text (m : Mark) : List UInt8 := Text.Utf8.encode m.title.toList

def bytes (m : Mark) : List UInt8 := ofNumber 8 m.start ++ (ofNumber 1 m.text.length ++ m.text)

/-- The chapter that a list of marks declares. A start too large for an instant is the last one. -/
def chapter (m : Mark) : Chapter where
  start := if (m.start : Int) ≤ maxInstant then m.start else maxInstant
  stop := none
  timeBase := ⟨1, 10000000⟩
  metadata := if m.title = "" then [] else [⟨"title", m.title⟩]

theorem length_text_lt (m : Mark) : m.text.length < 256 ^ 1 := m.length_lt

theorem takeChapter?_bytes (m : Mark) (rest : List UInt8) :
    takeChapter? (m.bytes ++ rest) = some (m.chapter, rest) := by
  have hstart := takeNumber?_ofNumber m.start_lt (ofNumber 1 m.text.length ++ m.text ++ rest)
  have hlength := takeNumber?_ofNumber m.length_text_lt (m.text ++ rest)
  have htitle : Text.trim (.ofList (Text.Utf8.decodeLossy m.text)) = m.title := by
    rw [text, Text.Utf8.decodeLossy_encode, String.ofList_toList, m.trimmed]
  have hchapter : m.chapter =
      ⟨min (m.start : Int) maxInstant, none, timeBase, Track.titleEntries m.title⟩ := by
    simp only [chapter, timeBase, Track.titleEntries, String.isEmpty_iff, min_def]
  rw [bytes, List.append_assoc, takeChapter?, hstart]
  simp only [List.append_assoc, hlength, takeBytes?_append, Option.map_some, htitle, hchapter]

end Mark

theorem takeChapters_bytes (marks : List Mark) (rest : List UInt8) :
    takeChapters marks.length (marks.flatMap Mark.bytes ++ rest) = marks.map Mark.chapter := by
  induction marks with
  | nil => rfl
  | cons m marks ih =>
    rw [List.length_cons, List.flatMap_cons, List.append_assoc, takeChapters, m.takeChapter?_bytes]
    simp only [ih, List.map_cons]

/-- A chapter list as it is written. -/
structure Listing where
  version : UInt8
  flags : List UInt8
  /-- The reserved bytes in front of the number of chapters. -/
  reserved : List UInt8
  marks : List Mark
  length_flags : flags.length = 3 := by decide
  length_reserved : reserved.length = if version = 0 then 0 else 4 := by decide
  length_marks : marks.length < 256 := by decide

namespace Listing

def payload (l : Listing) : List UInt8 :=
  l.version :: l.flags ++ (l.reserved ++ (ofNumber 1 l.marks.length ++ l.marks.flatMap Mark.bytes))

theorem skip_reserved (l : Listing) (rest : List UInt8) :
    (if l.version.toNat = 0 then l.reserved ++ rest else skip 4 (l.reserved ++ rest)) = rest := by
  have hlength := l.length_reserved
  by_cases hversion : l.version = 0
  · rw [if_pos hversion, List.length_eq_zero_iff] at hlength
    rw [hlength, if_pos (by simp [hversion]), List.nil_append]
  · have hnumber : l.version.toNat ≠ 0 := fun h => hversion (UInt8.toNat_inj.1 h)
    rw [if_neg hversion] at hlength
    rw [if_neg hnumber, ← hlength, skip_append]

theorem length_marks_lt (l : Listing) : l.marks.length < 256 ^ 1 := l.length_marks

theorem chapters_payload (l : Listing) (more : List UInt8) :
    chapters (l.payload ++ more) = l.marks.map Mark.chapter := by
  have hcount := takeNumber_ofNumber l.length_marks_lt (l.marks.flatMap Mark.bytes ++ more)
  have hpayload : l.payload ++ more = l.version :: l.flags ++
      (l.reserved ++ (ofNumber 1 l.marks.length ++ (l.marks.flatMap Mark.bytes ++ more))) := by
    simp [payload]
  rw [hpayload, chapters, takeVersion_append l.version l.length_flags]
  simp only [l.skip_reserved, hcount, takeChapters_bytes]

end Listing

/-! ## Lists that are cut short -/

section Cut

variable {bs rest : List UInt8} (more : List UInt8)

theorem takeChapter?_extend {c : Chapter} (h : takeChapter? bs = some (c, rest)) :
    takeChapter? (bs ++ more) = some (c, rest ++ more) := by
  unfold takeChapter? at h ⊢
  split at h
  · cases h
  · next hstart =>
    split at h
    · cases h
    · next hlength =>
      obtain ⟨⟨title, rest⟩, hbytes, heq⟩ := Option.map_eq_some_iff.1 h
      cases heq
      simp only [takeNumber?_extend more hstart, takeNumber?_extend more hlength,
        takeBytes?_extend more hbytes, Option.map_some]

/-- A chapter takes nine bytes at least. -/
theorem takeChapters_of_short (h : bs.length < 8) (count : Nat) : takeChapters count bs = [] := by
  cases count with
  | zero => rfl
  | succ count => rw [takeChapters, takeChapter?, takeNumber?_eq_none h]

theorem takeChapters_prefix (count : Nat) (bs more : List UInt8) :
    takeChapters count bs <+: takeChapters count (bs ++ more) := by
  induction count generalizing bs with
  | zero => exact List.prefix_refl _
  | succ count ih =>
    rw [takeChapters, takeChapters]
    cases h : takeChapter? bs with
    | none => exact List.nil_prefix
    | some found =>
      obtain ⟨c, rest⟩ := found
      rw [takeChapter?_extend more h]
      exact (List.prefix_cons_inj c).2 (ih rest)

/-- The chapters behind the reserved bytes. -/
def counted (bs : List UInt8) : List Chapter :=
  let (count, rest) := takeNumber 1 bs
  takeChapters count rest

theorem counted_prefix (bs more : List UInt8) : counted bs <+: counted (bs ++ more) := by
  cases h : takeNumber? 1 bs with
  | none =>
    rw [counted, takeNumber, h]
    exact List.nil_prefix
  | some found =>
    rw [counted, counted, takeNumber, takeNumber, h, takeNumber?_extend more h]
    exact takeChapters_prefix ..

theorem counted_of_short (h : bs.length < 8) : counted bs = [] := by
  have hrest : (takeNumber 1 bs).2.length ≤ bs.length := by
    rw [takeNumber, takeNumber?, Bytes.takeBytes?_eq]
    split <;> simp
  exact takeChapters_of_short (hrest.trans_lt h) _

theorem chapters_eq_counted {version : Nat} (h : takeVersion bs = (some version, rest)) :
    chapters bs = counted (if version = 0 then rest else skip 4 rest) := by
  rw [chapters, h]
  rfl

theorem chapters_prefix (bs more : List UInt8) : chapters bs <+: chapters (bs ++ more) := by
  cases htaken : takeVersion bs with
  | mk version? rest =>
  cases version? with
  | none =>
    rw [chapters, htaken]
    exact List.nil_prefix
  | some version =>
    rw [chapters_eq_counted htaken, chapters_eq_counted (takeVersion_extend more htaken)]
    by_cases hfirst : version = 0
    · rw [if_pos hfirst, if_pos hfirst]
      exact counted_prefix ..
    rw [if_neg hfirst, if_neg hfirst]
    by_cases hreserved : 4 ≤ rest.length
    · rw [skip_extend more hreserved]
      exact counted_prefix ..
    · -- a reserved byte is taken for the number of chapters, but nothing is left for any of them
      rw [skip_of_short (by omega), counted_of_short (by omega)]
      exact List.nil_prefix

end Cut

/-- A chapter list is read back in order, whatever follows it. What is read from the front of some
bytes is the front of what is read from all of them, however many there are and whatever they
say. -/
theorem chapters_payload_and_prefix (l : Listing) (more : List UInt8) {front bs : List UInt8}
    (h : front <+: bs) :
    chapters (l.payload ++ more) = l.marks.map Mark.chapter ∧ chapters front <+: chapters bs := by
  obtain ⟨behind, rfl⟩ := h
  exact ⟨l.chapters_payload more, chapters_prefix front behind⟩

namespace Written

/-- A list in a later version, with a title that takes more bytes than characters, a chapter without
a title and one that starts behind the last instant. -/
def listing : Listing where
  version := 1
  flags := [0, 0, 0]
  reserved := [9, 0, 0, 9]
  marks :=
    [{ start := 0, title := "Début" },
      { start := 1200000000, title := "", trimmed := Text.trim_empty },
      { start := 0x8000000000000000, title := "End" }]

end Written

open Written in
/-- The cut is in the last title. -/
theorem chapters_payload_and_prefix_threeMarks :
    listing.payload.take 44 <+: listing.payload ∧
    chapters (listing.payload ++ [7]) =
      [⟨0, none, timeBase, [⟨"title", "Début"⟩]⟩, ⟨1200000000, none, timeBase, []⟩,
        ⟨maxInstant, none, timeBase, [⟨"title", "End"⟩]⟩] ∧
    chapters (listing.payload.take 44) <+: chapters listing.payload ∧
    (chapters (listing.payload.take 44)).length = 2 := by
  have hcut : listing.payload.take 44 <+: listing.payload := List.take_prefix ..
  obtain ⟨hwhole, hfront⟩ := chapters_payload_and_prefix listing [7] hcut
  exact ⟨hcut, hwhole.trans (by decide), hfront, by decide +kernel⟩

end MediaTags.IsoMedia.Nero
