import MediaTags.Proofs.Opening.Outcome

/-!
# Which picture a container shows

Blocks of metadata are read one after the other, and each may replace the picture found so far.
The last block with a front cover decides, by the first front cover that it has. Without any front
cover the first picture of all stays.
-/

namespace MediaTags

namespace Demux.Revision

variable {before after rs : List Revision} {r : Revision} {v : Visual}

def frontCover? (r : Revision) : Option Visual := r.visuals.find? Visual.isFrontCover

theorem frontCover?_eq_none_iff :
    r.frontCover? = none ↔ ∀ v ∈ r.visuals, v.isFrontCover = false := by
  simp [frontCover?]

/-- What one block does to the picture found so far: its own front cover comes first, its other
pictures last. -/
theorem addArt_eq (art : Option Picture) (r : Revision) :
    addArt art r = (r.frontCover?.map Visual.picture).or
      (art.or (r.visuals.head?.map Visual.picture)) := by
  unfold addArt chosenVisual?
  cases hfront : r.frontCover? with
  | some v =>
    have hcover : v.isFrontCover = true := List.find?_some hfront
    rw [frontCover?] at hfront
    simp [hfront, hcover]
  | none =>
    have hnone := frontCover?_eq_none_iff.1 hfront
    rw [frontCover?] at hfront
    cases hvisuals : r.visuals with
    | nil => cases art <;> simp
    | cons v rest =>
      have hcover : v.isFrontCover = false := hnone v (by simp [hvisuals])
      rw [hvisuals] at hfront
      cases art <;> simp [hfront, hcover]

/-- The picture of a row of blocks: the last front cover that a block has to show, or else the
first picture. -/
theorem art?_eq (rs : List Revision) :
    art? rs = ((rs.reverse.findSome? frontCover?).or
      (rs.findSome? fun r => r.visuals.head?)).map Visual.picture := by
  -- the last block is the one that may replace, so the induction adds blocks at the end
  induction rs using List.reverseRecOn with
  | nil => rfl
  | append_singleton rs r ih =>
    have hstep : art? (rs ++ [r]) = addArt (art? rs) r := by simp [art?, List.foldl_append]
    have hcovers : (rs ++ [r]).reverse.findSome? frontCover? =
        r.frontCover?.or (rs.reverse.findSome? frontCover?) := by
      cases hfront : r.frontCover? <;> simp [hfront]
    have hfirst : (rs ++ [r]).findSome? (fun r => r.visuals.head?) =
        (rs.findSome? fun r => r.visuals.head?).or r.visuals.head? := by
      cases hvisuals : r.visuals.head? <;> simp [List.findSome?_append, hvisuals]
    rw [hstep, ih, addArt_eq, hcovers, hfirst]
    simp only [Option.map_or, Option.or_assoc]

theorem findSome?_reverse_frontCover?
    (hnone : ∀ r ∈ rs, ∀ w ∈ r.visuals, w.isFrontCover = false) :
    rs.reverse.findSome? frontCover? = none := by
  rw [List.findSome?_eq_none_iff]
  intro r hr
  exact frontCover?_eq_none_iff.2 (hnone r (List.mem_reverse.1 hr))

theorem art?_of_frontCover (hv : r.frontCover? = some v)
    (hafter : ∀ later ∈ after, ∀ w ∈ later.visuals, w.isFrontCover = false) :
    art? (before ++ r :: after) = some v.picture := by
  simp [art?_eq, findSome?_reverse_frontCover? hafter, hv]

theorem art?_of_first (hnone : ∀ r ∈ rs, ∀ w ∈ r.visuals, w.isFrontCover = false)
    (hrs : rs = before ++ r :: after) (hbefore : ∀ earlier ∈ before, earlier.visuals = [])
    (hv : r.visuals.head? = some v) : art? rs = some v.picture := by
  have hskipped : before.findSome? (fun r => r.visuals.head?) = none := by
    rw [List.findSome?_eq_none_iff]
    intro earlier hearlier
    exact List.head?_eq_none_iff.2 (hbefore earlier hearlier)
  rw [art?_eq, findSome?_reverse_frontCover? hnone, hrs]
  simp [hskipped, hv]

theorem art?_eq_none_iff : art? rs = none ↔ ∀ r ∈ rs, r.visuals = [] := by
  rw [art?_eq, Option.map_eq_none_iff, Option.or_eq_none_iff, List.findSome?_eq_none_iff,
    List.findSome?_eq_none_iff]
  constructor
  · rintro ⟨-, hfirst⟩ r hr
    exact List.head?_eq_none_iff.1 (hfirst r hr)
  · intro hempty
    refine ⟨fun r hr => ?_, fun r hr => List.head?_eq_none_iff.2 (hempty r hr)⟩
    simp [frontCover?, hempty r (List.mem_reverse.1 hr)]

end Demux.Revision

open Demux (Finding Format Revision Visual)
open Demux.Track (Overlong)

namespace Opening

theorem art_container (name : String) (byteLen : Option Nat) (structure? : Option Structure)
    (blocks : List Revision) (format : Format) (longestUs : Option Int) :
    (container name byteLen structure? blocks format longestUs).art =
      Revision.art? (blocks ++ format.revision.toList) := by
  rw [container, estimateBitRate_eq]
  rfl

end Opening

namespace Source

variable {s s' : Source} {walk : List Request} {structure? : Option Structure}

/-- The picture of an opened container, by the pictures of the blocks in front of it and of the
metadata in force in it, which comes last. It is the first front cover of the last that has one.
Where none has one, it is the first picture of the first that has any, and where there is no
picture, there is none. Only the length of a track keeps the container from being opened. -/
theorem probe_art (hread : s.readStructure walk = .ok (structure?, s')) {findings : List Finding}
    {blocks : List Revision} {format : Format} (hopens : Finding.Opens findings blocks format)
    (name : String) (settings : ProbeSettings) :
    (s.probe name settings findings walk = .error .overflow ↔ Overlong format.tracks) ∧
    (¬ Overlong format.tracks →
      ∃ o, s.probe name settings findings walk = .ok o ∧
        (∀ (before after : List Revision) (r : Revision) (v : Visual),
          blocks ++ format.revision.toList = before ++ r :: after →
          r.visuals.find? Visual.isFrontCover = some v →
          (∀ later ∈ after, ∀ w ∈ later.visuals, w.isFrontCover = false) →
          o.container.art = some v.picture) ∧
        ((∀ r ∈ blocks ++ format.revision.toList, ∀ w ∈ r.visuals, w.isFrontCover = false) →
          ∀ (before after : List Revision) (r : Revision) (v : Visual),
            blocks ++ format.revision.toList = before ++ r :: after →
            (∀ earlier ∈ before, earlier.visuals = []) → r.visuals.head? = some v →
            o.container.art = some v.picture) ∧
        (o.container.art = none ↔ ∀ r ∈ blocks ++ format.revision.toList, r.visuals = [])) := by
  refine ⟨probe_eq_overflow_iff_of_opens hread hopens, fun hfits => ?_⟩
  obtain ⟨o, ho, rfl⟩ := probe_of_not_overlong hread hopens hfits name settings
  have hart : (s'.opened structure? name settings blocks format).container.art =
      Revision.art? (blocks ++ format.revision.toList) := Opening.art_container ..
  refine ⟨_, ho, ?_, ?_, ?_⟩
  · intro before after r v hrow hv hafter
    rw [hart, hrow]
    exact Revision.art?_of_frontCover hv hafter
  · intro hnone before after r v hrow hbefore hv
    rw [hart]
    exact Revision.art?_of_first hnone hrow hbefore hv
  · rw [hart]
    exact Revision.art?_eq_none_iff

namespace Sleeve

def picture (n : UInt8) : Picture := { data := #[n], mimeType := "image/png" }

/-- A picture of the back, then two front covers behind a back, then another back. -/
def blocks : List Revision :=
  [{ visuals := [⟨picture 1, false⟩] },
    { visuals := [⟨picture 2, false⟩, ⟨picture 3, true⟩, ⟨picture 4, true⟩] },
    { visuals := [⟨picture 5, false⟩] }]

/-- A container that has a picture of its own, and no front cover. -/
def format : Format := { revision := some { visuals := [⟨picture 6, false⟩] } }

end Sleeve

open Sleeve in
theorem probe_art_sleeve :
    (forward #[]).readStructure [] = .ok (none, forward #[]) ∧
    ∃ o, (forward #[]).probe "a.ogg" {}
        (Finding.readable blocks ++ [.container (.ok format)]) [] = .ok o ∧
      o.container.art = some (picture 3) := by
  have hread : (forward #[]).readStructure [] = .ok (none, forward #[]) := rfl
  have hopens : Finding.Opens (Finding.readable blocks ++ [.container (.ok format)])
      blocks format := ⟨[], rfl⟩
  obtain ⟨o, ho, hcover, -, -⟩ := (probe_art hread hopens "a.ogg" {}).2 (by decide)
  have hart := hcover [{ visuals := [⟨picture 1, false⟩] }]
    [{ visuals := [⟨picture 5, false⟩] }, { visuals := [⟨picture 6, false⟩] }] _ _ rfl rfl
    (by decide)
  exact ⟨hread, o, ho, hart⟩

end Source

end MediaTags
