import MediaTags.Proofs.FileTree
import MediaTags.Proofs.Settings.Document

/-!
# Saved settings

Settings that were saved are loaded from the same path. They are written to a file beside the old
one first, and nothing is written when they cannot be: then the directory may have been made, but
each file is as it was.
-/

namespace MediaTags

namespace Settings

open Resource (EndsInName AreBeside)

theorem extends_prepare (t : FileTree) (path : String) : t.Extends (prepare t path).2 := by
  unfold prepare
  cases Resource.parent? path with
  | none => exact .refl t
  | some directory => exact FileTree.extends_makeDirectories ..

/-- The file that settings are written to first. -/
def draft (path : String) : String := Resource.withExtension path "toml.tmp"

def contents (s : Settings) : Bytes := (Text.Utf8.encode s.toDocument.toList).toArray

theorem save_eq_ok_iff {s : Settings} {t t' : FileTree} {path : String} :
    s.save t path = (.ok (), t') ↔
      (prepare t path).1 = .ok () ∧ s.probe.blockSize < 0x8000000000000000 ∧
        ∃ t₂, (prepare t path).2.write (draft path) s.contents = .ok t₂ ∧
          t₂.rename (draft path) path = .ok t' := by
  unfold save serialize draft contents
  obtain ⟨prepared, t₁⟩ := prepare t path
  generalize Resource.withExtension path "toml.tmp" = draft
  cases prepared with
  | error e => simp
  | ok u =>
    by_cases hblock : s.probe.blockSize < 0x8000000000000000
    · simp only [hblock, if_true, true_and]
      cases hwrite : t₁.write draft (Text.Utf8.encode s.toDocument.toList).toArray with
      | error e => simp
      | ok t₂ => cases hrename : t₂.rename draft path <;> simp [hrename]
    · simp [hblock]

/-- What it takes to save settings at a path: its directory can be made, it ends in a name, and
neither it nor the path of the draft leads to a directory. -/
structure CanSave (t : FileTree) (path : String) : Prop where
  prepared : (prepare t path).1 = .ok ()
  named : EndsInName path
  reached : ∃ p, (prepare t path).2.locate path = .ok p
  target_free : (prepare t path).2.isDirectory path = false
  draft_free : (prepare t path).2.isDirectory (draft path) = false

theorem areBeside_draft {path : String} (h : EndsInName path) :
    AreBeside (draft path) path :=
  Resource.areBeside_withExtension h (by decide) (by decide)

theorem endsInName_of_rename {t t' : FileTree} {source path : String}
    (h : t.rename source path = .ok t') : EndsInName path := by
  obtain ⟨_, _, _, -, hto, -⟩ := FileTree.rename_eq_ok_iff.1 h
  exact (FileTree.destination_eq_ok_iff.1 hto).1

theorem save_ok_iff {s : Settings} (hblock : s.probe.blockSize < 0x8000000000000000)
    (t : FileTree) (path : String) : (s.save t path).1 = .ok () ↔ CanSave t path := by
  have hpair : (s.save t path).1 = .ok () ↔ ∃ t', s.save t path = (.ok (), t') := by
    constructor
    · intro h
      exact ⟨_, Prod.ext h rfl⟩
    · rintro ⟨t', h⟩
      rw [h]
  rw [hpair]
  simp only [save_eq_ok_iff]
  constructor
  · rintro ⟨t', hprepared, -, t₂, hwrite, hrename⟩
    have hnamed := endsInName_of_rename hrename
    obtain ⟨hreached, hpath, hdraft⟩ := (FileTree.exists_write_rename_iff
      (areBeside_draft hnamed) s.contents).1 ⟨t₂, t', hwrite, hrename⟩
    exact ⟨hprepared, hnamed, hreached, hpath, hdraft⟩
  · rintro ⟨hprepared, hnamed, hreached, hpath, hdraft⟩
    obtain ⟨t₂, t', hwrite, hrename⟩ := (FileTree.exists_write_rename_iff
      (areBeside_draft hnamed) s.contents).2 ⟨hreached, hpath, hdraft⟩
    exact ⟨t', hprepared, hblock, t₂, hwrite, hrename⟩

theorem load_of_save {s : Settings} (h : s.InRange) {t : FileTree} {path : String}
    (hsave : (s.save t path).1 = .ok ()) : load (s.save t path).2 path = s := by
  obtain ⟨-, -, t₂, hwrite, hrename⟩ := save_eq_ok_iff.1 (Prod.ext hsave rfl)
  have hbeside := areBeside_draft (endsInName_of_rename hrename)
  rw [load, FileTree.contents?_of_write_rename hbeside hwrite hrename]
  exact ofFile_toDocument h

/-- Settings whose block size does not fit are not written. -/
theorem save_outOfRange {s : Settings} (h : 0x8000000000000000 ≤ s.probe.blockSize)
    (t : FileTree) (path : String) :
    (∃ e, (s.save t path).1 = .error e) ∧ (s.save t path).2 = (prepare t path).2 := by
  unfold save
  obtain ⟨prepared, t₁⟩ := prepare t path
  cases prepared with
  | error e => exact ⟨⟨e, rfl⟩, rfl⟩
  | ok u => simp [serialize, not_lt.2 h]

/-- Saved settings are loaded again, and they are saved wherever a file can be. A block size that
does not fit is refused, and then each file is as it was. -/
theorem load_save (s : Settings) (t : FileTree) (path : String) :
    (s.InRange →
      ((s.save t path).1 = .ok () ↔ CanSave t path) ∧
      ((s.save t path).1 = .ok () → load (s.save t path).2 path = s)) ∧
    (0x8000000000000000 ≤ s.probe.blockSize →
      (∃ e, (s.save t path).1 = .error e) ∧
      (∀ p data, (s.save t path).2.get? p = some (.file data) ↔ t.get? p = some (.file data)) ∧
      ∀ data, t.contents? path = some data → (s.save t path).2.contents? path = some data) := by
  refine ⟨fun h => ⟨save_ok_iff h.blockSize t path, load_of_save h⟩, fun h => ?_⟩
  obtain ⟨hfails, htree⟩ := save_outOfRange h t path
  have hextends := extends_prepare t path
  rw [htree]
  exact ⟨hfails, hextends.files, fun data => hextends.contents?⟩

/-- A separator that has to be escaped and the least chapter length, where the directory is missing
yet; and a block size that is one too large, where a file is there already. -/
theorem load_save_limits :
    (let s : Settings := ⟨⟨"\"\\\n\x01"⟩, ⟨0⟩, ⟨false, -0x8000000000000000⟩⟩
    load (s.save {} "nested/config.toml").2 "nested/config.toml" = s) ∧
    let s : Settings := { probe := ⟨0x8000000000000000⟩ }
    let t : FileTree := ⟨[], [(["config.toml"], .file #[1])]⟩
    (∃ e, (s.save t "config.toml").1 = .error e) ∧
      (s.save t "config.toml").2.contents? "config.toml" = some #[1] := by
  constructor
  · intro s
    have hrange : s.InRange := ⟨by decide, by decide⟩
    have hcan : CanSave {} "nested/config.toml" :=
      ⟨rfl, ⟨"config.toml", rfl, by decide⟩, ⟨["nested", "config.toml"], rfl⟩, rfl, rfl⟩
    obtain ⟨hsaved, hload⟩ := (load_save s {} "nested/config.toml").1 hrange
    exact hload (hsaved.2 hcan)
  · intro s t
    obtain ⟨hfails, -, hkeeps⟩ := (load_save s t "config.toml").2 (by decide)
    exact ⟨hfails, hkeeps #[1] rfl⟩

end Settings

end MediaTags
