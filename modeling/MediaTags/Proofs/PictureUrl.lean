import MediaTags.Proofs.Text.Utf8
import MediaTags.Resource

/-!
# References to pictures

A reference determines the resource and the kind of picture that it is made of. Percent encoding
writes each byte in a way that tells where it ends, and it never writes `@`: so the last `@` stands
behind the kind, and a reference without one has no kind.
-/

namespace MediaTags

namespace Text

namespace Percent

theorem hexDigit_inj : ∀ m < 16, ∀ n < 16, hexDigit m = hexDigit n → m = n := by decide

theorem hexDigit_isAlphanum : ∀ n < 16, (hexDigit n).isAlphanum := by decide

theorem toNat_ofNat_byte (b : UInt8) : (Char.ofNat b.toNat).toNat = b.toNat := by
  have hb := b.toNat_lt
  have hvalid : b.toNat.isValidChar := .inl (by omega)
  rw [Char.ofNat, dif_pos hvalid]
  rfl

theorem isPlain_ne_percent {b : UInt8} (h : isPlain b) : Char.ofNat b.toNat ≠ '%' := by
  intro hc
  rw [isPlain, hc] at h
  exact absurd h (by decide)

/-- Where the form of a byte ends does not depend on what follows it. -/
theorem encodeByte_append_inj {a b : UInt8} {s t : List Char}
    (h : encodeByte a ++ s = encodeByte b ++ t) : a = b ∧ s = t := by
  have ha := a.toNat_lt
  have hb := b.toNat_lt
  unfold encodeByte at h
  split at h <;> split at h <;> simp only [List.cons_append, List.nil_append, List.cons.injEq] at h
  · obtain ⟨hc, hrest⟩ := h
    have hnat := congrArg Char.toNat hc
    rw [toNat_ofNat_byte, toNat_ofNat_byte] at hnat
    exact ⟨UInt8.toNat_inj.1 hnat, hrest⟩
  · next hplain _ => exact absurd h.1 (isPlain_ne_percent hplain)
  · next hplain => exact absurd h.1.symm (isPlain_ne_percent hplain)
  · obtain ⟨-, hhigh, hlow, hrest⟩ := h
    have hhigh := hexDigit_inj _ (by omega) _ (by omega) hhigh
    have hlow := hexDigit_inj _ (by omega) _ (by omega) hlow
    exact ⟨UInt8.toNat_inj.1 (by omega), hrest⟩

theorem encodeByte_ne_nil (b : UInt8) : encodeByte b ≠ [] := by
  unfold encodeByte
  split <;> simp

theorem encodeBytes_injective : Function.Injective encodeBytes := by
  intro as bs h
  induction as generalizing bs with
  | nil =>
    cases bs with
    | nil => rfl
    | cons b bs => simp [encodeBytes, encodeByte_ne_nil b] at h
  | cons a as ih =>
    cases bs with
    | nil => simp [encodeBytes, encodeByte_ne_nil a] at h
    | cons b bs =>
      obtain ⟨rfl, hrest⟩ := encodeByte_append_inj (by simpa [encodeBytes] using h)
      rw [ih hrest]

theorem encode_injective : Function.Injective encode := by
  intro r s h
  have hbytes := encodeBytes_injective (String.ofList_injective h)
  exact String.toList_inj.1 (Utf8.encode_injective hbytes)

/-- The alphabet of the encoding. -/
theorem mem_encodeByte {b : UInt8} {c : Char} (h : c ∈ encodeByte b) :
    c.isAlphanum ∨ c ∈ ['-', '_', '.', '~', '%'] := by
  have hb := b.toNat_lt
  unfold encodeByte at h
  split at h
  · next hplain =>
    obtain rfl : c = Char.ofNat b.toNat := by simpa using h
    simp only [isPlain, Bool.or_eq_true, beq_iff_eq] at hplain
    simp only [List.mem_cons, List.not_mem_nil]
    tauto
  · simp only [List.mem_cons, List.not_mem_nil, or_false] at h
    obtain rfl | rfl | rfl := h
    · simp
    · exact .inl (hexDigit_isAlphanum _ (by omega))
    · exact .inl (hexDigit_isAlphanum _ (by omega))

theorem at_notMem_encode (s : String) : '@' ∉ (encode s).toList := by
  rw [encode, String.toList_ofList, encodeBytes, List.mem_flatMap]
  rintro ⟨b, -, hb⟩
  have := mem_encodeByte hb
  revert this
  decide

end Percent

end Text

namespace Resource

/-- The text behind the last `@` and the one in front of it are determined. -/
theorem append_at_inj {k₁ k₂ e₁ e₂ : List Char} (h₁ : '@' ∉ e₁) (h₂ : '@' ∉ e₂)
    (h : k₁ ++ '@' :: e₁ = k₂ ++ '@' :: e₂) : k₁ = k₂ ∧ e₁ = e₂ := by
  obtain ⟨more, hk, he⟩ | ⟨more, hk, he⟩ := List.append_eq_append_iff.1 h
  · cases more <;> grind
  · cases more <;> grind

theorem toList_pictureUrl_empty (resource : String) :
    (pictureUrl resource "").toList =
      "image://".toList ++ ((Text.Percent.encode resource).toList ++ ['/']) := by
  simp [pictureUrl]

theorem toList_pictureUrl {kind : String} (h : kind ≠ "") (resource : String) :
    (pictureUrl resource kind).toList =
      "image://".toList ++
        (kind.toList ++ '@' :: (Text.Percent.encode resource).toList ++ ['/']) := by
  simp [pictureUrl, h]

/-- A reference determines what it is made of. -/
theorem pictureUrl_eq_iff {r₁ r₂ k₁ k₂ : String} :
    pictureUrl r₁ k₁ = pictureUrl r₂ k₂ ↔ r₁ = r₂ ∧ k₁ = k₂ := by
  refine ⟨fun h => ?_, by rintro ⟨rfl, rfl⟩; rfl⟩
  have h₁ := Text.Percent.at_notMem_encode r₁
  have h₂ := Text.Percent.at_notMem_encode r₂
  have hchars := congrArg String.toList h
  obtain rfl | hk₁ := eq_or_ne k₁ "" <;> obtain rfl | hk₂ := eq_or_ne k₂ ""
  · rw [toList_pictureUrl_empty, toList_pictureUrl_empty, List.append_cancel_left_eq,
      List.append_cancel_right_eq] at hchars
    exact ⟨Text.Percent.encode_injective (String.toList_inj.1 hchars), rfl⟩
  · rw [toList_pictureUrl_empty, toList_pictureUrl hk₂, List.append_cancel_left_eq,
      List.append_cancel_right_eq] at hchars
    simp [hchars] at h₁
  · rw [toList_pictureUrl hk₁, toList_pictureUrl_empty, List.append_cancel_left_eq,
      List.append_cancel_right_eq] at hchars
    simp [← hchars] at h₂
  · rw [toList_pictureUrl hk₁, toList_pictureUrl hk₂, List.append_cancel_left_eq,
      List.append_cancel_right_eq] at hchars
    obtain ⟨hkind, hresource⟩ := append_at_inj h₁ h₂ hchars
    exact ⟨Text.Percent.encode_injective (String.toList_inj.1 hresource),
      String.toList_inj.1 hkind⟩

end Resource

end MediaTags
