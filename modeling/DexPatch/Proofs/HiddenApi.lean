import DexPatch.Proofs.Edits
import DexPatch.Proofs.Patched

namespace DexPatch

/-!
# The hidden-API section

No edit touches the hidden-API section.  An image holds its bytes and no length
beside them: the reader takes the length from the first four.  Every section
that is read starts with its own length, as far as it has room for it, so it is
read back from what is written, except if there is nothing to write.
-/

namespace Container

variable {container : Container}

/-- Edits leave the hidden-API section as it is, so what is written after them is read back with the
same section, unless it is there and empty: then it is read as bytes of the map. -/
theorem hiddenApi_of_encode
    {image output : Bytes}
    (decoded : decode image = .ok container)
    (edits : List Edit)
    (encoded : (container.edited edits).encode = .ok output)
    (fits : output.size < 4294967296) :
    ∃ result,
      decode output = .ok result ∧
        (result.hiddenApi = container.hiddenApi ↔ container.hiddenApi ≠ some #[]) := by
  obtain ⟨shaped, -, headed⟩ := decode_spec decoded
  have progress : Progress container (container.edited edits) (container.installed edits) :=
    progress_edited edits
  obtain ⟨reread, reads, same⟩ :=
    exists_decode_of_encode encoded fits (progress.shaped shaped)
      (by rw [progress.hiddenApi]; exact headed)
  rw [progress.hiddenApi] at same
  exact ⟨_, reads, same⟩

/-! ## Sections of a few bytes -/

/-- Nothing but a hidden-API section. -/
def ofHiddenApi (blob : Bytes) : Container :=
  { empty with hiddenApi := some blob }

theorem readable_ofHiddenApi (blob : Bytes) : (ofHiddenApi blob).Readable where
  version := by cbv
  strings := by simp [ofHiddenApi, empty]
  types := by simp [ofHiddenApi, empty]
  protos := by simp [ofHiddenApi, empty]
  fields := by simp [ofHiddenApi, empty]
  methods := by simp [ofHiddenApi, empty]
  classes := by simp [ofHiddenApi, empty]
  bodies := by simp [ofHiddenApi, empty, ReadableBodies]
  handles := by simp [ofHiddenApi, empty]

/-- A section of five bytes is carried past a type that is new. -/
theorem hiddenApi_of_encode_odd :
    let odd := ofHiddenApi #[5, 0, 0, 0, 1]
    let edits := [Edit.intern (.type "LC;")]
    decode odd.image = .ok odd ∧
      ∃ output result,
        (odd.edited edits).encode = .ok output ∧
          output.size < 4294967296 ∧
            decode output = .ok result ∧ result.hiddenApi = some #[5, 0, 0, 0, 1] := by
  intro odd edits
  have decoded : decode odd.image = .ok odd := by
    refine decode_image (readable_ofHiddenApi _) ?_ (size_image_lt (by cbv))
    rintro blob ⟨⟩
    exact ⟨by decide, by decide⟩
  have encoded : (odd.edited edits).encode = .ok (odd.edited edits).canonical.image :=
    encode_of_checks (by cbv) (by cbv)
  have fits : (odd.edited edits).canonical.image.size < 4294967296 :=
    size_image_lt (by cbv)
  obtain ⟨result, reads, same⟩ := hiddenApi_of_encode decoded edits encoded fits
  exact ⟨decoded, _, result, encoded, fits, reads, same.mpr (by simp [odd, ofHiddenApi])⟩

/-- A section that starts with the length zero is read as the empty one. -/
theorem decode_ofHiddenApi_zero :
    decode (ofHiddenApi #[0, 0, 0, 0]).image = .ok (ofHiddenApi #[]) := by
  refine decode_image_of_readAs (readable_ofHiddenApi _) (size_image_lt (by cbv)) rfl fun _ => ?_
  have written := (ofHiddenApi #[0, 0, 0, 0]).writtenIn_image
  obtain ⟨-, -, held⟩ := written.holds_hiddenApi rfl
  have nothing : Holds _ _ ([] ++ _) := held
  exact WrittenIn.readAs_hiddenApi (size_image_lt (by cbv)) rfl held.left nothing.left

/-- The empty section is read from one image, but not from the image that it is then written to. -/
theorem not_hiddenApi_of_encode_zero :
    (decode (ofHiddenApi #[0, 0, 0, 0]).image = .ok (ofHiddenApi #[]) ∧
        ((ofHiddenApi #[]).edited []).encode = .ok (ofHiddenApi #[]).canonical.image ∧
          (ofHiddenApi #[]).canonical.image.size < 4294967296) ∧
      ¬ ∃ result,
          decode (ofHiddenApi #[]).canonical.image = .ok result ∧
            result.hiddenApi = (ofHiddenApi #[]).hiddenApi := by
  have encoded : (ofHiddenApi #[]).encode = .ok (ofHiddenApi #[]).canonical.image :=
    encode_of_checks (by cbv) (by cbv)
  have fits : (ofHiddenApi #[]).canonical.image.size < 4294967296 :=
    size_image_lt (by cbv)
  obtain ⟨shaped, -, headed⟩ := decode_spec decode_ofHiddenApi_zero
  refine ⟨⟨decode_ofHiddenApi_zero, encoded, fits⟩, ?_⟩
  rintro ⟨result, reads, same⟩
  obtain ⟨reread, readsOther, other⟩ := exists_decode_of_encode encoded fits shaped headed
  obtain rfl := Except.ok.inj (reads.symm.trans readsOther)
  exact other.mp same rfl

end Container

end DexPatch
