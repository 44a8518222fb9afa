import DexPatch.Proofs.Decoded
import DexPatch.Proofs.HeaderAndMap

namespace DexPatch

/-!
# Truncated images

Neither the length in the header nor the digests are compared with the data, so
it is the map that tells a truncated image from a whole one.  Every image that
is written has a map as its last item, and whoever reads an image reads every
entry of the map to its last byte.
-/

/-! ## Bytes that stay in front of others -/

/-- What is held is held whatever is put behind the data. -/
theorem Holds.append_data
    {data : Bytes}
    {offset : Nat}
    {piece : List UInt8}
    (held : Holds data offset piece)
    (more : Bytes) :
    Holds (data ++ more) offset piece := by
  obtain ⟨before, after, shape, isOffset⟩ := Holds.iff_exists.mp held
  refine Holds.iff_exists.mpr ⟨before, after ++ more.toList, ?_, isOffset⟩
  rw [Array.toList_append, shape, List.append_assoc]

/-- What the front of some data holds, the data holds. -/
theorem Holds.of_extract
    {data : Bytes}
    {n offset : Nat}
    {piece : List UInt8}
    (held : Holds (data.extract 0 n) offset piece) :
    Holds data offset piece := by
  have whole : data.extract 0 n ++ data.extract n data.size = data := by
    simp [Array.extract_append_extract]
  exact whole ▸ held.append_data (data.extract n data.size)

/-- A number that is read from the front of some data is read from the data. -/
theorem natAt_of_extract
    {data : Bytes}
    {n offset number : Nat}
    (read : natAt (data.extract 0 n) offset = .ok number) :
    natAt data offset = .ok number := by
  have small : number < 4294967296 := by
    obtain ⟨field, -, isNumber⟩ := bind_eq_ok_iff.mp read
    rw [← Except.ok.inj isNumber]
    exact field.toNat_lt
  exact natAt_of_holds small (holds_of_natAt read).of_extract

/-- A number that is read ends within the data. -/
theorem le_size_of_natAt
    {data : Bytes}
    {offset number : Nat}
    (read : natAt data offset = .ok number) :
    offset + 4 ≤ data.size := by
  simpa using (holds_of_natAt read).le_size

/-! ## How far the map is read -/

/-- An entry of the map is read to its last byte. -/
theorem le_size_of_readSection
    {data : Bytes}
    {container result : Container}
    {offset : Nat}
    (read : readSection data container offset = .ok result) :
    offset + 12 ≤ data.size := by
  obtain ⟨kind, -, read⟩ := bind_eq_ok_iff.mp read
  obtain ⟨count, -, read⟩ := bind_eq_ok_iff.mp read
  obtain ⟨start, readsStart, -⟩ := bind_eq_ok_iff.mp read
  exact le_size_of_natAt readsStart

/-- All entries of the map are read to the last byte of the last one. -/
theorem le_size_of_readSections
    {data : Bytes}
    {remaining offset : Nat}
    {container result : Container}
    (inside : offset ≤ data.size)
    (read : readSections data remaining offset container = .ok result) :
    offset + remaining * 12 ≤ data.size := by
  induction remaining generalizing offset container with
  | zero =>
      simpa using inside
  | succ remaining inductionHypothesis =>
      rw [readSections_succ] at read
      obtain ⟨next, first, read⟩ := bind_eq_ok_iff.mp read
      have later := inductionHypothesis (le_size_of_readSection first) read
      omega

namespace Container

/-- Data that is read has a map, if its header leads to one, and all of it. -/
theorem map_inside_of_decode
    {data : Bytes}
    {container : Container}
    (decoded : decode data = .ok container) :
    ∃ mapOffset,
      natAt data 0x34 = .ok mapOffset ∧
        (mapOffset ≠ 0 →
          ∃ count, natAt data mapOffset = .ok count ∧ mapOffset + 4 + count * 12 ≤ data.size) := by
  obtain ⟨version, -, read⟩ := bind_eq_ok_iff.mp decoded
  obtain ⟨strings, -, read⟩ := bind_eq_ok_iff.mp read
  obtain ⟨types, -, read⟩ := bind_eq_ok_iff.mp read
  obtain ⟨protos, -, read⟩ := bind_eq_ok_iff.mp read
  obtain ⟨fields, -, read⟩ := bind_eq_ok_iff.mp read
  obtain ⟨methods, -, read⟩ := bind_eq_ok_iff.mp read
  obtain ⟨mapOffset, readsOffset, read⟩ := bind_eq_ok_iff.mp read
  refine ⟨mapOffset, readsOffset, fun isThere => ?_⟩
  rw [if_neg isThere] at read
  obtain ⟨count, readsCount, read⟩ := bind_eq_ok_iff.mp read
  obtain ⟨whole, readsSections, -⟩ := bind_eq_ok_iff.mp read
  exact ⟨count, readsCount, le_size_of_readSections (le_size_of_natAt readsCount) readsSections⟩

/-- The map of an image is its last item, whatever else the image has. -/
theorem map_last_image
    {container : Container}
    (fits : container.image.size < 4294967296) :
    ∃ mapOffset count,
      natAt container.image 0x34 = .ok mapOffset ∧
        mapOffset ≠ 0 ∧
          natAt container.image mapOffset = .ok count ∧
            mapOffset + 4 + count * 12 = container.image.size := by
  have written := container.writtenIn_image
  have size := written.size
  rw [length_mapBytes] at size
  have fields := written.fields
  simp only [headerFields, Holds.append_iff, List.length_append, length_le32, and_assoc,
    Nat.reduceAdd] at fields
  obtain ⟨-, -, -, -, -, mapOffset, -⟩ := fields
  have base := container.laidOut.base
  have start := container.le_dataOffset
  have position : 112 ≤ container.data.layout.position := by
    rw [Layout.position]
    omega
  exact ⟨container.data.layout.position, (container.sections container.data).length,
    natAt_of_holds (by omega) mapOffset, by omega, natAt_of_holds (by omega) written.map.left,
    by omega⟩

/-- No image that has lost bytes at its end is read. -/
theorem decode_truncated
    {container : Container}
    {image : Bytes}
    (encoded : container.encode = .ok image)
    (fits : image.size < 4294967296)
    {n : Nat}
    (shorter : n < image.size) :
    ∃ error, decode (image.extract 0 n) = .error error := by
  obtain ⟨rfl, -⟩ := representable_of_encode encoded
  obtain ⟨mapOffset, count, found, isThere, counted, last⟩ := map_last_image fits
  cases decoded : decode (container.canonical.image.extract 0 n) with
  | error error =>
      exact ⟨error, rfl⟩
  | ok result =>
      obtain ⟨otherOffset, otherFound, isInside⟩ := map_inside_of_decode decoded
      -- the header and the map's length are those of the whole image as far as they are read
      obtain rfl := Except.ok.inj (found.symm.trans (natAt_of_extract otherFound))
      obtain ⟨otherCount, otherCounted, inside⟩ := isInside isThere
      obtain rfl := Except.ok.inj (counted.symm.trans (natAt_of_extract otherCounted))
      have size : (container.canonical.image.extract 0 n).size = n := by
        rw [Array.size_extract]
        omega
      omega

/-- Without its last byte, an image with shared items and a hidden-API section is refused. -/
theorem decode_truncated_sharing :
    sharing.encode = .ok sharing.canonical.image ∧
      sharing.canonical.image.size < 4294967296 ∧
        sharing.canonical.image.size - 1 < sharing.canonical.image.size ∧
          ∃ error,
            decode (sharing.canonical.image.extract 0 (sharing.canonical.image.size - 1)) =
              .error error := by
  have shorter : sharing.canonical.image.size - 1 < sharing.canonical.image.size := by
    obtain ⟨_, _, _, _, _, last⟩ := map_last_image size_sharing
    omega
  exact ⟨encode_sharing, size_sharing, shorter,
    decode_truncated encode_sharing size_sharing shorter⟩

end Container

end DexPatch
