import Mathlib
import DexPatch.Proofs.Faults
import DexPatch.Proofs.Held
import DexPatch.Proofs.Versions

namespace DexPatch

/-!
# Which headers are accepted

The format makes five demands of a header, in an order.  Data that fails one is
refused with the error of the first that it fails, whatever stands behind the
header.  The reader makes the same demands but for one: it takes a version with
a plus sign in place of the leading zero.  So it judges data as the format does
unless the data has such a version behind the name of the format.
-/

namespace Header

/-- What the format demands of a header. -/
inductive Demand where
  | length
  | name
  | version
  | byteOrder
  | headerSize
deriving DecidableEq, Repr

/-- The version that stands in the data. -/
def versionAt (data : Bytes) : Version :=
  { first := data.getD 4 0, second := data.getD 5 0, third := data.getD 6 0 }

/-- The number whose four digits stand at an offset, the lowest first. -/
def wordAt (data : Bytes) (offset : Nat) : Nat :=
  ofLittleEndian (data.extract offset (offset + 4)).toList

namespace Demand

/-- The demands in the order in which they are made. -/
def inOrder : List Demand := [.length, .name, .version, .byteOrder, .headerSize]

/-- The data meets the demand, if these versions are accepted. -/
def Met (versions : List Version) (data : Bytes) : Demand → Prop
  | .length => size ≤ data.size
  | .name => (data.extract 0 4).toList = magic ∧ data[7]? = some 0
  | .version => versionAt data ∈ versions
  | .byteOrder => wordAt data 0x28 = endianTag.toNat
  | .headerSize => size ≤ wordAt data 0x24

instance (versions : List Version) (data : Bytes) (demand : Demand) :
    Decidable (demand.Met versions data) :=
  match demand with
  | .length => inferInstanceAs (Decidable (size ≤ data.size))
  | .name => inferInstanceAs (Decidable ((data.extract 0 4).toList = magic ∧ data[7]? = some 0))
  | .version => inferInstanceAs (Decidable (versionAt data ∈ versions))
  | .byteOrder => inferInstanceAs (Decidable (wordAt data 0x28 = endianTag.toNat))
  | .headerSize => inferInstanceAs (Decidable (size ≤ wordAt data 0x24))

/-- The error of data that fails the demand and meets those before it. -/
def error (data : Bytes) : Demand → DecodeError
  | .length => .unexpectedEnd size
  | .name => .badMagic
  | .version => .unsupportedVersion (versionAt data).text
  | .byteOrder => .badEndianTag (UInt32.ofNat (wordAt data 0x28))
  | .headerSize => .malformed .headerSize 0x24

/-- The first demand that the data fails, if these versions are accepted. -/
def firstFailed? (versions : List Version) (data : Bytes) : Option Demand :=
  inOrder.find? fun demand => ¬ demand.Met versions data

end Demand

open Demand

/-! ## What the reader checks -/

/-- Data that is long enough holds the number at an offset inside the header. -/
theorem u32At_of_size
    {data : Bytes}
    (offset : Nat)
    (inside : offset + 4 ≤ data.size) :
    u32At data offset = .ok (UInt32.ofNat (wordAt data offset)) := by
  simp [u32At, numberAt, bytesAt, slice?, inside, wordAt, bind, Except.bind, pure, Except.pure]

theorem wordAt_lt
    {data : Bytes}
    {offset : Nat}
    (inside : offset + 4 ≤ data.size) :
    wordAt data offset < 2 ^ 32 := by
  have bound := ofLittleEndian_lt (data.extract offset (offset + 4)).toList
  have length : (data.extract offset (offset + 4)).toList.length = 4 := by
    simp
    omega
  rw [length] at bound
  exact bound

/-- The bytes in front of data that is long enough: the name around the version. -/
theorem exists_front
    {data : Bytes}
    (long : size ≤ data.size) :
    ∃ d e x newline zero rest,
      bytesAt data 0 size =
          .ok (d :: e :: x :: newline :: (versionAt data).first :: (versionAt data).second ::
            (versionAt data).third :: zero :: rest) ∧
        (data.extract 0 4).toList = [d, e, x, newline] ∧ data[7]? = some zero := by
  have many : 8 ≤ data.toList.length := le_trans (by decide) long
  match shape : data.toList, many with
  | d :: e :: x :: newline :: first :: second :: third :: zero :: rest, _ =>
    have data_eq :
        data = #[d, e, x, newline, first, second, third, zero] ++ rest.toArray := by
      rw [← Array.toList_inj, shape]
      simp
    refine ⟨d, e, x, newline, zero, rest.take 104, ?_, ?_, ?_⟩
    · rw [bytesAt, slice?, if_pos (by omega), data_eq]
      simp [size, versionAt]
    · rw [data_eq]
      simp
    · rw [data_eq]
      simp

section Checks

variable {data : Bytes} (inside : size ≤ data.size)

include inside

/-- The check of the byte order lets through what meets the demand. -/
theorem met_byteOrder_iff {versions : List Version} :
    Met versions data .byteOrder ↔ ¬ UInt32.ofNat (wordAt data 0x28) ≠ endianTag := by
  rw [Met, not_not, ← UInt32.toNat_inj,
    UInt32.toNat_ofNat_of_lt' (wordAt_lt (le_trans (by decide) inside))]

/-- The check of the size of the header lets through what meets the demand. -/
theorem met_headerSize_iff {versions : List Version} :
    Met versions data .headerSize ↔ ¬ (UInt32.ofNat (wordAt data 0x24)).toNat < size := by
  rw [Met, not_lt, UInt32.toNat_ofNat_of_lt' (wordAt_lt (le_trans (by decide) inside))]

end Checks

/-- The check of the version lets through what meets the demand. -/
theorem met_version_iff {data : Bytes} :
    Met Version.accepted data .version ↔ ¬ (!(versionAt data).isSupported) = true := by
  rw [Met, ← Version.isSupported_iff, Bool.not_eq_true', Bool.not_eq_false]

/-- The header is refused with the error of the first demand that it fails. -/
theorem readHeader_eq (data : Bytes) :
    readHeader data =
      match firstFailed? Version.accepted data with
      | some demand => .error (demand.error data)
      | none => .ok (versionAt data) := by
  by_cases long : Met Version.accepted data .length
  swap
  · have short : bytesAt data 0 size = .error (.unexpectedEnd size) := by
      rw [bytesAt, slice?, if_neg (by simpa [Met] using long), Nat.zero_add]
    have failed : firstFailed? Version.accepted data = some .length := by
      simp [firstFailed?, inOrder, long]
    rw [readHeader, short, failed]
    rfl
  have inside : size ≤ data.size := long
  obtain ⟨d, e, x, newline, zero, rest, front, name, zeroAt⟩ := exists_front inside
  have met_name_iff : Met Version.accepted data .name ↔
      ¬ ([d, e, x, newline] ≠ magic ∨ zero ≠ 0) := by
    rw [Met, name, zeroAt, Option.some.injEq, not_or, not_not, not_not]
  rw [readHeader, bind_of_ok front]
  dsimp only
  by_cases named : Met Version.accepted data .name
  swap
  · have failed : firstFailed? Version.accepted data = some .name := by
      simp [firstFailed?, inOrder, long, named]
    rw [if_pos (not_not.mp (met_name_iff.not.mp named)), failed]
    rfl
  rw [if_neg (met_name_iff.mp named)]
  by_cases known : Met Version.accepted data .version
  swap
  · have failed : firstFailed? Version.accepted data = some .version := by
      simp [firstFailed?, inOrder, long, named, known]
    rw [if_pos (not_not.mp (met_version_iff.not.mp known)), failed]
    rfl
  rw [if_neg (met_version_iff.mp known),
    bind_of_ok (u32At_of_size 0x28 (le_trans (by decide) inside))]
  by_cases ordered : Met Version.accepted data .byteOrder
  swap
  · have failed : firstFailed? Version.accepted data = some .byteOrder := by
      simp [firstFailed?, inOrder, long, named, known, ordered]
    rw [if_pos (not_not.mp ((met_byteOrder_iff inside).not.mp ordered)), failed]
    rfl
  rw [if_neg ((met_byteOrder_iff inside).mp ordered), natAt,
    u32At_of_size 0x24 (le_trans (by decide) inside)]
  change (if (UInt32.ofNat (wordAt data 0x24)).toNat < size then _ else _) = _
  by_cases sized : Met Version.accepted data .headerSize
  swap
  · have failed : firstFailed? Version.accepted data = some .headerSize := by
      simp [firstFailed?, inOrder, long, named, known, ordered, sized]
    rw [if_pos (not_not.mp ((met_headerSize_iff inside).not.mp sized)), failed]
    rfl
  have passed : firstFailed? Version.accepted data = none := by
    simp [firstFailed?, inOrder, long, named, known, ordered, sized]
  rw [if_neg ((met_headerSize_iff inside).mp sized), passed]
  rfl

/-! ## What the format demands -/

/-- The data is judged as the format says: what is accepted meets every demand, and what
fails a demand is refused with the error of the first that it fails. -/
structure Judged (data : Bytes) : Prop where
  accepted :
    ∀ container, Container.decode data = .ok container →
      ∀ demand : Demand, demand.Met Version.documented data
  refused :
    ∀ demand, firstFailed? Version.documented data = some demand →
      Container.decode data = .error (demand.error data)

/-- Behind the name of the format stands a version with a plus sign. -/
structure IsSigned (data : Bytes) : Prop where
  length : Met Version.documented data .length
  name : Met Version.documented data .name
  version : versionAt data ∈ Version.signed

/-- Data that fails no demand meets every one. -/
theorem firstFailed?_eq_none_iff {versions : List Version} {data : Bytes} :
    firstFailed? versions data = none ↔ ∀ demand : Demand, demand.Met versions data := by
  rw [firstFailed?, List.find?_eq_none]
  refine ⟨fun none demand => ?_, fun met demand _ => by simpa using met demand⟩
  have listed : demand ∈ inOrder := by cases demand <;> decide
  simpa using none demand listed

/-- What the header is refused with, the image is refused with. -/
theorem decode_of_readHeader
    {data : Bytes}
    {reason : DecodeError}
    (fails : readHeader data = .error reason) :
    Container.decode data = .error reason := by
  rw [Container.decode, fails]
  rfl

/-- Only the demand of a version depends on the versions. -/
theorem met_congr
    {versions others : List Version}
    {data : Bytes}
    (same : Met versions data .version ↔ Met others data .version)
    (demand : Demand) :
    demand.Met versions data ↔ demand.Met others data := by
  cases demand with
  | version => exact same
  | length | name | byteOrder | headerSize => exact Iff.rfl

/-- Without a sign the first demand that fails is the same for the reader. -/
theorem firstFailed?_documented
    {data : Bytes}
    (unsigned : ¬ IsSigned data) :
    firstFailed? Version.documented data = firstFailed? Version.accepted data := by
  by_cases signed : versionAt data ∈ Version.signed
  · -- the version is not looked at
    by_cases long : size ≤ data.size
    · have failed (versions : List Version) : firstFailed? versions data = some .name := by
        have met : Met versions data .length := long
        have unnamed : ¬ Met versions data .name := fun named => unsigned ⟨long, named, signed⟩
        simp [firstFailed?, inOrder, met, unnamed]
      rw [failed, failed]
    · have failed (versions : List Version) : firstFailed? versions data = some .length := by
        have unmet : ¬ Met versions data .length := long
        simp [firstFailed?, inOrder, unmet]
      rw [failed, failed]
  · have same : Met Version.documented data .version ↔ Met Version.accepted data .version := by
      rw [Met, Met, Version.accepted, List.mem_append, or_iff_left signed]
    simp only [firstFailed?, met_congr same]

/-- A version with a sign is none of the format's, so the format refuses it. -/
theorem firstFailed?_of_isSigned
    {data : Bytes}
    (signed : IsSigned data) :
    firstFailed? Version.documented data = some .version := by
  have apart : ∀ version ∈ Version.signed, version ∉ Version.documented := by decide
  have failed : ¬ Met Version.documented data .version := apart _ signed.version
  simp [firstFailed?, inOrder, signed.length, signed.name, failed]

/-- A version with a sign is never what an image is refused for. -/
theorem decode_ne_of_isSigned
    {data : Bytes}
    (signed : IsSigned data)
    (text : String) :
    Container.decode data ≠ .error (.unsupportedVersion text) := by
  intro fails
  have ofHeader := Container.readHeader_of_decode_error fails (fun behind => behind)
  have met : Met Version.accepted data .version := List.mem_append_right _ signed.version
  rw [readHeader_eq] at ofHeader
  split at ofHeader
  · next demand failed =>
    have unmet := List.find?_some failed
    cases demand with
    | version => exact absurd met (by simpa using unmet)
    | length | name | byteOrder | headerSize => cases ofHeader
  · cases ofHeader

/-- Data is judged as the format says unless it has a version with a plus sign. -/
theorem judged_iff (data : Bytes) : Judged data ↔ ¬ IsSigned data := by
  constructor
  · intro judged signed
    exact decode_ne_of_isSigned signed _ (judged.refused _ (firstFailed?_of_isSigned signed))
  · intro unsigned
    have refused (demand : Demand) (failed : firstFailed? Version.documented data = some demand) :
        Container.decode data = .error (demand.error data) := by
      refine decode_of_readHeader ?_
      rw [readHeader_eq, ← firstFailed?_documented unsigned, failed]
    refine ⟨fun container decoded => ?_, refused⟩
    rw [← firstFailed?_eq_none_iff]
    cases failed : firstFailed? Version.documented data with
    | none => rfl
    | some demand =>
        rw [refused demand failed] at decoded
        cases decoded

/-- An image of nothing but a header, whose version has a plus sign. -/
def signedImage : Bytes :=
  sealed { first := 0x2b, second := 0x33, third := 0x35 }
    (le32 size ++ le32 size ++ le32 endianTag.toNat ++ List.replicate 68 0).toArray

/-- The version +35 is accepted, which the format does not have. -/
theorem not_judged_signedImage :
    (Container.decode signedImage).isOk = true ∧ ¬ Judged signedImage := by
  have signed : IsSigned signedImage :=
    ⟨by decide +kernel, by decide +kernel, by decide +kernel⟩
  exact ⟨by decide +kernel, fun judged =>
    decode_ne_of_isSigned signed _ (judged.refused _ (firstFailed?_of_isSigned signed))⟩

end Header

end DexPatch
