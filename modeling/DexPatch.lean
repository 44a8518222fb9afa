import DexPatch.Archive.CodePage
import DexPatch.Archive.Directory
import DexPatch.Archive.Entry
import DexPatch.Archive.Error
import DexPatch.Archive.Extra
import DexPatch.Archive.Inflate
import DexPatch.Archive.Patch
import DexPatch.Archive.Reader
import DexPatch.Archive.Writer
import DexPatch.Bytes
import DexPatch.Chain
import DexPatch.Command.Arguments
import DexPatch.Command.Causes
import DexPatch.Command.Dump
import DexPatch.Command.Patch
import DexPatch.Command.Tool
import DexPatch.Container.Basic
import DexPatch.Container.Intern
import DexPatch.Container.Names
import DexPatch.Container.Records
import DexPatch.Container.References
import DexPatch.Digest.Adler32
import DexPatch.Digest.Crc32
import DexPatch.Digest.Sha1
import DexPatch.Error
import DexPatch.Files.Basic
import DexPatch.Files.Tree
import DexPatch.Image.AnnotationWriter
import DexPatch.Image.BodyReader
import DexPatch.Image.Cursor
import DexPatch.Image.Handlers
import DexPatch.Image.Header
import DexPatch.Image.Layout
import DexPatch.Image.Reader
import DexPatch.Image.ValueReader
import DexPatch.Image.ValueWriter
import DexPatch.Image.Values
import DexPatch.Image.Writer
import DexPatch.Instruction.InPlace
import DexPatch.Instruction.Listing
import DexPatch.Instruction.Opcode
import DexPatch.Instruction.Operands
import DexPatch.Instruction.Stream
import DexPatch.Json.Reader
import DexPatch.Json.Value
import DexPatch.Json.Writer
import DexPatch.Leb128
import DexPatch.Main
import DexPatch.Patch.Locate
import DexPatch.Patch.Replacement
import DexPatch.Patch.Request
import DexPatch.Patch.Run
import DexPatch.Patch.Spec
import DexPatch.Patch.Staged
import DexPatch.Patch.Tables
import DexPatch.Proofs.Accretion
import DexPatch.Proofs.AnnotationPasses
import DexPatch.Proofs.Annotations
import DexPatch.Proofs.AppendOnly
import DexPatch.Proofs.Ascending
import DexPatch.Proofs.Ascii
import DexPatch.Proofs.Assembling
import DexPatch.Proofs.Bodies
import DexPatch.Proofs.Canonical
import DexPatch.Proofs.CanonicalLists
import DexPatch.Proofs.Classes
import DexPatch.Proofs.CodeUnits
import DexPatch.Proofs.Composed
import DexPatch.Proofs.ContentAlone
import DexPatch.Proofs.Contents
import DexPatch.Proofs.Correspondence
import DexPatch.Proofs.Decoded
import DexPatch.Proofs.Deflated
import DexPatch.Proofs.Edits
import DexPatch.Proofs.Encoding
import DexPatch.Proofs.Entries
import DexPatch.Proofs.EntryContents
import DexPatch.Proofs.EntryNames
import DexPatch.Proofs.Executions
import DexPatch.Proofs.ExtraFields
import DexPatch.Proofs.Faults
import DexPatch.Proofs.Finding
import DexPatch.Proofs.Growth
import DexPatch.Proofs.Guards
import DexPatch.Proofs.HeaderAndMap
import DexPatch.Proofs.Headers
import DexPatch.Proofs.Held
import DexPatch.Proofs.HiddenApi
import DexPatch.Proofs.Independence
import DexPatch.Proofs.Installing
import DexPatch.Proofs.Interning
import DexPatch.Proofs.Isolation
import DexPatch.Proofs.Items
import DexPatch.Proofs.Json
import DexPatch.Proofs.Leb128
import DexPatch.Proofs.Listed
import DexPatch.Proofs.Listings
import DexPatch.Proofs.Locating
import DexPatch.Proofs.Members
import DexPatch.Proofs.MethodKeys
import DexPatch.Proofs.Monotone
import DexPatch.Proofs.Nested
import DexPatch.Proofs.Numbering
import DexPatch.Proofs.Offsets
import DexPatch.Proofs.Operands
import DexPatch.Proofs.OtherEntries
import DexPatch.Proofs.Patched
import DexPatch.Proofs.PlacedAnnotations
import DexPatch.Proofs.Placement
import DexPatch.Proofs.Progress
import DexPatch.Proofs.Pruned
import DexPatch.Proofs.Reading
import DexPatch.Proofs.Reassembled
import DexPatch.Proofs.References
import DexPatch.Proofs.Regions
import DexPatch.Proofs.Renumbered
import DexPatch.Proofs.Reordered
import DexPatch.Proofs.Repeated
import DexPatch.Proofs.Replacement
import DexPatch.Proofs.Resolution
import DexPatch.Proofs.Rewriting
import DexPatch.Proofs.Rewritten
import DexPatch.Proofs.RoundTrip
import DexPatch.Proofs.SavedTables
import DexPatch.Proofs.Searching
import DexPatch.Proofs.Sections
import DexPatch.Proofs.Shapes
import DexPatch.Proofs.SharedPieces
import DexPatch.Proofs.ShortestNumbers
import DexPatch.Proofs.ShortestValues
import DexPatch.Proofs.Specs
import DexPatch.Proofs.Spelled
import DexPatch.Proofs.StaticValues
import DexPatch.Proofs.StoredTexts
import DexPatch.Proofs.Tables
import DexPatch.Proofs.Texts
import DexPatch.Proofs.Trailing
import DexPatch.Proofs.Truncated
import DexPatch.Proofs.Values
import DexPatch.Proofs.Versions
import DexPatch.Proofs.Writable
import DexPatch.Proofs.WrittenAnnotations
import DexPatch.Proofs.WrittenArchives
import DexPatch.Proofs.WrittenEntries
import DexPatch.Proofs.WrittenValues
import DexPatch.Renumber.Arranged
import DexPatch.Renumber.Order
import DexPatch.Renumber.Representable
import DexPatch.Text.Blank
import DexPatch.Text.Glyph
import DexPatch.Text.Modified
import DexPatch.Text.Numeral
import DexPatch.Text.Quoted
import DexPatch.Text.Utf16
import DexPatch.Text.Utf8
