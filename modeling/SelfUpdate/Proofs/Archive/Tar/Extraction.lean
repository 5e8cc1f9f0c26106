import SelfUpdate.Proofs.Archive.Deflate.Stored
import SelfUpdate.Proofs.Archive.Limit
import SelfUpdate.Proofs.Archive.Tar.Search
import SelfUpdate.Proofs.Text.Ascii

/-!
# Extracting from a tar archive what was put into it

An archive is the members one after the other, with zeros behind them, in a gzip member.
Extraction gives the content of the first file whose path ends in the name that is asked
for.  No other member has a say in this, whatever its kind, its name and its content are.
-/

namespace SelfUpdate.Tar

/-- An archive of some members. -/
def archive (sources : List Source) (count : Nat) : Bytes :=
  sources.flatMap Source.layout ++ endBlocks count

theorem length_le_length_archive (sources : List Source) (count : Nat) :
    sources.length ≤ (archive sources count).length := by
  rw [archive, List.length_append]
  refine Nat.le_trans ?_ (Nat.le_add_right _ _)
  induction sources with
  | nil => exact Nat.zero_le _
  | cons source sources ih =>
      rw [List.flatMap_cons, List.length_append, List.length_cons, source.length_layout]
      simp only [blockSize]
      omega

theorem findIn_archive (name : Bytes) (sources : List Source) (count : Nat) :
    findIn name (.ofBytes (archive sources count)) =
      if ((searched name sources).flatMap Source.layout).length < UInt64.size then
        .ok ((sources.find? (·.Matches name)).map fun source =>
          (source.member, .ofBytes source.substance.content))
      else broken := by
  have faces : (Reader.ofStream (.ofBytes (archive sources count))).Faces []
      (sources.flatMap Source.layout ++ endBlocks count) true := ⟨rfl, rfl⟩
  have search := find_of_sources name sources faces (show 0 < UInt64.size by decide)
    (Nat.lt_succ_of_le (length_le_length_archive sources count))
  have start : (Reader.ofStream (.ofBytes (archive sources count))).next = 0 := rfl
  rw [start, Nat.zero_add] at search
  exact search

/-- Extraction from an archive gives the content of the first file with the name, if it is
within the limit.

A reader counts the bytes that it has passed in 64 bits.  So if it took 2^64 bytes or more
to get behind that file, extraction would give up at the point where they cannot be counted
any more. -/
theorem extract_members (decoders : Zip.Decoders) (sources : List Source) (count : Nat)
    (heading : Gzip.Heading) {data : Bytes}
    (encoded : Deflate.Encodes data (archive sources count)) (behind : Bytes) (entry : String)
    (limit : UInt64) :
    extract decoders entry (Gzip.file heading data (archive sources count) behind) limit =
      let name := Bytes.ofString entry
      if ((searched name sources).flatMap Source.layout).length < UInt64.size then
        match sources.find? (·.Matches name) with
        | some source =>
            if source.substance.content.length ≤ limit.toNat then .ok source.substance.content
            else .error (.entryTooLarge entry limit)
        | none => .error (.entryNotFound entry)
      else .error (.corrupt .gzipTar) := by
  rw [extract, Gzip.sniff_file]
  dsimp only
  rw [extractTar, Gzip.content_file heading encoded, findIn_archive]
  by_cases fits : ((searched (Bytes.ofString entry) sources).flatMap Source.layout).length <
      UInt64.size
  · rw [if_pos fits, if_pos fits]
    cases sources.find? (·.Matches (Bytes.ofString entry)) with
    | none => rfl
    | some source =>
        have short : source.substance.content.length < UInt64.size :=
          Nat.lt_of_lt_of_le source.content_length (by decide)
        dsimp only [Option.map_some]
        rw [Stream.readBounded_ofBytes short]
        split <;> rfl
  · rw [if_neg fits, if_neg fits]
    rfl

section Example

/-- Details that say nothing. -/
def noDetails : Details where
  owner := List.replicate 24 0
  time := List.replicate 12 0
  linkTarget := List.replicate 100 0
  family := posixFamily
  ownerNames := List.replicate 80 0
  beginning := List.replicate 155 0
  unused := List.replicate 12 0
  sizeEnding := [0]
  sumEnding := [0, 0x20]
  length_owner := rfl
  length_time := rfl
  length_linkTarget := rfl
  length_family := rfl
  length_ownerNames := rfl
  length_beginning := rfl
  length_unused := rfl
  noBeginning _ := rfl
  ends_size := by simp [EndsNumber]
  length_sizeEnding := by decide
  ends_sum := by simp [EndsNumber]
  length_sumEnding := by decide

def sampleFile : Source where
  name := [0x62, 0x2f, 0x61]
  substance := .file false [0x01, 0x02, 0x03]
  details := noDetails
  name_length := by decide
  name_plain := by decide
  content_length := by decide

/-- A directory that has the name of the file beside it. -/
def sampleMembers : List Source :=
  [{ sampleFile with
     name := [0x61, 0x2f]
     substance := .directory
     name_length := by decide
     name_plain := by decide
     content_length := by decide },
   sampleFile]

/-- A header of a gzip member that says nothing. -/
def noHeading : Gzip.Heading where
  isText := false
  details := List.replicate 6 0
  extra := none
  name := none
  comment := none
  isChecked := false
  length_details := rfl
  extra_length := by simp
  name_plain := by simp
  comment_plain := by simp

theorem length_sampleMembers : (sampleMembers.flatMap Source.layout).length = 3 * blockSize := by
  simp [sampleMembers, sampleFile, Source.length_layout, Source.length_data, Substance.content,
    blockSize]

theorem encodes_sampleMembers :
    Deflate.Encodes (Deflate.storedBlock (archive sampleMembers 2)) (archive sampleMembers 2) := by
  apply Deflate.encodes_storedBlock
  rw [archive, List.length_append, length_sampleMembers, endBlocks, List.length_replicate]
  decide

theorem extract_sampleMembers :
    extract .none "a" (Gzip.file noHeading (Deflate.storedBlock (archive sampleMembers 2))
      (archive sampleMembers 2) []) 3 = .ok [0x01, 0x02, 0x03] := by
  have name : Bytes.ofString "a" = [0x61] := Bytes.ofString_ofList ['a']
  have all : searched [0x61] sampleMembers = sampleMembers := rfl
  rw [extract_members .none sampleMembers 2 noHeading encodes_sampleMembers [] "a" 3, name]
  dsimp only
  rw [all, length_sampleMembers, if_pos (by decide)]
  rfl

end Example

end SelfUpdate.Tar
