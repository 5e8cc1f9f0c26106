import SelfUpdate.Proofs.Archive.Zip.Directory
import SelfUpdate.Proofs.Archive.Extraction

/-!
# What a size limit changes

Extraction with the greatest limit there is finds out what an archive has to offer.
With a smaller limit the outcome is the same, or it is that the entry is too large.
An entry passes a limit if neither its data nor, in a zip archive, the size that the
directory declares for it goes beyond the limit.

Where reading breaks off, the limit decides which comes first.  So a corrupt archive
may be reported as too large an entry, but an archive without the entry never is.
-/

namespace SelfUpdate

def greatestLimit : UInt64 := 0xffffffffffffffff

theorem toNat_greatestLimit : greatestLimit.toNat = UInt64.size - 1 :=
  rfl

theorem toNat_le_greatestLimit (limit : UInt64) : limit.toNat ≤ greatestLimit.toNat := by
  have bounded := limit.toNat_lt_size
  rw [toNat_greatestLimit]
  omega

namespace Stream

variable {stream : Stream} {limit : UInt64} {bytes : Bytes}

/-- A bounded read, by how many bytes it asks for. -/
theorem readBounded_of_asked {count : Nat}
    (asked : min (limit.toNat + 1) (UInt64.size - 1) = count) :
    stream.readBounded limit =
      if stream.ends = true ∨ count ≤ stream.bytes.length then
        if min count stream.bytes.length ≤ limit.toNat then .complete (stream.bytes.take count)
        else .tooLarge
      else .broken := by
  simp only [readBounded, asked, Stream.limit, List.length_take]
  by_cases reached : stream.ends = true ∨ count ≤ stream.bytes.length
  · have goesOn : (stream.ends || decide (count ≤ stream.bytes.length)) = true := by
      simpa using reached
    rw [goesOn, if_pos reached, Bool.not_true, if_neg (by decide)]
    by_cases within : min count stream.bytes.length ≤ limit.toNat
    · rw [if_pos within, if_neg (Nat.not_lt.mpr within)]
    · rw [if_neg within, if_pos (Nat.not_le.mp within)]
  · have stops : (stream.ends || decide (count ≤ stream.bytes.length)) = false := by
      simpa using reached
    rw [stops, if_neg reached, Bool.not_false, if_pos rfl]

/-- Below the greatest limit one byte more than the limit is asked for. -/
theorem readBounded_of_lt (notGreatest : limit.toNat < greatestLimit.toNat) :
    stream.readBounded limit =
      if limit.toNat < stream.bytes.length then .tooLarge
      else if stream.ends = true then .complete stream.bytes
      else .broken := by
  have asked : min (limit.toNat + 1) (UInt64.size - 1) = limit.toNat + 1 := by
    rw [toNat_greatestLimit] at notGreatest
    omega
  rw [readBounded_of_asked asked]
  by_cases beyond : limit.toNat < stream.bytes.length
  · rw [if_pos beyond, if_pos (Or.inr (Nat.succ_le_of_lt beyond)), if_neg (by omega)]
  · have shorter : ¬limit.toNat + 1 ≤ stream.bytes.length := beyond
    have whole : stream.bytes.length ≤ limit.toNat + 1 := by omega
    rw [if_neg beyond, List.take_of_length_le whole]
    by_cases ends : stream.ends = true
    · rw [if_pos (Or.inl ends), if_pos ends, if_pos (by omega)]
    · rw [if_neg (not_or.mpr ⟨ends, shorter⟩), if_neg ends]

/-- A read with the greatest limit goes on to the end of the stream, or to as many bytes
as can be asked for. -/
theorem readBounded_greatestLimit (stream : Stream) :
    stream.readBounded greatestLimit =
      if stream.ends = true ∨ greatestLimit.toNat ≤ stream.bytes.length then
        .complete (stream.bytes.take greatestLimit.toNat)
      else .broken := by
  -- One byte more than the limit would be more than can be asked for.
  have asked : min (greatestLimit.toNat + 1) (UInt64.size - 1) = greatestLimit.toNat := rfl
  rw [readBounded_of_asked asked, if_pos (Nat.min_le_left _ _)]

theorem readBounded_greatestLimit_ne_tooLarge (stream : Stream) :
    stream.readBounded greatestLimit ≠ .tooLarge := by
  rw [readBounded_greatestLimit]
  split <;> simp

/-- What can be read without a limit is read with one, or is too large for it. -/
theorem readBounded_of_complete (complete : stream.readBounded greatestLimit = .complete bytes)
    (limit : UInt64) :
    stream.readBounded limit =
      if bytes.length ≤ limit.toNat then .complete bytes else .tooLarge := by
  rcases Nat.lt_or_eq_of_le (toNat_le_greatestLimit limit) with less | same
  · rw [readBounded_greatestLimit] at complete
    rw [readBounded_of_lt less]
    split at complete
    · next reached =>
        obtain rfl := Bounded.complete.inj complete
        rw [List.length_take]
        by_cases beyond : limit.toNat < stream.bytes.length
        · rw [if_pos beyond, if_neg (by omega)]
        · have short : stream.bytes.length ≤ greatestLimit.toNat := by omega
          have ends : stream.ends = true := reached.resolve_right (by omega)
          rw [if_neg beyond, if_pos ends, if_pos (by omega), List.take_of_length_le short]
    · simp at complete
  · obtain rfl := UInt64.toNat_inj.mp same
    have within : bytes.length ≤ greatestLimit.toNat := length_le_of_readBounded complete
    rw [complete, if_pos within]

/-- A stream that ends is read whole if the limit allows it. -/
theorem readBounded_ofBytes (fits : bytes.length < UInt64.size) (limit : UInt64) :
    (ofBytes bytes).readBounded limit =
      if bytes.length ≤ limit.toNat then .complete bytes else .tooLarge := by
  have whole : bytes.length ≤ greatestLimit.toNat := Nat.le_pred_of_lt fits
  have complete : (ofBytes bytes).readBounded greatestLimit = .complete bytes := by
    rw [ofBytes, readBounded_greatestLimit, if_pos (Or.inl rfl)]
    exact congrArg _ (List.take_of_length_le whole)
  exact readBounded_of_complete complete limit

theorem readBounded_of_broken (broken : stream.readBounded greatestLimit = .broken)
    (limit : UInt64) :
    stream.readBounded limit = .broken ∨ stream.readBounded limit = .tooLarge := by
  rcases Nat.lt_or_eq_of_le (toNat_le_greatestLimit limit) with less | same
  · rw [readBounded_greatestLimit] at broken
    rw [readBounded_of_lt less]
    split at broken
    · simp at broken
    · next stops =>
        rw [if_neg (not_or.mp stops).1]
        split
        · exact Or.inr rfl
        · exact Or.inl rfl
  · obtain rfl := UInt64.toNat_inj.mp same
    exact Or.inl broken

end Stream

/-- What extraction finds in an archive before it looks at its limit.  Only the directory of a zip
archive declares a size. -/
structure Located where
  format : ArchiveFormat
  declared : Option Nat
  content : Stream

def locateZip (decoders : Zip.Decoders) (entry : String) (archive : Bytes) :
    Except ArchiveError Located :=
  match Zip.entries archive with
  | none => .error (.corrupt .zip)
  | some entries =>
      match Zip.lookUp entry entries with
      | none => .error (.entryNotFound entry)
      | some found =>
          match found.content decoders archive with
          | none => .error (.corrupt .zip)
          | some content =>
              if !found.isFile then .error (.entryNotFound entry)
              else .ok ⟨.zip, some found.size, content⟩

def locateTar (entry : String) (archive : Bytes) : Except ArchiveError Located :=
  match Tar.findIn (Bytes.ofString entry) (Gzip.content archive) with
  | .error _ => .error (.corrupt .gzipTar)
  | .ok none => .error (.entryNotFound entry)
  | .ok (some (_, content)) => .ok ⟨.gzipTar, none, content⟩

/-- Find a file in an archive of either format. -/
def locate (decoders : Zip.Decoders) (entry : String) (archive : Bytes) :
    Except ArchiveError Located :=
  match ArchiveFormat.sniff archive with
  | .zip => locateZip decoders entry archive
  | .gzipTar => locateTar entry archive
  | .unknown => .error .unknownFormat

/-- Read what was found, within a limit. -/
def Located.read (located : Located) (entry : String) (limit : UInt64) :
    Except ArchiveError Bytes :=
  if located.declared.any (limit.toNat < ·) then .error (.entryTooLarge entry limit)
  else (located.content.readBounded limit).toResult entry located.format limit

/-- The size that the directory of a zip archive declares for an entry. -/
def declaredSize (entry : String) (archive : Bytes) : Option Nat :=
  match ArchiveFormat.sniff archive with
  | .zip => ((Zip.entries archive).bind (Zip.lookUp entry)).map Zip.Entry.size
  | _ => none

section Extraction

variable {decoders : Zip.Decoders} {entry : String} {archive : Bytes}

theorem extractZip_eq_locate (decoders : Zip.Decoders) (entry : String) (archive : Bytes)
    (limit : UInt64) :
    extractZip decoders entry archive limit =
      (locateZip decoders entry archive).bind fun located => located.read entry limit := by
  unfold extractZip locateZip
  cases Zip.entries archive with
  | none => rfl
  | some entries =>
      dsimp only
      cases Zip.lookUp entry entries with
      | none => rfl
      | some found =>
          dsimp only
          cases found.content decoders archive with
          | none => rfl
          | some content => cases found.isFile <;> simp [Except.bind, Located.read]

theorem extractTar_eq_locate (entry : String) (archive : Bytes) (limit : UInt64) :
    extractTar entry archive limit =
      (locateTar entry archive).bind fun located => located.read entry limit := by
  unfold extractTar locateTar
  rcases Tar.findIn (Bytes.ofString entry) (Gzip.content archive) with _ | _ | ⟨_, content⟩ <;>
    simp [Except.bind, Located.read]

/-- The limit plays no part before an entry is found. -/
theorem extract_eq_locate (decoders : Zip.Decoders) (entry : String) (archive : Bytes)
    (limit : UInt64) :
    extract decoders entry archive limit =
      (locate decoders entry archive).bind fun located => located.read entry limit := by
  unfold extract locate
  cases ArchiveFormat.sniff archive with
  | zip => exact extractZip_eq_locate decoders entry archive limit
  | gzipTar => exact extractTar_eq_locate entry archive limit
  | unknown => rfl

/-- An archive in which nothing is found does not yield too large an entry. -/
theorem locate_ne_entryTooLarge (decoders : Zip.Decoders) (entry name : String)
    (archive : Bytes) (limit : UInt64) :
    locate decoders entry archive ≠ .error (.entryTooLarge name limit) := by
  unfold locate locateZip locateTar
  repeat' split
  all_goals simp

theorem declared_of_locateZip {located : Located}
    (found : locateZip decoders entry archive = .ok located) :
    ∃ entries item, Zip.entries archive = some entries ∧ Zip.lookUp entry entries = some item ∧
      located.declared = some item.size := by
  unfold locateZip at found
  split at found
  · simp at found
  next entries isDirectory =>
    split at found
    · simp at found
    next item isItem =>
      split at found
      · simp at found
      split at found
      · simp at found
      obtain rfl := Except.ok.inj found
      exact ⟨entries, item, isDirectory, isItem, rfl⟩

theorem declared_of_locateTar {located : Located} (found : locateTar entry archive = .ok located) :
    located.declared = none := by
  unfold locateTar at found
  split at found
  · simp at found
  · simp at found
  · obtain rfl := Except.ok.inj found
    rfl

theorem declared_of_locate {located : Located}
    (found : locate decoders entry archive = .ok located) :
    declaredSize entry archive = located.declared ∧
      ∀ size ∈ located.declared, size < UInt64.size := by
  unfold locate at found
  unfold declaredSize
  cases format : ArchiveFormat.sniff archive with
  | zip =>
      rw [format] at found
      obtain ⟨entries, item, isDirectory, isItem, declared⟩ := declared_of_locateZip found
      have member : item ∈ entries := List.mem_reverse.mp (List.mem_of_find?_eq_some isItem)
      obtain ⟨_, recorded⟩ := Zip.recordedAt_of_mem_entries isDirectory member
      exact ⟨by simp [isDirectory, isItem, declared], by simpa [declared] using recorded.size⟩
  | gzipTar =>
      rw [format] at found
      simp [declared_of_locateTar found]
  | unknown => simp [format] at found

end Extraction

/-- Some bytes, and what a directory declares for them, are within a limit. -/
def WithinLimit (entry : String) (archive : Bytes) (limit : UInt64) (bytes : Bytes) : Prop :=
  bytes.length ≤ limit.toNat ∧ ∀ size ∈ declaredSize entry archive, size ≤ limit.toNat

section Read

variable {decoders : Zip.Decoders} {entry : String} {archive bytes : Bytes} {located : Located}
  {limit larger : UInt64}

theorem WithinLimit.mono (within : WithinLimit entry archive limit bytes) (le : limit ≤ larger) :
    WithinLimit entry archive larger bytes := by
  have most : limit.toNat ≤ larger.toNat := UInt64.le_iff_toNat_le.mp le
  exact ⟨Nat.le_trans within.1 most,
    fun size declared => Nat.le_trans (within.2 size declared) most⟩

theorem withinLimit_greatestLimit (found : locate decoders entry archive = .ok located)
    (complete : located.content.readBounded greatestLimit = .complete bytes) :
    WithinLimit entry archive greatestLimit bytes := by
  obtain ⟨same, fits⟩ := declared_of_locate found
  refine ⟨Stream.length_le_of_readBounded complete, fun size declared => ?_⟩
  exact Nat.le_pred_of_lt (fits size (same ▸ declared))

theorem declared_any_iff :
    located.declared.any (limit.toNat < ·) = true ↔
      ¬∀ size ∈ located.declared, size ≤ limit.toNat := by
  simp [Option.any_eq_true]

theorem read_of_complete (found : locate decoders entry archive = .ok located)
    (complete : located.content.readBounded greatestLimit = .complete bytes) (limit : UInt64) :
    (WithinLimit entry archive limit bytes → located.read entry limit = .ok bytes) ∧
      (¬WithinLimit entry archive limit bytes →
        located.read entry limit = .error (.entryTooLarge entry limit)) := by
  have same := (declared_of_locate found).1
  unfold Located.read WithinLimit
  rw [Stream.readBounded_of_complete complete limit, same]
  by_cases declared : ∀ size ∈ located.declared, size ≤ limit.toNat
  · rw [if_neg fun beyond => declared_any_iff.mp beyond declared]
    by_cases short : bytes.length ≤ limit.toNat
    · exact ⟨fun _ => by rw [if_pos short, Bounded.toResult],
        fun beyond => absurd ⟨short, declared⟩ beyond⟩
    · exact ⟨fun within => absurd within.1 short,
        fun _ => by rw [if_neg short, Bounded.toResult]⟩
  · exact ⟨fun within => absurd within.2 declared, fun _ => if_pos (declared_any_iff.mpr declared)⟩

theorem read_of_broken (broken : located.content.readBounded greatestLimit = .broken)
    (limit : UInt64) :
    located.read entry limit = .error (.corrupt located.format) ∨
      located.read entry limit = .error (.entryTooLarge entry limit) := by
  unfold Located.read
  split
  · exact Or.inr rfl
  · rcases Stream.readBounded_of_broken broken limit with same | tooLarge
    · exact Or.inl (by rw [same, Bounded.toResult])
    · exact Or.inr (by rw [tooLarge, Bounded.toResult])

theorem read_greatestLimit_of_broken (found : locate decoders entry archive = .ok located)
    (broken : located.content.readBounded greatestLimit = .broken) :
    located.read entry greatestLimit = .error (.corrupt located.format) := by
  have fits := (declared_of_locate found).2
  have passes : ∀ size ∈ located.declared, size ≤ greatestLimit.toNat :=
    fun size declared => Nat.le_pred_of_lt (fits size declared)
  unfold Located.read
  rw [if_neg fun beyond => declared_any_iff.mp beyond passes, broken, Bounded.toResult]

end Read

/-- An archive has nothing to offer, or it has some bytes, or reading it breaks off.  Only
in the last two cases does a limit matter. -/
theorem extract_cases (decoders : Zip.Decoders) (entry : String) (archive : Bytes) :
    (∃ error, (∀ name most, error ≠ .entryTooLarge name most) ∧
      ∀ limit, extract decoders entry archive limit = .error error) ∨
    (∃ bytes, WithinLimit entry archive greatestLimit bytes ∧ ∀ limit,
      (WithinLimit entry archive limit bytes → extract decoders entry archive limit = .ok bytes) ∧
      (¬WithinLimit entry archive limit bytes →
        extract decoders entry archive limit = .error (.entryTooLarge entry limit))) ∨
    ∃ format, extract decoders entry archive greatestLimit = .error (.corrupt format) ∧ ∀ limit,
      extract decoders entry archive limit = .error (.corrupt format) ∨
        extract decoders entry archive limit = .error (.entryTooLarge entry limit) := by
  simp only [extract_eq_locate]
  rcases found : locate decoders entry archive with error | located
  · left
    refine ⟨error, fun name most tooLarge => ?_, fun limit => rfl⟩
    exact locate_ne_entryTooLarge decoders entry name archive most (by rw [found, tooLarge])
  right
  dsimp only [Except.bind]
  cases read : located.content.readBounded greatestLimit with
  | complete bytes =>
      exact Or.inl ⟨bytes, withinLimit_greatestLimit found read, read_of_complete found read⟩
  | tooLarge => exact absurd read located.content.readBounded_greatestLimit_ne_tooLarge
  | broken =>
      exact Or.inr ⟨located.format, read_greatestLimit_of_broken found read, read_of_broken read⟩

/-- A limit changes the outcome of extraction in no other way than to have an entry
rejected as too large. -/
theorem extract_limited (decoders : Zip.Decoders) (entry : String) (archive : Bytes)
    (limit : UInt64) :
    let whole := extract decoders entry archive greatestLimit
    let limited := extract decoders entry archive limit
    (∀ name most, whole ≠ .error (.entryTooLarge name most)) ∧
      (whole = .error .unknownFormat → limited = .error .unknownFormat) ∧
      (∀ name, whole = .error (.entryNotFound name) → limited = .error (.entryNotFound name)) ∧
      (∀ format, whole = .error (.corrupt format) →
        limited = .error (.corrupt format) ∨ limited = .error (.entryTooLarge entry limit)) ∧
      (∀ bytes, whole = .ok bytes →
        (limited = .ok bytes ↔ WithinLimit entry archive limit bytes) ∧
        (limited ≠ .ok bytes → limited = .error (.entryTooLarge entry limit))) ∧
      ∀ bytes, limited = .ok bytes → bytes.length ≤ limit.toNat ∧
        ∀ larger, limit ≤ larger → extract decoders entry archive larger = .ok bytes := by
  intro whole limited
  rcases extract_cases decoders entry archive with ⟨error, notTooLarge, same⟩ |
    ⟨bytes, greatest, fates⟩ | ⟨format, corrupt, fates⟩
  · have isWhole : whole = .error error := same greatestLimit
    have isLimited : limited = .error error := same limit
    simp [isWhole, isLimited, notTooLarge]
  · have isWhole : whole = .ok bytes := (fates greatestLimit).1 greatest
    simp only [isWhole]
    by_cases within : WithinLimit entry archive limit bytes
    · have isLimited : limited = .ok bytes := (fates limit).1 within
      simpa [isLimited, within] using
        ⟨within.1, fun larger le => (fates larger).1 (within.mono le)⟩
    · have isLimited : limited = .error (.entryTooLarge entry limit) := (fates limit).2 within
      simp [isLimited, within]
  · have isWhole : whole = .error (.corrupt format) := corrupt
    rcases fates limit with isLimited | isLimited
    · simp [isWhole, show limited = _ from isLimited]
    · simp [isWhole, show limited = _ from isLimited]

end SelfUpdate
