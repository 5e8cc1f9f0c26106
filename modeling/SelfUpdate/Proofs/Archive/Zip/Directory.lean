import SelfUpdate.Archive.Zip.Entry
import SelfUpdate.Proofs.Bytes.Field

/-!
# What a zip directory records

Every entry of an archive is read off a directory header.  The extra fields behind the
header can widen its sizes, name another method and correct its texts.  The checksum of the
content and what shows a link stay as the header has them, and no size that is declared
needs more than 64 bits.
-/

namespace SelfUpdate.Zip

/-- What extra fields leave of an entry, and how great a size they can declare. -/
structure Entry.Amends (next entry : Entry) : Prop where
  checksum : next.checksum = entry.checksum
  unix : next.unix = entry.unix
  attributes : next.attributes = entry.attributes
  size : next.size = entry.size ∨ next.size < UInt64.size

namespace Entry.Amends

variable {entry next last : Entry}

theorem refl (entry : Entry) : entry.Amends entry :=
  ⟨rfl, rfl, rfl, Or.inl rfl⟩

theorem trans (later : last.Amends next) (first : next.Amends entry) : last.Amends entry where
  checksum := later.checksum.trans first.checksum
  unix := later.unix.trans first.unix
  attributes := later.attributes.trans first.attributes
  size := by
    rcases later.size with same | fits
    · rw [same]
      exact first.size
    · exact Or.inr fits

theorem size_lt (amends : next.Amends entry) (fits : entry.size < UInt64.size) :
    next.size < UInt64.size := by
  rcases amends.size with same | next
  · rwa [same]
  · exact next

end Entry.Amends

section ExtraFields

variable {α : Type} {entry next : Entry} {bytes : Bytes} {kind length taken : Nat}

/-- Reading an extra field, if it succeeds, amends the entry. -/
def Entry.AmendedBy (entry : Entry) (read : Except ExtraFault (Entry × Nat)) : Prop :=
  ∀ next taken, read = .ok (next, taken) → next.Amends entry

theorem amendedBy_return (amends : next.Amends entry) :
    entry.AmendedBy (return (next, taken)) := by
  rintro other count ended
  obtain ⟨rfl, -⟩ : next = other ∧ taken = count := by simpa [pure, Except.pure] using ended
  exact amends

theorem amendedBy_error (fault : ExtraFault) : entry.AmendedBy (.error fault) := by
  intro next taken ended
  simp at ended

theorem amendedBy_bind {first : Except ExtraFault α}
    {rest : α → Except ExtraFault (Entry × Nat)}
    (amended : ∀ value, first = .ok value → entry.AmendedBy (rest value)) :
    entry.AmendedBy (first >>= rest) := by
  cases first with
  | error fault => exact amendedBy_error fault
  | ok value => exact amended value rfl

theorem widen_eq_or_lt {offset number wider after : Nat}
    (read : widen bytes length offset number = .ok (wider, after)) :
    wider = number ∨ wider < UInt64.size := by
  unfold widen at read
  split at read
  · unfold extraNumber at read
    split at read
    · next found isFound =>
        obtain ⟨rfl, -⟩ : found = wider ∧ offset + 8 = after := by
          simpa [pure, Except.pure, bind, Except.bind] using read
        exact Or.inr (Bytes.number?_lt isFound)
    · simp [bind, Except.bind] at read
  · obtain ⟨rfl, -⟩ : number = wider ∧ offset = after := by simpa [pure, Except.pure] using read
    exact Or.inl rfl

/-- Of all extra fields only the widening one says anything about the size. -/
theorem amendedBy_takeField (entry : Entry) (kind length : Nat) (bytes : Bytes) :
    entry.AmendedBy (entry.takeField kind length bytes) := by
  unfold Entry.takeField
  split
  · apply amendedBy_bind
    rintro ⟨size, _⟩ widened
    iterate 3 (apply amendedBy_bind; intro _ _)
    split
    · exact amendedBy_error _
    · exact amendedBy_return ⟨rfl, rfl, rfl, widen_eq_or_lt widened⟩
  · iterate 7 (apply amendedBy_bind; intro _ _)
    exact amendedBy_return (.refl entry)
  · iterate 7 (apply amendedBy_bind; intro _ _)
    exact amendedBy_return ⟨rfl, rfl, rfl, Or.inl rfl⟩
  · iterate 4 (apply amendedBy_bind; intro _ _)
    exact amendedBy_return (.refl entry)
  · apply amendedBy_bind
    intro _ _
    exact amendedBy_return ⟨rfl, rfl, rfl, Or.inl rfl⟩
  · apply amendedBy_bind
    intro _ _
    exact amendedBy_return ⟨rfl, rfl, rfl, Or.inl rfl⟩
  · split
    · exact amendedBy_error _
    · exact amendedBy_return (.refl entry)

theorem amends_of_takeFields {rounds : Nat} (took : entry.takeFields rounds bytes = some next) :
    next.Amends entry := by
  induction rounds generalizing entry bytes with
  | zero =>
      obtain rfl : entry = next := by simpa [Entry.takeFields] using took
      exact .refl entry
  | succ rounds ih =>
      unfold Entry.takeFields at took
      split at took
      · next kind length _ _ =>
          split at took
          · obtain rfl := Option.some.inj took
            exact .refl entry
          · simp at took
          · next between taken isTaken =>
              exact (ih took).trans (amendedBy_takeField entry kind length _ between taken isTaken)
      · obtain rfl := Option.some.inj took
        exact .refl entry

end ExtraFields

theorem fieldOf_lt (record : Bytes) (offset size : Nat) : fieldOf record offset size < 256 ^ size :=
  Bytes.littleEndian_lt_of_length_le (List.length_take_le _ _)

/-- The header at an offset of an archive is one that an entry is read off.  The name and the
sizes may come from its extra fields, the checksum and the attributes never do. -/
structure Entry.RecordedAt (entry : Entry) (file : Bytes) (offset : Nat) : Prop where
  isRead : ∃ shift next, Entry.at? file shift offset = some (entry, next)
  isSigned : file.slice? offset 4 = some directorySignature
  checksum : file.number? (offset + 16) 4 = some entry.checksum
  unix : entry.unix = (file.number? (offset + 5) 1 == some 3)
  attributes : file.number? (offset + 38) 4 = some entry.attributes
  size : entry.size < UInt64.size

section Directory

variable {file record : Bytes} {entry : Entry} {offset size : Nat}

theorem of_recordAt {signature : Bytes}
    (found : recordAt file signature offset size = some record) :
    file.slice? offset size = some record ∧ signature <+: record := by
  obtain ⟨part, sliced, found⟩ := Option.bind_eq_some_iff.mp found
  obtain ⟨signed, same⟩ := Option.ite_none_right_eq_some.mp found
  obtain rfl := Option.some.inj same
  exact ⟨sliced, List.isPrefixOf_iff_prefix.mp signed⟩

theorem number?_of_recordAt {signature : Bytes}
    (found : recordAt file signature offset size = some record) {start count : Nat}
    (inside : start + count ≤ size) :
    file.number? (offset + start) count = some (fieldOf record start count) := by
  rw [Bytes.number?, Bytes.slice?_of_slice? (of_recordAt found).1 inside, Option.map_some, fieldOf]

theorem slice?_of_recordAt {signature : Bytes}
    (found : recordAt file signature offset size = some record)
    (inside : signature.length ≤ size) :
    file.slice? offset signature.length = some signature := by
  obtain ⟨sliced, signed⟩ := of_recordAt found
  have front := Bytes.slice?_of_slice? sliced (Nat.le_trans (Nat.le_of_eq (Nat.zero_add _)) inside)
  rwa [List.drop_zero, Nat.add_zero, ← List.prefix_iff_eq_take.mp signed] at front

theorem recordedAt_of_at? {shift next : Nat}
    (found : Entry.at? file shift offset = some (entry, next)) : entry.RecordedAt file offset := by
  have isRead := found
  obtain ⟨header, isHeader, found⟩ := Option.bind_eq_some_iff.mp found
  obtain ⟨rawName, -, found⟩ := Option.bind_eq_some_iff.mp found
  obtain ⟨extra, -, found⟩ := Option.bind_eq_some_iff.mp found
  obtain ⟨comment, -, found⟩ := Option.bind_eq_some_iff.mp found
  obtain ⟨whole, took, found⟩ := Option.bind_eq_some_iff.mp found
  obtain ⟨record, isRecord, same⟩ := Option.bind_eq_some_iff.mp isHeader
  obtain rfl := Option.some.inj same
  have amends := amends_of_takeFields took
  split at found
  · simp at found
  dsimp only at found
  split at found
  · simp at found
  obtain ⟨rfl, -⟩ : _ = entry ∧ _ = next := by simpa using found
  constructor
  · exact ⟨shift, next, isRead⟩
  · exact slice?_of_recordAt isRecord (by decide)
  · rw [number?_of_recordAt isRecord (by decide)]
    exact congrArg some amends.checksum.symm
  · rw [number?_of_recordAt isRecord (by decide)]
    exact amends.unix
  · rw [number?_of_recordAt isRecord (by decide)]
    exact congrArg some amends.attributes.symm
  · exact amends.size_lt (Nat.lt_trans (fieldOf_lt record 24 4) (by decide))

theorem recordedAt_of_readEntries {place : DirectoryPlace} {count : Nat} {list : List Entry}
    (read : readEntries file place count offset = some list) (member : entry ∈ list) :
    ∃ offset, entry.RecordedAt file offset := by
  induction count generalizing offset list with
  | zero =>
      obtain rfl : [] = list := by simpa [readEntries] using read
      simp at member
  | succ count ih =>
      obtain ⟨⟨first, next⟩, isFirst, read⟩ := Option.bind_eq_some_iff.mp read
      obtain ⟨rest, isRest, same⟩ := Option.bind_eq_some_iff.mp read
      obtain rfl : first :: rest = list := by simpa using same
      rcases List.mem_cons.mp member with rfl | later
      · exact ⟨offset, recordedAt_of_at? isFirst⟩
      · exact ih isRest later

/-- Every entry that is read is recorded by some header of the archive. -/
theorem recordedAt_of_mem_entries {list : List Entry} (read : entries file = some list)
    (member : entry ∈ list) :
    ∃ offset, entry.RecordedAt file offset := by
  obtain ⟨place, -, found⟩ := List.exists_of_findSome?_eq_some read
  obtain ⟨place, -, found⟩ := Option.bind_eq_some_iff.mp found
  unfold entriesAt at found
  split at found
  · exact recordedAt_of_readEntries found member
  · simp at found

end Directory

end SelfUpdate.Zip
