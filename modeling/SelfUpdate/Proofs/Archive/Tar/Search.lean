import SelfUpdate.Proofs.Archive.Tar.Layout

/-!
# Reading what was written

A reader of a written archive comes to each header in turn, whatever the data in between
looks like: it knows from the header before where the next one lies.  So the search for a
file goes from member to member, and ends at the first file that has the name, or at the
zeros behind the last member.
-/

namespace SelfUpdate.Tar

/-- A step that does not fail hands its value on. -/
private theorem ok_bind {α β : Type} (value : α) (next : α → Except Broken β) :
    (Except.ok value >>= next) = next value :=
  rfl

/-- A reader that has some bytes to pass before the rest of its stream. -/
structure Reader.Faces (reader : Reader) (passed rest : Bytes) (ends : Bool) : Prop where
  stream : reader.stream = ⟨passed ++ rest, ends⟩
  next : reader.next = reader.offset + passed.length

namespace Reader

variable {reader : Reader} {passed rest : Bytes} {ends : Bool}

/-- The reader that stands at some bytes, which come at an offset. -/
def standing (bytes : Bytes) (ends : Bool) (offset next : Nat) : Reader :=
  ⟨⟨bytes, ends⟩, offset, next⟩

theorem skip_of_faces (faces : reader.Faces passed rest ends) :
    reader.skip = .ok (standing rest ends reader.next reader.next) := by
  have count : reader.next - reader.offset = passed.length := by
    rw [faces.next, Nat.add_sub_cancel_left]
  have read : reader.read passed.length =
      .ok (passed, standing rest ends reader.next reader.next) := by
    rw [Reader.read, faces.stream, Stream.read]
    simp [standing, faces.next, bind, Except.bind, pure, Except.pure]
  rw [skip, count, read]
  simp [bind, Except.bind, pure, Except.pure]

theorem block_standing {block : Bytes} {offset next : Nat} (whole : block.length = blockSize) :
    (standing (block ++ rest) ends offset next).block =
      .ok (some block, standing rest ends (offset + blockSize) next) := by
  have read : (standing (block ++ rest) ends offset next).read blockSize =
      .ok (block, standing rest ends (offset + blockSize) next) := by
    rw [Reader.read, standing, Stream.read]
    simp [standing, ← whole, bind, Except.bind, pure, Except.pure]
  have filled : block.isEmpty = false := by
    cases block with
    | nil => simp [blockSize] at whole
    | cons byte bytes => rfl
  rw [Reader.block, read]
  simp [whole, filled, bind, Except.bind, pure, Except.pure]

end Reader

/-- The member that is read where one was written. -/
def Source.member (source : Source) : Member :=
  ⟨source.name, source.substance.isFile, source.substance.content.length⟩

section Written

variable {reader : Reader} {passed rest : Bytes} {ends : Bool} (source : Source)

/-- The reader behind the header of a written member. -/
def Source.entered (source : Source) (rest : Bytes) (ends : Bool) (offset : Nat) : Reader :=
  Reader.standing rest ends (offset + blockSize) (offset + source.layout.length)

theorem Source.length_data :
    source.data.length =
      (source.substance.content.length + (blockSize - 1)) / blockSize * blockSize := by
  simp only [Source.data, List.length_append, List.length_replicate, blockSize]
  omega

theorem Source.length_layout : source.layout.length = blockSize + source.data.length := by
  rw [Source.layout, List.length_append, Source.length_header]

theorem Source.header_not_zeros : source.header.all (· == 0) = false := by
  have short := source.details.length_sumEnding
  have digit : ∃ digit, digit ∈ octalDigits (8 - source.details.sumEnding.length)
      source.checksum := by
    rw [← List.length_pos_iff_exists_mem, length_octalDigits]
    omega
  obtain ⟨digit, member⟩ := digit
  have notNul : Text.asciiByte digit ≠ 0 :=
    octalDigits_induction (motive := fun digit => Text.asciiByte digit ≠ 0) (by decide) _ _
      digit member
  rw [List.all_eq_false]
  refine ⟨Text.asciiByte digit, ?_, by simpa using notNul⟩
  simp only [Source.header, numberField, List.mem_append]
  exact Or.inl (Or.inr (Or.inl (List.mem_map_of_mem member)))

theorem header_of_faces (faces : reader.Faces passed (source.header ++ rest) ends) :
    reader.header =
      .ok (some ⟨source.header⟩,
        Reader.standing rest ends (reader.next + blockSize) (reader.next + blockSize)) := by
  rw [Reader.header, Reader.skip_of_faces faces]
  change (Reader.block _ >>= _) = _
  rw [Reader.block_standing source.length_header]
  simp [source.header_not_zeros, source.isIntact_header, bind, Except.bind, pure, Except.pure,
    Reader.standing]

/-- Behind a header stands the data of the member, and its size is known, unless the data
lies at positions that are no numbers of 64 bits. -/
theorem readMember_of_faces (rounds : Nat)
    (faces : reader.Faces passed (source.header ++ rest) ends) :
    readMember (rounds + 1) .nothing reader =
      if reader.next + source.layout.length < UInt64.size then
        .ok (some (source.member, source.entered rest ends reader.next))
      else broken := by
  have size : memberSize ⟨source.header⟩ none = .ok source.substance.content.length := by
    simp [memberSize, source.size_header, required, bind, Except.bind, pure, Except.pure]
  have length := source.length_layout
  rw [source.length_data] at length
  have small : source.substance.content.length + (blockSize - 1) < UInt64.size :=
    Nat.lt_of_lt_of_le (Nat.add_lt_add_right source.content_length _) (by decide)
  have entered : (Reader.standing rest ends (reader.next + blockSize)
      (reader.next + blockSize)).enter source.substance.content.length =
        if reader.next + source.layout.length < UInt64.size then
          .ok (source.entered rest ends reader.next)
        else broken := by
    rw [Reader.enter, Source.entered, length, ← Nat.add_assoc]
    rw [decide_eq_true small, Bool.true_and]
    exact if_congr decide_eq_true_iff rfl rfl
  have path : memberPath ⟨source.header⟩ .nothing = source.name := by
    simp [memberPath, Announced.nothing, source.path_header]
  have announced : Announced.nothing.records = none := rfl
  rw [readMember, header_of_faces source faces, ok_bind]
  dsimp only
  rw [announced, size, ok_bind, entered]
  split
  · have kind := source.kind_header
    rw [ok_bind]
    cases isFile : source.substance.isFile <;>
      simp only [isFile, if_true, if_false, Bool.false_eq_true] at kind <;>
      simp only [kind, path, Source.member, isFile, pure, Except.pure] <;> rfl
  · rfl

/-- A file with the name that is searched for. -/
def Source.Matches (source : Source) (name : Bytes) : Bool :=
  source.substance.isFile && fileName source.name == some name

/-- At any depth, the name of a file is what stands behind the last slash. -/
theorem fileName_append_slash (directory : Bytes) {name : Bytes} (plain : 0x2f ∉ name)
    (named : name ∉ [[], [0x2e], [0x2e, 0x2e]]) :
    fileName (directory ++ 0x2f :: name) = some name := by
  simp only [List.mem_cons, List.not_mem_nil, or_false, not_or] at named
  obtain ⟨notEmpty, notCurrent, notParent⟩ := named
  have kept : (name != [] && name != [0x2e]) = true := by simp [notEmpty, notCurrent]
  rw [fileName, List.splitOn_append_cons_self, List.splitOn_eq_singleton plain,
    List.filter_append, List.filter_singleton, kept, cond_true, List.getLast?_append]
  simp [notParent]

variable {name : Bytes} {rounds : Nat}

theorem find_of_matches (faces : reader.Faces passed (source.header ++ rest) ends)
    (found : source.Matches name = true) :
    find name (rounds + 1) reader =
      if reader.next + source.layout.length < UInt64.size then
        .ok (some (source.member, Stream.limit ⟨rest, ends⟩ source.substance.content.length))
      else broken := by
  rw [find, readMember_of_faces source _ faces]
  split
  · rw [ok_bind]
    change (if source.Matches name = true then _ else _) = _
    rw [if_pos found]
    rfl
  · rfl

theorem find_of_not_matches (faces : reader.Faces passed (source.header ++ rest) ends)
    (other : source.Matches name = false) :
    find name (rounds + 1) reader =
      if reader.next + source.layout.length < UInt64.size then
        find name rounds (source.entered rest ends reader.next)
      else broken := by
  rw [find, readMember_of_faces source _ faces]
  split
  · rw [ok_bind]
    change (if source.Matches name = true then _ else _) = _
    rw [if_neg (by simp [other])]
  · rfl

end Written

/-- The blocks of zeros that end an archive. -/
def endBlocks (count : Nat) : Bytes :=
  List.replicate (count * blockSize) 0

theorem find_of_endBlocks {reader : Reader} {passed : Bytes} {count : Nat} (name : Bytes)
    (rounds : Nat) (faces : reader.Faces passed (endBlocks count) true) :
    find name (rounds + 1) reader = .ok none := by
  have header : ∃ after, reader.header = .ok (none, after) := by
    rw [Reader.header, Reader.skip_of_faces faces, ok_bind]
    cases count with
    | zero =>
        have nothing : endBlocks 0 = [] := by simp [endBlocks]
        rw [nothing]
        exact ⟨_, rfl⟩
    | succ count =>
        have first : endBlocks (count + 1) = List.replicate blockSize 0 ++ endBlocks count := by
          rw [endBlocks, Nat.succ_mul, Nat.add_comm, List.replicate_add, endBlocks]
        have zeros : (List.replicate blockSize (0 : UInt8)).all (· == 0) = true := by simp
        rw [first, Reader.block_standing List.length_replicate, ok_bind]
        dsimp only
        rw [if_pos zeros]
        exact ⟨_, rfl⟩
  obtain ⟨after, isEnd⟩ := header
  rw [find, readMember, isEnd]
  rfl

/-- The members up to the first file with a name, which are all that are looked at. -/
def searched (name : Bytes) : List Source → List Source
  | [] => []
  | source :: sources =>
      if source.Matches name then [source] else source :: searched name sources

/-- The search goes from member to member, up to the first file with the name. -/
theorem find_of_sources {reader : Reader} {passed : Bytes} {rounds count : Nat} (name : Bytes)
    (sources : List Source)
    (faces : reader.Faces passed (sources.flatMap Source.layout ++ endBlocks count) true)
    (possible : reader.next < UInt64.size) (enough : sources.length < rounds) :
    find name rounds reader =
      if reader.next + ((searched name sources).flatMap Source.layout).length < UInt64.size then
        .ok ((sources.find? (·.Matches name)).map fun source =>
          (source.member, .ofBytes source.substance.content))
      else broken := by
  -- The reader faces the members that are left, and has one round for each of them.
  induction sources generalizing reader passed rounds with
  | nil =>
      obtain ⟨rounds, rfl⟩ := Nat.exists_eq_succ_of_ne_zero (Nat.ne_of_gt enough)
      rw [find_of_endBlocks name rounds faces, searched, List.flatMap_nil, List.length_nil,
        Nat.add_zero, if_pos possible]
      rfl
  | cons source sources ih =>
      obtain ⟨rounds, rfl⟩ :=
        Nat.exists_eq_succ_of_ne_zero (Nat.ne_of_gt (Nat.zero_lt_of_lt enough))
      let rest := source.data ++ (sources.flatMap Source.layout ++ endBlocks count)
      have faces : reader.Faces passed (source.header ++ rest) true := by
        simpa [rest, Source.layout] using faces
      cases matching : source.Matches name with
      | true =>
          rw [find_of_matches source faces matching]
          simp [searched, matching, rest, Source.data, Stream.limit, Stream.ofBytes]
      | false =>
          have further : (source.entered rest true reader.next).Faces source.data
              (sources.flatMap Source.layout ++ endBlocks count) true := by
            refine ⟨rfl, ?_⟩
            rw [Source.entered, Reader.standing, source.length_layout, Nat.add_assoc]
          have next : (source.entered rest true reader.next).next =
              reader.next + source.layout.length := rfl
          rw [find_of_not_matches source faces matching]
          simp only [searched, matching, List.find?_cons, Bool.false_eq_true, if_false,
            List.flatMap_cons, List.length_append, ← Nat.add_assoc]
          -- If the end of this member cannot be counted, that of a later one cannot either.
          by_cases fits : reader.next + source.layout.length < UInt64.size
          · rw [if_pos fits, ih further fits (Nat.lt_of_succ_lt_succ enough), next]
          · rw [if_neg fits, if_neg (by omega)]

end SelfUpdate.Tar
