import Mathlib.Data.PFun
import SelfUpdate.Archive.Stream

/-!
# Readers of byte streams

A reader is asked for bytes again and again, each time with room for some.  It gives as many
as it likes, but no more than there is room for, and none at all only if there are no more.  It
may also be interrupted, which is no reason to give up, or fail.

How many bytes a reader gives at a time, and how often it is interrupted, makes no difference
to the stream of bytes that it delivers.  Whoever reads to the end gets this stream, or its
failure, however much room there is each time.
-/

namespace SelfUpdate

/-- What a reader answers when it is asked for bytes: some bytes, of which there are none only at
the end, or that it is to be asked again, or that it has failed. -/
inductive Reading (ε : Type) where
  | chunk (bytes : Bytes)
  | interrupted
  | failed (error : ε)

namespace Reading

variable {ε : Type}

def count : Reading ε → Nat
  | .chunk bytes => bytes.length
  | .interrupted => 0
  | .failed _ => 0

def isLast : Reading ε → Bool
  | .chunk bytes => bytes.isEmpty
  | .interrupted => false
  | .failed _ => true

end Reading

/-- A reader with a state of its own.  It never gives more than there is room for. -/
structure Reader (σ ε : Type) where
  read : (room : Nat) → σ → Reading ε × σ
  fits : ∀ room state, (read room state).1.count ≤ room

/-- A stream of bytes that ends, or fails with an error, behind the last one. -/
structure Source (ε : Type) where
  bytes : Bytes
  fault : Option ε

namespace Source

variable {ε : Type}

/-- What is left when the error is forgotten. -/
def stream (source : Source ε) : Stream :=
  ⟨source.bytes, source.fault.isNone⟩

/-- The first bytes of a stream.  What comes behind them is never noticed. -/
def limit (source : Source ε) (count : Nat) : Source ε :=
  ⟨source.bytes.take count, if count ≤ source.bytes.length then none else source.fault⟩

def collected (source : Source ε) : Except ε Bytes :=
  match source.fault with
  | none => .ok source.bytes
  | some error => .error error

/-- What may be read of a stream at once, and what is then left of it. -/
inductive Gives : Source ε → Reading ε → Source ε → Prop
  | chunk {bytes : Bytes} (notEmpty : bytes ≠ []) (left : Source ε) :
      Gives ⟨bytes ++ left.bytes, left.fault⟩ (.chunk bytes) left
  | interrupted (source : Source ε) : Gives source .interrupted source
  | ended : Gives ⟨[], none⟩ (.chunk []) ⟨[], none⟩
  | failed (error : ε) : Gives ⟨[], some error⟩ (.failed error) ⟨[], some error⟩

variable {source left : Source ε} {reading : Reading ε} {room count : Nat}

theorem stream_limit (source : Source ε) (count : Nat) :
    (source.limit count).stream = source.stream.limit count := by
  by_cases within : count ≤ source.bytes.length <;> simp [limit, stream, Stream.limit, within]

theorem limit_zero (source : Source ε) : source.limit 0 = ⟨[], none⟩ := by
  simp [limit]

theorem limit_of_length_lt (short : source.bytes.length < count) : source.limit count = source := by
  simp [limit, List.take_of_length_le (Nat.le_of_lt short), Nat.not_le.mpr short]

theorem limit_limit (source : Source ε) {count larger : Nat} (le : count ≤ larger) :
    (source.limit larger).limit count = source.limit count := by
  rcases Nat.lt_or_ge source.bytes.length larger with short | long
  · rw [limit_of_length_lt short]
  · have within : count ≤ source.bytes.length := Nat.le_trans le long
    have withinBoth : count ≤ min larger source.bytes.length := Nat.le_min.mpr ⟨le, within⟩
    simp [limit, List.take_take, List.length_take, Nat.min_eq_left le, within, withinBoth]

theorem limit_append {bytes : Bytes} (fits : bytes.length ≤ count) (left : Source ε) :
    limit ⟨bytes ++ left.bytes, left.fault⟩ count =
      ⟨bytes ++ (left.limit (count - bytes.length)).bytes,
        (left.limit (count - bytes.length)).fault⟩ := by
  have same : count ≤ bytes.length + left.bytes.length ↔
      count - bytes.length ≤ left.bytes.length := by
    omega
  simp [limit, List.take_append, List.take_of_length_le fits, same]

/-- What is read of a stream is also read of its beginning, if that is not too short. -/
theorem Gives.limit (gives : source.Gives reading left) (fits : reading.count ≤ count)
    (more : 0 < count) :
    (source.limit count).Gives reading (left.limit (count - reading.count)) := by
  cases gives with
  | chunk notEmpty left =>
      rw [limit_append fits]
      exact .chunk notEmpty _
  | interrupted => exact .interrupted _
  | ended =>
      have same (count : Nat) : (⟨[], none⟩ : Source ε).limit count = ⟨[], none⟩ := by
        simp [Source.limit]
      rw [same, same]
      exact .ended
  | failed error =>
      rw [Reading.count, Nat.sub_zero, limit_of_length_lt more]
      exact .failed error

end Source

namespace Reader

variable {σ ε : Type}

/-- A reader delivers a stream from a state on: whatever room there is, it gives a part of the
stream and then delivers what is left of it.  It is not interrupted forever. -/
inductive Delivers (reader : Reader σ ε) : σ → Source ε → Prop
  | intro {state : σ} {source : Source ε} (left : Nat → Source ε)
      (gives : ∀ room, 0 < room → source.Gives (reader.read room state).1 (left room))
      (goesOn : ∀ room, 0 < room → (reader.read room state).1.isLast = false →
        Delivers reader (reader.read room state).2 (left room)) :
      Delivers reader state source

/-- One read on the way to the end: the result, or the round, the bytes and the state to go on
with.  The room that there is may be different in each round, but there is some. -/
def readStep (reader : Reader σ ε) (rooms : Nat → Nat) :
    Nat × Bytes × σ → (Except ε Bytes × σ) ⊕ (Nat × Bytes × σ)
  | (round, buffer, state) =>
      match reader.read (rooms round + 1) state with
      | (.chunk [], after) => .inl (.ok buffer, after)
      | (.chunk (byte :: bytes), after) => .inr (round + 1, buffer ++ byte :: bytes, after)
      | (.interrupted, after) => .inr (round + 1, buffer, after)
      | (.failed error, after) => .inl (.error error, after)

/-- Read on until the end or a failure.  There is no result if neither comes. -/
def readToEnd (reader : Reader σ ε) (rooms : Nat → Nat) (progress : Nat × Bytes × σ) :
    Part (Except ε Bytes × σ) :=
  PFun.fix (fun progress => Part.some (reader.readStep rooms progress)) progress

/-- The reader that ends after a number of bytes.  Its state counts those that it has taken. -/
def take (reader : Reader σ ε) (most : Nat) : Reader (Nat × σ) ε where
  read room state :=
    if most ≤ state.1 then (.chunk [], state)
    else
      let (reading, after) := reader.read (min room (most - state.1)) state.2
      (reading, state.1 + reading.count, after)
  fits room state := by
    dsimp only
    split
    · simp [Reading.count]
    · exact Nat.le_trans (reader.fits _ _) (Nat.min_le_left _ _)

section Rounds

variable {reader : Reader σ ε} {rooms : Nat → Nat} {progress : Nat × Bytes × σ}

theorem readToEnd_of_stops {result : Except ε Bytes × σ}
    (stops : reader.readStep rooms progress = .inl result) :
    reader.readToEnd rooms progress = .some result :=
  Part.eq_some_iff.mpr (PFun.fix_stop (Part.mem_some_iff.mpr stops.symm))

theorem readToEnd_of_goes {further : Nat × Bytes × σ}
    (goes : reader.readStep rooms progress = .inr further) :
    reader.readToEnd rooms progress = reader.readToEnd rooms further :=
  PFun.fix_fwd_eq (Part.mem_some_iff.mpr goes.symm)

end Rounds

section Take

variable (reader : Reader σ ε) (room : Nat) (state : σ) {taken most : Nat}

theorem read_take_of_le (full : most ≤ taken) :
    (reader.take most).read room (taken, state) = (.chunk [], taken, state) := by
  simp [take, full]

theorem read_take_of_lt (more : taken < most) :
    (reader.take most).read room (taken, state) =
      ((reader.read (min room (most - taken)) state).1,
        taken + (reader.read (min room (most - taken)) state).1.count,
        (reader.read (min room (most - taken)) state).2) := by
  simp [take, Nat.not_le.mpr more]

theorem count_read_min_le :
    (reader.read (min room (most - taken)) state).1.count ≤ most - taken :=
  Nat.le_trans (reader.fits _ state) (Nat.min_le_right _ _)

theorem taken_read_take_le (within : taken ≤ most) :
    ((reader.take most).read room (taken, state)).2.1 ≤ most := by
  rcases Nat.lt_or_ge taken most with more | full
  · rw [read_take_of_lt reader room state more]
    have fits : (reader.read (min room (most - taken)) state).1.count ≤ most - taken :=
      reader.count_read_min_le room state
    dsimp only
    omega
  · rwa [read_take_of_le reader room state full]

end Take

section Delivers

variable {reader : Reader σ ε} {state : σ} {source : Source ε}

theorem take_delivers (delivers : reader.Delivers state source) {taken most : Nat}
    (within : taken ≤ most) :
    (reader.take most).Delivers (taken, state) (source.limit (most - taken)) := by
  induction delivers generalizing taken with
  | @intro state source left gives goesOn ih =>
      rcases Nat.lt_or_ge taken most with more | full
      · have someRoom {room : Nat} (some : 0 < room) : 0 < min room (most - taken) :=
          Nat.lt_min.mpr ⟨some, Nat.sub_pos_of_lt more⟩
        refine .intro (fun room => (left (min room (most - taken))).limit
          (most - (taken + (reader.read (min room (most - taken)) state).1.count)))
          (fun room some => ?_) fun room some goes => ?_
        · rw [read_take_of_lt reader room state more, ← Nat.sub_sub]
          exact (gives _ (someRoom some)).limit (reader.count_read_min_le room state)
            (Nat.sub_pos_of_lt more)
        · have stillWithin := reader.taken_read_take_le room state within
          rw [read_take_of_lt reader room state more] at goes stillWithin ⊢
          exact ih _ (someRoom some) goes stillWithin
      · have nothing : source.limit (most - taken) = ⟨[], none⟩ := by
          rw [Nat.sub_eq_zero_of_le full, Source.limit_zero]
        rw [nothing]
        refine .intro (fun _ => ⟨[], none⟩) (fun room _ => ?_) fun room _ goes => ?_
        · rw [read_take_of_le reader room state full]
          exact .ended
        · rw [read_take_of_le reader room state full] at goes
          simp [Reading.isLast] at goes

/-- Whoever reads to the end gets the whole stream, or its failure.  Whatever every read keeps
is still so in the end. -/
theorem readToEnd_of_delivers (delivers : reader.Delivers state source) {kept : σ → Prop}
    (keeps : ∀ room state, kept state → kept (reader.read room state).2) (start : kept state)
    (rooms : Nat → Nat) (round : Nat) (buffer : Bytes) :
    ∃ after, kept after ∧ reader.readToEnd rooms (round, buffer, state) =
      .some (source.collected.map (buffer ++ ·), after) := by
  -- The induction is on the delivery: each round leaves less of the stream, or is one of the
  -- interruptions, of which there are not infinitely many in a row.
  induction delivers generalizing round buffer with
  | @intro state source left gives goesOn ih =>
      have room : 0 < rooms round + 1 := Nat.succ_pos _
      have given := gives _ room
      have later := ih _ room
      have keptAfter := keeps (rooms round + 1) state start
      rcases answered : reader.read (rooms round + 1) state with ⟨reading, after⟩
      rw [answered] at given later keptAfter
      generalize left (rooms round + 1) = rest at given later
      cases given with
      | @chunk bytes notEmpty =>
          obtain ⟨byte, more, rfl⟩ := List.exists_cons_of_ne_nil notEmpty
          obtain ⟨final, keptFinal, ended⟩ :=
            later rfl keptAfter (round + 1) (buffer ++ byte :: more)
          have goes : reader.readStep rooms (round, buffer, state) =
              .inr (round + 1, buffer ++ byte :: more, after) := by
            simp [readStep, answered]
          refine ⟨final, keptFinal, ?_⟩
          rw [readToEnd_of_goes goes, ended]
          cases fault : rest.fault <;> simp [Source.collected, fault, Except.map]
      | interrupted =>
          have goes : reader.readStep rooms (round, buffer, state) =
              .inr (round + 1, buffer, after) := by
            simp [readStep, answered]
          rw [readToEnd_of_goes goes]
          exact later rfl keptAfter (round + 1) buffer
      | ended =>
          have stops : reader.readStep rooms (round, buffer, state) =
              .inl (.ok buffer, after) := by
            simp [readStep, answered]
          exact ⟨after, keptAfter, by
            simp [readToEnd_of_stops stops, Source.collected, Except.map]⟩
      | failed error =>
          have stops : reader.readStep rooms (round, buffer, state) =
              .inl (.error error, after) := by
            simp [readStep, answered]
          exact ⟨after, keptAfter, readToEnd_of_stops stops⟩

end Delivers

end Reader

end SelfUpdate
