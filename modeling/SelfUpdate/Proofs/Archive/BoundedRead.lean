import Mathlib.Data.List.ReduceOption
import SelfUpdate.Proofs.Archive.Limit
import SelfUpdate.Proofs.Archive.Reader

/-!
# Reading no more than a limit

To find out whether a stream goes beyond a limit, one byte more than the limit is asked for.
If that byte comes, the stream is too large, whatever follows.  If it does not, the read has
come to the end of the stream or to its failure.  So the three outcomes tell the streams apart,
and this is how reading a stream at once decides.

Only the greatest limit leaves no room for one byte more.  There the read stops at the last byte
that can be counted in 64 bits.
-/

namespace SelfUpdate

/-- How a bounded read of a reader ends. -/
inductive ReadOutcome (ε : Type) where
  | complete (bytes : Bytes)
  | tooLarge
  | failed (error : ε)

namespace ReadOutcome

variable {ε : Type}

/-- What becomes of the bytes that were read to the end, at most one more than the limit. -/
def ofResult (limit : UInt64) : Except ε Bytes → ReadOutcome ε
  | .error error => .failed error
  | .ok bytes => if limit.toNat < bytes.length then .tooLarge else .complete bytes

def bounded : ReadOutcome ε → Bounded
  | .complete bytes => .complete bytes
  | .tooLarge => .tooLarge
  | .failed _ => .broken

end ReadOutcome

/-- Read to the end of a reader, taking at most one byte more than a limit.  The result comes
with the number of bytes that were taken. -/
def Reader.readBounded {σ ε : Type} (reader : Reader σ ε) (rooms : Nat → Nat) (limit : UInt64)
    (state : σ) : Part (ReadOutcome ε × Nat × σ) :=
  let asked := min (limit.toNat + 1) (UInt64.size - 1)
  ((reader.take asked).readToEnd rooms (0, [], 0, state)).map fun ended =>
    (.ofResult limit ended.1, ended.2)

namespace Source

variable {ε : Type} {source : Source ε} {limit : UInt64}

/-- A stream as far as its bytes can be counted in 64 bits. -/
def counted (source : Source ε) : Source ε :=
  source.limit greatestLimit.toNat

/-- An outcome says what the stream is like, up to the limit. -/
structure Classified (source : Source ε) (limit : UInt64) (outcome : ReadOutcome ε) : Prop where
  complete_iff : ∀ bytes, outcome = .complete bytes ↔
    source = ⟨bytes, none⟩ ∧ bytes.length ≤ limit.toNat
  tooLarge_iff : outcome = .tooLarge ↔
    limit.toNat < 2 ^ 64 - 1 ∧ limit.toNat + 1 ≤ source.bytes.length
  failed_iff : ∀ error, outcome = .failed error ↔
    source.fault = some error ∧ source.bytes.length ≤ limit.toNat

theorem bounded_ofResult (source : Source ε) (limit : UInt64) :
    (ReadOutcome.ofResult limit
        (source.limit (min (limit.toNat + 1) (UInt64.size - 1))).collected).bounded =
      source.stream.readBounded limit := by
  simp only [Stream.readBounded, ← stream_limit]
  generalize source.limit _ = part
  obtain ⟨bytes, fault⟩ := part
  cases fault with
  | some error => rfl
  | none =>
      by_cases beyond : limit.toNat < bytes.length <;>
        simp [collected, ReadOutcome.ofResult, ReadOutcome.bounded, stream, beyond]

theorem classified_of_length_le (within : source.bytes.length ≤ limit.toNat) :
    source.Classified limit (.ofResult limit source.collected) := by
  obtain ⟨bytes, fault⟩ := source
  have notBeyond : ¬limit.toNat + 1 ≤ bytes.length := Nat.not_le.mpr (Nat.lt_succ_of_le within)
  cases fault with
  | none =>
      have outcome : ReadOutcome.ofResult limit (⟨bytes, none⟩ : Source ε).collected =
          .complete bytes :=
        if_neg (Nat.not_lt.mpr within)
      rw [outcome]
      refine ⟨fun other => ?_, ?_, fun error => ?_⟩
      · constructor
        · intro same
          obtain rfl := ReadOutcome.complete.inj same
          exact ⟨rfl, within⟩
        · rintro ⟨same, -⟩
          rw [(Source.mk.inj same).1]
      · simp [notBeyond]
      · simp
  | some error =>
      have outcome : ReadOutcome.ofResult limit (collected ⟨bytes, some error⟩) =
          .failed error :=
        rfl
      rw [outcome]
      refine ⟨fun other => ?_, ?_, fun reason => ?_⟩
      · simp
      · simp [notBeyond]
      · simp [within]

/-- One byte more than the limit tells that the stream is too large for it. -/
theorem classified_of_lt (notGreatest : limit < greatestLimit) :
    source.Classified limit (.ofResult limit
      (source.limit (min (limit.toNat + 1) (UInt64.size - 1))).collected) := by
  have less : limit.toNat < UInt64.size - 1 := UInt64.lt_iff_toNat_lt.mp notGreatest
  have asked : min (limit.toNat + 1) (UInt64.size - 1) = limit.toNat + 1 := Nat.min_eq_left less
  rw [asked]
  rcases Nat.lt_or_ge source.bytes.length (limit.toNat + 1) with short | long
  · rw [limit_of_length_lt short]
    exact classified_of_length_le (Nat.le_of_lt_succ short)
  · have outcome : ReadOutcome.ofResult limit (source.limit (limit.toNat + 1)).collected =
        .tooLarge := by
      have full : (source.bytes.take (limit.toNat + 1)).length = limit.toNat + 1 :=
        List.length_take_of_le long
      simp [Source.limit, collected, ReadOutcome.ofResult, long, full]
    rw [outcome]
    refine ⟨fun bytes => ?_, ?_, fun error => ?_⟩
    · simp only [reduceCtorEq, false_iff]
      rintro ⟨rfl, within⟩
      exact absurd long (Nat.not_le.mpr (Nat.lt_succ_of_le within))
    · exact iff_of_true rfl ⟨less, long⟩
    · simp only [reduceCtorEq, false_iff]
      rintro ⟨-, within⟩
      exact absurd long (Nat.not_le.mpr (Nat.lt_succ_of_le within))

theorem counted_of_length_lt (short : source.bytes.length < greatestLimit.toNat) :
    source.counted = source :=
  limit_of_length_lt short

theorem classified_counted (source : Source ε) (limit : UInt64) :
    source.counted.Classified limit (.ofResult limit
      (source.limit (min (limit.toNat + 1) (UInt64.size - 1))).collected) := by
  have same : source.counted.limit (min (limit.toNat + 1) (UInt64.size - 1)) =
      source.limit (min (limit.toNat + 1) (UInt64.size - 1)) :=
    limit_limit source (Nat.min_le_right _ _)
  rcases Nat.lt_or_eq_of_le (toNat_le_greatestLimit limit) with less | isGreatest
  · rw [← same]
    exact classified_of_lt (UInt64.lt_iff_toNat_lt.mpr less)
  · obtain rfl := UInt64.toNat_inj.mp isGreatest
    have within : source.counted.bytes.length ≤ greatestLimit.toNat := List.length_take_le _ _
    exact classified_of_length_le within

end Source

namespace Reader

variable {σ ε : Type} {reader : Reader σ ε} {state : σ} {source : Source ε}

theorem readBounded_of_delivers (delivers : reader.Delivers state source) (rooms : Nat → Nat)
    (limit : UInt64) :
    ∃ taken after, taken ≤ limit.toNat + 1 ∧ reader.readBounded rooms limit state =
      .some (.ofResult limit
        (source.limit (min (limit.toNat + 1) (UInt64.size - 1))).collected, taken, after) := by
  let asked := min (limit.toNat + 1) (UInt64.size - 1)
  have taking := take_delivers delivers (Nat.zero_le asked)
  obtain ⟨⟨taken, after⟩, within, ended⟩ := readToEnd_of_delivers taking
    (fun room state within => reader.taken_read_take_le room state.2 within) (Nat.zero_le asked)
    rooms 0 []
  have sameResult (result : Except ε Bytes) : result.map ([] ++ ·) = result := by
    cases result <;> rfl
  rw [Nat.sub_zero, sameResult] at ended
  refine ⟨taken, after, Nat.le_trans within (Nat.min_le_left _ _), ?_⟩
  change ((reader.take asked).readToEnd rooms (0, [], 0, state)).map _ = _
  rw [ended, Part.map_some]

/-- A bounded read always comes to an end, takes at most one byte more than the limit, and its
outcome tells what stream the reader delivers.  That stream is the whole one, unless the limit is
the greatest: then the read ends at the last byte that can be counted.  It is decided in the same
way for a stream that is read at once. -/
theorem readBounded_classifies (delivers : reader.Delivers state source) (rooms : Nat → Nat)
    (limit : UInt64) :
    ∃ outcome taken after,
      reader.readBounded rooms limit state = .some (outcome, taken, after) ∧
        taken ≤ limit.toNat + 1 ∧
        source.counted.Classified limit outcome ∧
        ((limit = greatestLimit → source.counted = source) → source.Classified limit outcome) ∧
        (source.bytes.length < greatestLimit.toNat → source.counted = source) ∧
        outcome.bounded = source.stream.readBounded limit := by
  obtain ⟨taken, after, within, ended⟩ := readBounded_of_delivers delivers rooms limit
  refine ⟨_, taken, after, ended, within, source.classified_counted limit, fun same => ?_,
    Source.counted_of_length_lt, source.bounded_ofResult limit⟩
  by_cases isGreatest : limit = greatestLimit
  · have counted := source.classified_counted limit
    rwa [same isGreatest] at counted
  · have less : limit < greatestLimit := by
      refine UInt64.lt_iff_toNat_lt.mpr (Nat.lt_of_le_of_ne (toNat_le_greatestLimit limit) ?_)
      exact fun sameNat => isGreatest (UInt64.toNat_inj.mp sameNat)
    exact Source.classified_of_lt less

section Sample

/-- A reader that gives one byte at a time, with interruptions between some of them. -/
def halting (fault : Option ε) : Reader (List (Option UInt8)) ε where
  read
    | 0, script => (.chunk [], script)
    | _ + 1, some byte :: script => (.chunk [byte], script)
    | _ + 1, none :: script => (.interrupted, script)
    | _ + 1, [] =>
        match fault with
        | none => (.chunk [], [])
        | some error => (.failed error, [])
  fits room script := by
    rcases room with _ | room
    · exact Nat.le_refl 0
    · rcases script with _ | ⟨_ | byte, script⟩
      · cases fault <;> exact Nat.zero_le _
      · exact Nat.zero_le _
      · exact Nat.succ_le_succ (Nat.zero_le room)

theorem delivers_halting (fault : Option ε) (script : List (Option UInt8)) :
    (halting fault).Delivers script ⟨script.reduceOption, fault⟩ := by
  induction script with
  | nil =>
      refine .intro (fun _ => ⟨[], fault⟩) (fun room more => ?_) fun room more goes => ?_
      all_goals obtain ⟨room, rfl⟩ := Nat.exists_eq_add_of_lt more
      · cases fault with
        | none => exact .ended
        | some error => exact .failed error
      · cases fault <;> simp [halting, Reading.isLast] at goes
  | cons entry script ih =>
      refine .intro (fun _ => ⟨script.reduceOption, fault⟩) (fun room more => ?_)
        fun room more _ => ?_
      all_goals obtain ⟨room, rfl⟩ := Nat.exists_eq_add_of_lt more
      · cases entry with
        | none => exact .interrupted _
        | some byte =>
            rw [List.reduceOption_cons_of_some]
            exact .chunk (List.cons_ne_nil byte []) ⟨script.reduceOption, fault⟩
      · cases entry <;> exact ih

theorem readBounded_of_halting :
    let reader := halting (some "reset")
    let script := [some 1, none, some 2, some 3]
    reader.Delivers script ⟨[1, 2, 3], some "reset"⟩ ∧
      (∃ taken after, reader.readBounded (fun _ => 31) 2 script = .some (.tooLarge, taken, after) ∧
        taken ≤ 3) ∧
      ∃ taken after, reader.readBounded (fun _ => 31) 3 script =
        .some (.failed "reset", taken, after) ∧ taken ≤ 4 := by
  intro reader script
  have delivers : reader.Delivers script ⟨[1, 2, 3], some "reset"⟩ :=
    delivers_halting (some "reset") script
  refine ⟨delivers, ?_, ?_⟩
  · obtain ⟨outcome, taken, after, ended, within, -, classified, short, -⟩ :=
      readBounded_classifies delivers (fun _ => 31) 2
    have tooLarge := (classified fun _ => short (by decide)).tooLarge_iff.mpr (by decide)
    exact ⟨taken, after, tooLarge ▸ ended, within⟩
  · obtain ⟨outcome, taken, after, ended, within, -, classified, short, -⟩ :=
      readBounded_classifies delivers (fun _ => 31) 3
    have failed := ((classified fun _ => short (by decide)).failed_iff "reset").mpr ⟨rfl, by decide⟩
    exact ⟨taken, after, failed ▸ ended, within⟩

end Sample

end Reader

end SelfUpdate
