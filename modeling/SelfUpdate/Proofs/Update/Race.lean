import SelfUpdate.Proofs.Update.Composition
import SelfUpdate.Proofs.Update.Gating

/-!
# A transfer against a signal

In every turn of a race the signal is looked at first.  So the race is cancelled exactly if
the signal is there no later than the end of the transfer, and else it goes on as if there
were no signal.

A program is put into surroundings where each download is such a race.  To a program that
downloads nothing the signal makes no difference there.
-/

namespace SelfUpdate

open Program

section Race

variable {α : Type} {signal : Signal} {transfer : Transfer α}

/-- What a turn of the race shows: whether the signal is there, and only if it is not,
whether the transfer has completed. -/
def lookAt (signal : Signal) (transfer : Transfer α) (turn : Nat) : Option (RaceOutcome α) :=
  if signal.any (· ≤ turn) then some .cancelled
  else
    match transfer with
    | some (completed, value) => if completed ≤ turn then some (.finished value) else none
    | none => none

/-- The signal is there no later than the end of the transfer. -/
def Cuts (signal : Signal) (transfer : Transfer α) : Prop :=
  ∃ fired, signal = some fired ∧
    ∀ completed value, transfer = some (completed, value) → fired ≤ completed

theorem race_eq_cancelled_iff : race signal transfer = .cancelled ↔ Cuts signal transfer := by
  rcases signal with _ | fired <;> rcases transfer with _ | ⟨completed, value⟩
  · simp [race, Cuts]
  · simp [race, Cuts]
  · simp [race, Cuts]
  · by_cases early : fired ≤ completed <;> simp [race, Cuts, early]

/-- A signal that does not cut a transfer is as good as none. -/
theorem race_of_not_cuts (late : ¬Cuts signal transfer) :
    race signal transfer = race none transfer := by
  rcases signal with _ | fired <;> rcases transfer with _ | ⟨completed, value⟩
  · rfl
  · rfl
  · simp [Cuts] at late
  · have notEarly : ¬fired ≤ completed := by simpa [Cuts] using late
    simp [race, notEarly]

theorem cuts_zero (transfer : Transfer α) : Cuts (some 0) transfer :=
  ⟨0, rfl, fun completed _ _ => Nat.zero_le completed⟩

theorem not_cuts_none : ¬Cuts none transfer := by
  simp [Cuts]

/-- The race ends in the first turn that shows anything, with what is shown there. -/
theorem race_eq_of_lookAt {turn : Nat} {outcome : RaceOutcome α}
    (shown : lookAt signal transfer turn = some outcome)
    (first : ∀ earlier < turn, lookAt signal transfer earlier = none) :
    race signal transfer = outcome := by
  rcases signal with _ | fired <;> rcases transfer with _ | ⟨completed, value⟩
  · simp [lookAt] at shown
  · obtain ⟨-, rfl⟩ : completed ≤ turn ∧ .finished value = outcome := by
      simpa [lookAt] using shown
    rfl
  · obtain ⟨-, rfl⟩ : fired ≤ turn ∧ .cancelled = outcome := by simpa [lookAt] using shown
    rfl
  by_cases early : fired ≤ completed
  · rw [race, if_pos early]
    have seen : fired ≤ turn := by
      by_contra unseen
      have uncompleted : ¬completed ≤ turn := by omega
      simp [lookAt, unseen, uncompleted] at shown
    simpa [lookAt, seen] using shown
  · rw [race, if_neg early]
    have unseen : ¬fired ≤ turn := by
      -- The transfer would have been found complete before.
      intro seen
      have before := first completed (by omega)
      simp [lookAt, early] at before
    simp only [lookAt, Option.any_some, decide_eq_true_eq, unseen, if_false] at shown
    split at shown
    · exact Option.some.inj shown
    · simp at shown

theorem race_eq_endless_iff :
    race signal transfer = .endless ↔ ∀ turn, lookAt signal transfer turn = none := by
  constructor
  · intro endless
    rcases signal with _ | fired <;> rcases transfer with _ | ⟨completed, value⟩
    · simp [lookAt]
    · simp [race] at endless
    · simp [race] at endless
    · by_cases early : fired ≤ completed <;> simp [race, early] at endless
  · intro nothing
    rcases signal with _ | fired
    · rcases transfer with _ | ⟨completed, value⟩
      · rfl
      · have shown := nothing completed
        simp [lookAt] at shown
    · have shown := nothing fired
      simp [lookAt] at shown

end Race

section Racing

variable {Handle σ : Type}

/-- What the download is answered with when the race has ended. -/
def RaceOutcome.answer {α : Type} : RaceOutcome α → Option (Option α)
  | .cancelled => some none
  | .finished value => some (some value)
  | .endless => none

/-- The surroundings in which a download is a race between a transfer and the user's signal,
and in which every notice is taken.  The rest is up to the environment. -/
def racing (environment : Handler Handle σ)
    (transfer : String → Transfer (Except NetworkError Bytes)) (signal : Signal) :
    Handler Handle σ
  | .download url, state => ((race signal (transfer url)).answer, state)
  | .notify _, state => (some (), state)
  | request, state => environment request state

variable {environment : Handler Handle σ}
  {transfer other : String → Transfer (Except NetworkError Bytes)} {signal another : Signal}

theorem racing_of_not_fetch {request : Request Handle}
    (notFetch : request.consultation? ≠ some .fetch) :
    racing environment transfer signal request = racing environment other another request := by
  cases request with
  | download url => simp [Request.consultation?] at notFetch
  | _ => rfl

/-- A run in memory is one of these, whatever the signal is. -/
theorem Collaborators.handler_signal (collaborators : Collaborators) (host : Host)
    (signal : Signal) :
    { collaborators with signal := signal }.handler host =
      racing (collaborators.handler host) collaborators.transfer signal := by
  funext request memory
  cases request with
  | download url =>
      simp only [handler, racing, download]
      cases race signal (collaborators.transfer url) <;> rfl
  | _ => rfl

theorem transferBegins_eq_false_iff : transferBegins signal = false ↔ signal = some 0 := by
  simp [transferBegins]

/-- What a transfer would have brought does not matter if it does not begin. -/
theorem racing_of_not_begins (environment : Handler Handle σ)
    (transfer other : String → Transfer (Except NetworkError Bytes))
    (first : transferBegins signal = false) :
    racing environment transfer signal = racing environment other signal := by
  obtain rfl := transferBegins_eq_false_iff.mp first
  funext request state
  cases request with
  | download url => simp only [racing, race_eq_cancelled_iff.mpr (cuts_zero _)]
  | _ => rfl

section Silent

variable {α : Type} {program : Program Handle α}
  (silent : program.Uses fun request => request.consultation? ≠ some .fetch)

include silent

theorem run_racing (signal : Signal) (state : σ) :
    program.run (racing environment transfer signal) state =
      program.run (racing environment transfer none) state :=
  run_eq_of_uses (fun _ => racing_of_not_fetch) silent state

theorem exchanges_racing (signal : Signal) (state : σ) :
    program.exchanges (racing environment transfer signal) state =
      program.exchanges (racing environment transfer none) state :=
  exchanges_eq_of_uses (fun _ => racing_of_not_fetch) silent state

end Silent

end Racing

end SelfUpdate
