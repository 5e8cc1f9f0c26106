import SelfUpdate.Proofs.Update.Race

/-!
# Cancelling an update

The user's signal is looked at during the download, in turns with the transfer, and at
no other time.  So a run with a signal goes the way of the run without one up to the
download.  There it either ends at once, with nothing changed, or it goes on as if there
were no signal.

It ends there exactly if the signal is seen no later than in the turn in which the
transfer completes.  A signal that is there from the start keeps the transfer from being
looked at, but whatever comes before the download still happens.
-/

namespace SelfUpdate

open Program

namespace Updater

variable {Handle : Type} (updater : Updater) (options : UpdateOptions)

/-- What has been settled when an update is about to fetch. -/
inductive Agreement where
  | upToDate (version : Version)
  | agreed (slot : ExecutableSlot) (version : Version)

/-- The part of an update before the download. -/
def approach : Program Handle (Except UpdateError Agreement) :=
  preflight.orElse .preflight |>.andThen fun slot =>
  (resolveVersion updater options).orElse .version |>.andThen fun
    | .upToDate version => .done (.ok (.upToDate version))
    | .update _ version =>
        (confirmUpdate options version).andThen fun _ => .done (.ok (.agreed slot version))

/-- The part of an update after the download. -/
def deliver (slot : ExecutableSlot) (version : Version) (archive : Bytes) :
    Program Handle (Except UpdateError UpdateResult) :=
  Program.orElse (.done (extractBinary updater.decoders archive)) .archive |>.andThen fun binary =>
  updater.complete (.ready slot version binary)

/-- What is left to do once it is settled what to fetch. -/
def conclude : Agreement → Program Handle (Except UpdateError UpdateResult)
  | .upToDate version => .done (.ok (.upToDate version.finalized))
  | .agreed slot version =>
      (downloadArchive (updater.archiveUrl version)).orElse .network |>.andThen
        (updater.deliver slot version)

theorem run_eq_approach :
    (updater.run options : Program Handle _) =
      (updater.approach options).andThen updater.conclude := by
  unfold run approach
  simp only [Program.andThen_assoc]
  congr 1
  funext slot
  congr 1
  funext resolution
  cases resolution with
  | upToDate version => rfl
  | update running version =>
      simp only [Program.andThen_assoc]
      rfl

theorem approach_uses :
    (updater.approach options : Program Handle _).Uses
      fun request => request.consultation? ≠ some .fetch := by
  apply (preflight_uses (by simp [Request.consultation?])
    (by simp [Request.consultation?])).orElse.andThen
  intro slot
  apply (resolveVersion_uses updater options (by simp [Request.consultation?])
    (by simp [Request.consultation?])).orElse.andThen
  intro resolution
  cases resolution with
  | upToDate version => trivial
  | update running version =>
      exact (confirmUpdate_uses options version
        (by simp [Request.consultation?])).andThen fun _ => trivial

theorem deliver_uses (slot : ExecutableSlot) (version : Version) (archive : Bytes) :
    (updater.deliver slot version archive : Program Handle _).Uses
      fun request => request.consultation? ≠ some .fetch := by
  have unpacks : (Program.done (extractBinary updater.decoders archive) : Program Handle _).Uses
      fun request => request.consultation? ≠ some .fetch := trivial
  apply unpacks.orElse.andThen
  intro binary
  exact (install_uses (fun request silent => by simp [silent]) slot binary).orElse.andThen
    fun _ => trivial

end Updater

section Runs

variable {Handle σ : Type} {updater : Updater} {options : UpdateOptions}
  {environment : Handler Handle σ} {transfer : String → Transfer (Except NetworkError Bytes)}
  {signal : Signal} {state now : σ} {slot : ExecutableSlot} {version : Version}

theorem downloadArchive_eq (url : String) :
    (downloadArchive url : Program Handle _) =
      .ask (.notify (.downloading url)) fun _ => .ask (.download url) fun
        | some result => .done result
        | none =>
            .ask (.notify (.downloadCancelled url)) fun _ => .done (.error (.cancelled url)) :=
  rfl

theorem run_downloadArchive (url : String) :
    (downloadArchive url).run (racing environment transfer signal) now =
      (match race signal (transfer url) with
        | .cancelled => some (.error (.cancelled url))
        | .finished result => some result
        | .endless => none, now) := by
  simp only [downloadArchive_eq, run, racing]
  cases race signal (transfer url) <;> rfl

theorem exchanges_downloadArchive (url : String) :
    (downloadArchive url).exchanges (racing environment transfer signal) now =
      ⟨.notify (.downloading url), some ()⟩ ::
        ⟨.download url, (race signal (transfer url)).answer⟩ ::
          match race signal (transfer url) with
          | .cancelled => [⟨.notify (.downloadCancelled url), some ()⟩]
          | _ => [] := by
  simp only [downloadArchive_eq, exchanges, racing]
  cases race signal (transfer url) <;> rfl

section Disagreed

variable {result : Option (Except UpdateError Updater.Agreement)}
  (approached : (updater.approach options).run (racing environment transfer none) state =
    (result, now))
  (disagreed : ∀ slot version, result ≠ some (.ok (.agreed slot version)))

include approached disagreed

/-- Without an agreement there is nothing to download. -/
theorem not_fetch_of_disagreed :
    ∀ exchange ∈ (updater.run options).exchanges (racing environment transfer none) state,
      exchange.request.consultation? ≠ some .fetch := by
  have front : ∀ exchange ∈
      (updater.approach options).exchanges (racing environment transfer none) state,
        exchange.request.consultation? ≠ some .fetch :=
    (hasHistory_exchanges _ _ _).uses (updater.approach_uses options)
  rw [updater.run_eq_approach options, andThen, exchanges_bind, approached]
  rcases result with _ | error | (version | ⟨slot, version⟩)
  · simpa using front
  · simpa [exchanges] using front
  · simpa [Updater.conclude, exchanges] using front
  · exact absurd rfl (disagreed slot version)

theorem run_of_disagreed (signal : Signal) :
    (updater.run options).run (racing environment transfer signal) state =
        (updater.run options).run (racing environment transfer none) state ∧
      (updater.run options).exchanges (racing environment transfer signal) state =
        (updater.run options).exchanges (racing environment transfer none) state := by
  simp only [updater.run_eq_approach options, andThen, run_bind, exchanges_bind,
    run_racing (updater.approach_uses options) signal,
    exchanges_racing (updater.approach_uses options) signal, approached]
  rcases result with _ | error | (version | ⟨slot, version⟩)
  · exact ⟨rfl, rfl⟩
  · exact ⟨rfl, rfl⟩
  · exact ⟨rfl, rfl⟩
  · exact absurd rfl (disagreed slot version)

end Disagreed

section Agreed

variable (approached : (updater.approach options).run (racing environment transfer none) state =
  (some (.ok (.agreed slot version)), now))

include approached

/-- After an agreement the signal decides nothing but the race. -/
theorem run_of_agreed :
    (updater.run options).run (racing environment transfer signal) state =
      match race signal (transfer (updater.archiveUrl version)) with
      | .cancelled => (some (.error (.network (.cancelled (updater.archiveUrl version)))), now)
      | .finished (.error error) => (some (.error (.network error)), now)
      | .finished (.ok archive) =>
          (updater.deliver slot version archive).run (racing environment transfer none) now
      | .endless => (none, now) := by
  rw [← run_racing (updater.approach_uses options) signal] at approached
  rw [updater.run_eq_approach options, run_andThen_of_ok approached, Updater.conclude, andThen,
    run_bind, run_orElse, run_downloadArchive]
  rcases race signal (transfer (updater.archiveUrl version)) with _ | (error | archive) | _
  · rfl
  · rfl
  · exact run_racing (updater.deliver_uses slot version archive) signal now
  · rfl

theorem exchanges_of_agreed :
    (updater.run options).exchanges (racing environment transfer signal) state =
      (updater.approach options).exchanges (racing environment transfer none) state ++
        ⟨.notify (.downloading (updater.archiveUrl version)), some ()⟩ ::
        ⟨.download (updater.archiveUrl version),
          (race signal (transfer (updater.archiveUrl version))).answer⟩ ::
        match race signal (transfer (updater.archiveUrl version)) with
        | .cancelled => [⟨.notify (.downloadCancelled (updater.archiveUrl version)), some ()⟩]
        | .finished (.error _) | .endless => []
        | .finished (.ok archive) => (updater.deliver slot version archive).exchanges
            (racing environment transfer none) now := by
  rw [← run_racing (updater.approach_uses options) signal] at approached
  rw [updater.run_eq_approach options, exchanges_andThen_of_ok approached,
    exchanges_racing (updater.approach_uses options), Updater.conclude, andThen, exchanges_bind,
    exchanges_orElse, exchanges_downloadArchive, run_orElse, run_downloadArchive]
  congr 1
  rcases race signal (transfer (updater.archiveUrl version)) with _ | (error | archive) | _
  · rfl
  · rfl
  · simp only [List.cons_append, List.nil_append, Option.map_some, mapError_ok]
    rw [exchanges_racing (updater.deliver_uses slot version archive)]
  · rfl

end Agreed

theorem not_network_of_deliver {archive : Bytes} {log : List (Exchange Handle)}
    {error : NetworkError} :
    ¬(updater.deliver slot version archive).HasHistory log (some (.error (.network error))) := by
  intro history
  rcases history.of_stage with ⟨-, never⟩ | ⟨_, -, failed⟩ | ⟨binary, _, last, -, completed, -⟩
  · simp at never
  · simp at failed
  · rcases (of_complete_ready completed).2 with never | ⟨_, failed⟩ | ended
    · simp at never
    · simp at failed
    · simp at ended

end Runs

/-- An address was asked for, whatever the answer was. -/
def Downloads {Handle : Type} (log : List (Exchange Handle)) (url : String) : Prop :=
  ∃ answer, ⟨.download url, answer⟩ ∈ log

/-- A run that was cut short at its download went the whole way to it, and no further. -/
structure CutShort {Handle : Type} (updater : Updater) (options : UpdateOptions) (url : String)
    (uncut cut : List (Exchange Handle)) : Prop where
  settled : ∃ version, updater.Settled options cut version ∧ url = updater.archiveUrl version
  consulted : consultations cut = options.everyone
  untouched : ∀ exchange ∈ cut, exchange.request.changesFiles = false
  upToDownload : ∃ before answer rest, uncut = before ++ ⟨.download url, answer⟩ :: rest ∧
    cut = before ++ [⟨.download url, some none⟩, ⟨.notify (.downloadCancelled url), some ()⟩]

section Cancellation

variable {Handle σ : Type} {updater : Updater} {options : UpdateOptions}
  {environment : Handler Handle σ} {transfer : String → Transfer (Except NetworkError Bytes)}
  {signal : Signal} {state : σ} {url : String}

/-- What was agreed on is downloaded, and nothing else. -/
theorem downloads_iff {slot : ExecutableSlot} {version : Version} {now : σ}
    (approached : (updater.approach options).run (racing environment transfer none) state =
      (some (.ok (.agreed slot version)), now)) (signal : Signal) :
    Downloads ((updater.run options).exchanges (racing environment transfer signal) state) url ↔
      url = updater.archiveUrl version := by
  rw [exchanges_of_agreed approached]
  constructor
  · rintro ⟨answer, member⟩
    rcases List.mem_append.mp member with early | later
    · have front := (hasHistory_exchanges _ _ _).uses (updater.approach_uses options) _ early
      exact absurd rfl front
    rcases List.mem_cons.mp later with announced | later
    · simp at announced
    rcases List.mem_cons.mp later with asked | late
    · simp only [Exchange.mk.injEq, Request.download.injEq] at asked
      exact asked.1
    split at late
    · simp at late
    · simp at late
    · simp at late
    · next archive _ =>
        have rest := (hasHistory_exchanges _ _ _).uses
          (updater.deliver_uses slot version archive) _ late
        exact absurd rfl rest
  · rintro rfl
    exact ⟨(race signal (transfer (updater.archiveUrl version))).answer, by simp⟩

theorem agreed_of_downloads
    (downloads : Downloads ((updater.run options).exchanges
      (racing environment transfer none) state) url) :
    ∃ slot version now, (updater.approach options).run (racing environment transfer none) state =
      (some (.ok (.agreed slot version)), now) := by
  rcases approached : (updater.approach options).run (racing environment transfer none) state
    with ⟨result, now⟩
  by_contra! agreed
  have disagreed : ∀ slot version, result ≠ some (.ok (.agreed slot version)) := by
    rintro slot version rfl
    exact agreed slot version now rfl
  obtain ⟨answer, member⟩ := downloads
  exact not_fetch_of_disagreed approached disagreed _ member rfl

/-- A signal that is there in time ends the run at its download. -/
theorem cutShort_of_cuts
    (downloads : Downloads ((updater.run options).exchanges
      (racing environment transfer none) state) url)
    (cuts : Cuts signal (transfer url)) :
    ((updater.run options).run (racing environment transfer signal) state).1 =
        some (.error (.network (.cancelled url))) ∧
      CutShort updater options url
        ((updater.run options).exchanges (racing environment transfer none) state)
        ((updater.run options).exchanges (racing environment transfer signal) state) := by
  obtain ⟨slot, version, now, approached⟩ := agreed_of_downloads downloads
  obtain rfl := (downloads_iff approached none).mp downloads
  have cancelled := race_eq_cancelled_iff.mpr cuts
  have ended : ((updater.run options).run (racing environment transfer signal) state).1 =
      some (.error (.network (.cancelled (updater.archiveUrl version)))) := by
    rw [run_of_agreed approached, cancelled]
  have history := hasHistory_exchanges (racing environment transfer signal)
    (updater.run options) state
  rw [ended] at history
  have gated := gated_of_run history
  obtain ⟨resolved, settled, -⟩ := gated.settled (by simp [Outcome.failedIn, UpdateError.stage])
    (by simp [Outcome.failedIn, UpdateError.stage])
  refine ⟨ended, ⟨resolved, settled, ?_⟩, gated.consulted, gated.untouched ?_, ?_⟩
  · obtain ⟨answer, member⟩ := (downloads_iff approached signal).mpr rfl
    exact settled.2 _ member
  · simp [Outcome.installs, UpdateError.stage]
  · rw [exchanges_of_agreed approached, exchanges_of_agreed approached, cancelled]
    exact ⟨_, _, _, List.append_cons _ _ _, List.append_cons _ _ _⟩

/-- A signal that is not there in time makes no difference at all. -/
theorem run_of_late
    (late : ∀ url, Downloads ((updater.run options).exchanges
      (racing environment transfer none) state) url → ¬Cuts signal (transfer url)) :
    (updater.run options).run (racing environment transfer signal) state =
        (updater.run options).run (racing environment transfer none) state ∧
      (updater.run options).exchanges (racing environment transfer signal) state =
        (updater.run options).exchanges (racing environment transfer none) state := by
  rcases approached : (updater.approach options).run (racing environment transfer none) state
    with ⟨result, now⟩
  by_cases agreed : ∃ slot version, result = some (.ok (.agreed slot version))
  · obtain ⟨slot, version, rfl⟩ := agreed
    have same := race_of_not_cuts (late _ ((downloads_iff approached none).mpr rfl))
    simp only [run_of_agreed approached, exchanges_of_agreed approached, same, and_self]
  · have disagreed : ∀ slot version, result ≠ some (.ok (.agreed slot version)) :=
      fun slot version same => agreed ⟨slot, version, same⟩
    exact run_of_disagreed approached disagreed signal

/-- Without a signal a run is cancelled only by the transfer itself. -/
theorem brought_of_cancelled
    (cancelled : ((updater.run options).run (racing environment transfer none) state).1 =
      some (.error (.network (.cancelled url)))) :
    ∃ address turn, transfer address = some (turn, .error (.cancelled url)) := by
  have history := hasHistory_exchanges (racing environment transfer none) (updater.run options)
    state
  rw [cancelled] at history
  rcases approached : (updater.approach options).run (racing environment transfer none) state
    with ⟨result, now⟩
  by_cases agreed : ∃ slot version, result = some (.ok (.agreed slot version))
  · obtain ⟨slot, version, rfl⟩ := agreed
    rw [run_of_agreed approached] at cancelled
    split at cancelled
    · next cut => exact absurd (race_eq_cancelled_iff.mp cut) not_cuts_none
    · next error finished =>
        obtain rfl : error = .cancelled url := by simpa using cancelled
        obtain ⟨-, turn, brought⟩ := race_eq_finished finished
        exact ⟨_, turn, brought⟩
    · next archive _ =>
        have delivered := hasHistory_exchanges (racing environment transfer none)
          (updater.deliver slot version archive) now
        rw [cancelled] at delivered
        exact absurd delivered not_network_of_deliver
    · simp at cancelled
  · have disagreed : ∀ slot version, result ≠ some (.ok (.agreed slot version)) :=
      fun slot version same => agreed ⟨slot, version, same⟩
    -- Nothing was fetched, and so nothing can have been cancelled.
    have fetches : .fetch ∈ consultations ((updater.run options).exchanges
        (racing environment transfer none) state) := by
      rw [(gated_of_run history).consulted]
      simp [Outcome.consulted, UpdateError.stage, UpdateOptions.everyone]
    obtain ⟨exchange, member, fetch⟩ := List.mem_filterMap.mp fetches
    exact absurd fetch (not_fetch_of_disagreed approached disagreed exchange member)

end Cancellation

/-- A signal either cuts a run short at its download, with nothing changed, or it makes no
difference.  It cuts the run short exactly if it is there no later than the end of the
transfer, and if it is there from the start, no transfer begins. -/
theorem cancellation_of_run (updater : Updater) (options : UpdateOptions) :
    (∀ {Handle σ : Type} (environment : Handler Handle σ)
        (transfer : String → Transfer (Except NetworkError Bytes)) (signal : Signal) (state : σ),
      let ran transfer signal :=
        (updater.run options).run (racing environment transfer signal) state
      let log transfer signal :=
        (updater.run options).exchanges (racing environment transfer signal) state
      (∀ url, Downloads (log transfer none) url → Cuts signal (transfer url) →
        (ran transfer signal).1 = some (.error (.network (.cancelled url))) ∧
          CutShort updater options url (log transfer none) (log transfer signal)) ∧
      ((∀ url, Downloads (log transfer none) url → ¬Cuts signal (transfer url)) →
        ran transfer signal = ran transfer none ∧ log transfer signal = log transfer none) ∧
      ((∀ address turn url, transfer address ≠ some (turn, .error (.cancelled url))) → ∀ url,
        ((ran transfer signal).1 = some (.error (.network (.cancelled url))) ↔
          Downloads (log transfer none) url ∧ Cuts signal (transfer url))) ∧
      (transferBegins signal = false → ∀ other,
        ran transfer signal = ran other signal ∧ log transfer signal = log other signal)) ∧
    ∀ (collaborators : Collaborators) (host : Host) (signal : Signal) (memory : Memory),
      let ran signal := (updater.run options).run
        ({ collaborators with signal := signal }.handler host) memory
      let log := (updater.run options).exchanges
        ({ collaborators with signal := none }.handler host) memory
      (∀ url, Downloads log url → Cuts signal (collaborators.transfer url) →
        ran signal = (some (.error (.network (.cancelled url))), memory)) ∧
      ((∀ url, Downloads log url → ¬Cuts signal (collaborators.transfer url)) →
        ran signal = ran none) := by
  refine ⟨fun environment transfer signal state => ⟨?_, ?_, ?_, ?_⟩,
    fun collaborators host signal memory => ⟨?_, ?_⟩⟩
  · exact fun url => cutShort_of_cuts
  · exact run_of_late
  · intro unbrought url
    constructor
    · intro cancelled
      by_cases cut : ∃ address, Downloads ((updater.run options).exchanges
          (racing environment transfer none) state) address ∧ Cuts signal (transfer address)
      · obtain ⟨address, downloads, cuts⟩ := cut
        have ended := (cutShort_of_cuts downloads cuts).1
        rw [cancelled] at ended
        obtain rfl : url = address := by simpa using ended
        exact ⟨downloads, cuts⟩
      · have same := (run_of_late fun address downloads cuts => cut ⟨address, downloads, cuts⟩).1
        simp only [same] at cancelled
        obtain ⟨address, turn, brought⟩ := brought_of_cancelled cancelled
        exact absurd brought (unbrought address turn url)
    · rintro ⟨downloads, cuts⟩
      exact (cutShort_of_cuts downloads cuts).1
  · intro first other
    simp only [racing_of_not_begins environment transfer other first, and_self]
  · -- A run that is cut short has asked for nothing that changes the memory.
    simp only [Collaborators.handler_signal]
    intro url downloads cuts
    obtain ⟨ended, cutShort⟩ := cutShort_of_cuts downloads cuts
    refine Prod.ext ended (run_snd_of_quiet fun exchange member now => ?_)
    rw [← Collaborators.handler_signal]
    exact Collaborators.handler_of_changesFiles (cutShort.untouched exchange member) now
  · simp only [Collaborators.handler_signal]
    exact fun late => (run_of_late late).1

section Sample

def sampleUrl : String :=
  "https://releases.test/releases/download/v1.4.0/coder-cli-linux-amd64.tar.gz"

theorem downloads_sampleRun :
    Downloads ((sampleUpdater.run sampleOptions).exchanges sampleHandler sampleMemory)
      sampleUrl := by
  have fourth : ((sampleUpdater.run sampleOptions).exchanges sampleHandler sampleMemory)[3]? =
      some ⟨.download sampleUrl, some (some (.ok smallArchive))⟩ := by
    rfl
  exact ⟨_, List.mem_of_getElem? fourth⟩

/-- The signal comes together with the archive. -/
theorem cancellation_of_sampleRun :
    Cuts (some 0) (sampleCollaborators.transfer sampleUrl) ∧
      (sampleUpdater.run sampleOptions).run
          ({ sampleCollaborators with signal := some 0 }.handler (Host.running "/opt/coder" true))
          sampleMemory =
        (some (.error (.network (.cancelled sampleUrl))), sampleMemory) :=
  ⟨cuts_zero _, ((cancellation_of_run sampleUpdater sampleOptions).2 sampleCollaborators _ _ _).1
    sampleUrl downloads_sampleRun (cuts_zero _)⟩

end Sample

end SelfUpdate
