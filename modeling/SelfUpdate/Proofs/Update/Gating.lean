import SelfUpdate.Proofs.Update.Preparation
import SelfUpdate.Proofs.Update.Progress
import SelfUpdate.Update.Collaborators

/-!
# The outcome of an update tells its effects

A failed update names the stage in which it failed.  That stage is read off the error,
not off the run.  Still it fixes whom the run has consulted, and whether it can have
touched a file: each stage is entered only after all stages before it, and nothing is
ever done ahead of its stage.

All this holds in every surroundings.  A run on a file system in memory leaves the
memory exactly as it was unless it got as far as installing.
-/

namespace SelfUpdate

open Program

abbrev Outcome := Except UpdateError UpdateResult

namespace Outcome

/-- The stage in which an update failed. -/
def failedIn : Outcome → Option UpdateStage
  | .error error => some error.stage
  | .ok _ => none

/-- Whether an update got as far as installing. -/
def installs : Outcome → Bool
  | .error error => error.stage = .stageWrite ∨ error.stage = .atomicReplace
  | .ok (.upToDate _) => false
  | .ok (.updated _ _ _) => true

/-- The release that an outcome names, if it names one. -/
def release : Outcome → Option String
  | .error (.notConfirmed release _) => some release
  | .error _ => none
  | .ok (.upToDate release) => some release
  | .ok (.updated _ release _) => some release

/-- Whom an update has consulted when it ends. -/
def consulted (options : UpdateOptions) : Outcome → List Consultation
  | .error error =>
      match error.stage with
      | .preflight => []
      | .resolveVersion => options.reports
      | .confirm => options.reports ++ [.question]
      | _ => options.everyone
  | .ok (.upToDate _) => options.reports
  | .ok (.updated _ _ _) => options.everyone

end Outcome

/-- A binary was extracted from an archive that was fetched. -/
def Updater.Fetched {Handle : Type} (updater : Updater) (log : List (Exchange Handle))
    (binary : Bytes) : Prop :=
  ∃ url archive, ⟨.download url, some (some (.ok archive))⟩ ∈ log ∧
    extractBinary updater.decoders archive = .ok binary

/-- An outcome agrees with the history of its update.  Whatever was asked or fetched was about the
one desired version, and so is the outcome. -/
structure Gated {Handle : Type} (updater : Updater) (options : UpdateOptions)
    (log : List (Exchange Handle)) (outcome : Outcome) : Prop where
  consulted : consultations log = outcome.consulted options
  unforced : outcome.failedIn = some .confirm → options.force = false
  settled : outcome.failedIn ≠ some .preflight → outcome.failedIn ≠ some .resolveVersion →
    ∃ version, updater.Settled options log version ∧
      ∀ release ∈ outcome.release, release = version.finalized
  updated : ∀ running release path, outcome = .ok (.updated running release path) →
    running = updater.runningVersion ∧ ⟨.executablePath, some (.ok path)⟩ ∈ log
  untouched : outcome.installs = false →
    ∀ exchange ∈ log, exchange.request.changesFiles = false
  delivered : outcome.installs = true → ∃ binary, updater.Fetched log binary

section Stages

variable {Handle : Type} {updater : Updater} {options : UpdateOptions}
  {log : List (Exchange Handle)}

section Uses

variable {permitted : Request Handle → Prop}
  (silent : ∀ request : Request Handle, request.consultation? = none → permitted request)

include silent

theorem writeAll_uses (handle : Handle) (bytes : Bytes) :
    (writeAll handle bytes).Uses permitted := by
  fun_induction writeAll handle bytes with
  | case1 => trivial
  | case2 bytes unfinished ih =>
      refine ⟨silent _ rfl, fun answer => ?_⟩
      rcases answer with failure | (_ | count)
      · trivial
      · trivial
      · exact ih count

theorem writeStaged_uses (path : Path) (binary : Bytes) (mode : UInt32) :
    (writeStaged path binary mode).Uses permitted := by
  apply Uses.orElse
  apply (Uses.request (silent _ rfl)).andThen
  intro handle
  apply (writeAll_uses silent handle binary).andThen
  intro _
  exact Uses.request (silent _ rfl)

theorem cleaningUp_uses {α : Type} (path : Path) {program : Program Handle α}
    (uses : program.Uses permitted) : (cleaningUp path program).Uses permitted := by
  have cleanUp_uses : (cleanUp path : Program Handle Unit).Uses permitted := by
    apply (Uses.request (silent _ rfl)).bind
    rintro (failure | _)
    · exact Uses.request (silent _ rfl)
    · trivial
  apply uses.bind
  intro value
  exact cleanUp_uses.bind fun _ => trivial

theorem replace_uses (scratch staged : Path) (slot : ExecutableSlot) (binary : Bytes) :
    (replace scratch staged slot binary).Uses permitted := by
  apply (Uses.request (silent _ rfl)).bind
  rintro (failure | _)
  · dsimp only
    split
    · apply (Uses.request (silent _ rfl)).bind
      intro _
      apply cleaningUp_uses silent
      apply (writeStaged_uses silent _ _ _).andThen
      intro _
      exact (Uses.request (silent _ rfl)).orElse
    · trivial
  · trivial

/-- Installing consults nobody. -/
theorem install_uses (slot : ExecutableSlot) (binary : Bytes) :
    (install slot binary).Uses permitted := by
  apply (Uses.request (silent _ rfl)).bind
  intro temporary
  apply (Uses.request (silent _ rfl)).bind
  intro name
  apply (Uses.request (silent _ rfl)).orElse.andThen
  intro _
  apply cleaningUp_uses silent
  apply (writeStaged_uses silent _ _ _).andThen
  intro _
  exact replace_uses silent _ _ _ _

end Uses

theorem concerns_of_silent (version : Version) (request : Request Handle)
    (silent : request.consultation? = none) : updater.Concerns version request := by
  cases request with
  | confirm label => simp [Request.consultation?] at silent
  | download url => simp [Request.consultation?] at silent
  | _ => trivial

theorem install_stage (error : InstallError) :
    (UpdateError.install error).stage = .stageWrite ∨
      (UpdateError.install error).stage = .atomicReplace := by
  cases error <;> simp [UpdateError.stage]

theorem of_complete_ready {slot : ExecutableSlot} {version : Version} {binary : Bytes}
    {result : Option Outcome}
    (history : (updater.complete (.ready slot version binary)).HasHistory log result) :
    (∀ exchange ∈ log, exchange.request.consultation? = none) ∧
      (result = none ∨ (∃ error, result = some (.error (.install error))) ∨
        result = some (.ok (.updated updater.runningVersion version.finalized slot.path))) := by
  have uses : (updater.complete (.ready slot version binary) : Program Handle _).Uses
      fun request => request.consultation? = none :=
    (install_uses (fun _ silent => silent) slot binary).orElse.andThen fun _ => trivial
  refine ⟨history.uses uses, ?_⟩
  rcases history.of_stage with ⟨-, rfl⟩ | ⟨error, -, rfl⟩ | ⟨_, _, _, -, last, -⟩
  · exact Or.inl rfl
  · exact Or.inr (Or.inl ⟨error, rfl⟩)
  · exact Or.inr (Or.inr last.of_done.2)

theorem untouched_of_prepare {result : Option (Except UpdateError Preparation)}
    (history : (updater.prepare options).HasHistory log result) :
    ∀ exchange ∈ log, exchange.request.changesFiles = false :=
  have quiet : (updater.prepare options : Program Handle _).Uses
      fun request => request.changesFiles = false :=
    Updater.prepare_uses rfl (fun _ => rfl) rfl (fun _ => rfl) (fun _ => rfl) fun _ => rfl
  history.uses quiet

theorem installs_of_prepare_error {error : UpdateError}
    (history : (updater.prepare options).HasHistory log (some (.error error))) :
    Outcome.installs (.error error) = false := by
  have course := Updater.course_of_prepare history
  cases error with
  | install error => exact course.elim
  | _ => rfl

theorem gated_of_prepare_error {error : UpdateError}
    (history : (updater.prepare options).HasHistory log (some (.error error))) :
    Gated updater options log (.error error) := by
  have course := Updater.course_of_prepare history
  have early := installs_of_prepare_error history
  have agrees (consulted : consultations log = Outcome.consulted options (.error error))
      (unforced : error.stage = .confirm → options.force = false)
      (settled : error.stage ≠ .preflight → error.stage ≠ .resolveVersion →
        ∃ version, updater.Settled options log version ∧
          ∀ release ∈ Outcome.release (.error error), release = version.finalized) :
      Gated updater options log (.error error) :=
    { consulted := consulted
      unforced := by simpa [Outcome.failedIn] using unforced
      settled := by simpa [Outcome.failedIn] using settled
      updated := by simp
      untouched := fun _ => untouched_of_prepare history
      delivered := by simp [early] }
  cases error with
  | preflight error => exact agrees course (by simp [UpdateError.stage]) (absurd rfl)
  | version error =>
      exact agrees course (by simp [UpdateError.stage]) fun _ later => absurd rfl later
  | notConfirmed release reason =>
      obtain ⟨unforced, consulted, version, settled, named⟩ := course
      have questions : options.questions = [.question] := by
        simp [UpdateOptions.questions, unforced]
      rw [questions] at consulted
      exact agrees consulted (fun _ => unforced)
        fun _ _ => ⟨version, settled, by simp [Outcome.release, named]⟩
  | network error =>
      obtain ⟨consulted, version, settled⟩ := course
      exact agrees consulted (by simp [UpdateError.stage])
        fun _ _ => ⟨version, settled, by simp [Outcome.release]⟩
  | archive error =>
      obtain ⟨consulted, version, settled⟩ := course
      exact agrees consulted (by simp [UpdateError.stage])
        fun _ _ => ⟨version, settled, by simp [Outcome.release]⟩
  | install error => exact course.elim

theorem gated_of_upToDate {version : Version}
    (history : (updater.prepare options).HasHistory log (some (.ok (.upToDate version)))) :
    Gated updater options log (.ok (.upToDate version.finalized)) := by
  obtain ⟨consulted, settled⟩ := Updater.course_of_prepare history
  exact {
    consulted := consulted
    unforced := by simp [Outcome.failedIn]
    settled := fun _ _ => ⟨version, settled, by simp [Outcome.release]⟩
    updated := by simp
    untouched := fun _ => untouched_of_prepare history
    delivered := by simp [Outcome.installs] }

theorem gated_of_ready {slot : ExecutableSlot} {version : Version} {binary : Bytes}
    {prepareLog completeLog : List (Exchange Handle)} {outcome : Outcome}
    (prepared : (updater.prepare options).HasHistory prepareLog
      (some (.ok (.ready slot version binary))))
    (completed : (updater.complete (.ready slot version binary)).HasHistory completeLog
      (some outcome)) :
    Gated updater options (prepareLog ++ completeLog) outcome := by
  obtain ⟨consulted, settled, found, archive, fetched, extracted⟩ :=
    Updater.course_of_prepare prepared
  obtain ⟨silent, ended⟩ := of_complete_ready completed
  have everyone : consultations (prepareLog ++ completeLog) = options.everyone := by
    rw [consultations_append, consulted, consultations_eq_nil silent, List.append_nil]
  have stillSettled : updater.Settled options (prepareLog ++ completeLog) version := by
    refine ⟨settled.1.mono (List.subset_append_left _ _), fun exchange member => ?_⟩
    rcases List.mem_append.mp member with early | late
    · exact settled.2 exchange early
    · exact concerns_of_silent version _ (silent exchange late)
  have delivered : ∃ binary, updater.Fetched (prepareLog ++ completeLog) binary :=
    ⟨binary, _, archive, List.mem_append_left _ fetched, extracted⟩
  rcases ended with never | ⟨error, failed⟩ | succeeded
  · simp at never
  · obtain rfl := Option.some.inj failed
    have installs : Outcome.installs (.error (.install error)) = true := by
      simpa [Outcome.installs] using install_stage error
    exact {
      consulted := by
        rw [everyone]
        cases error <;> rfl
      unforced := by cases error <;> simp [Outcome.failedIn, UpdateError.stage]
      settled := fun _ _ => ⟨version, stillSettled, by simp [Outcome.release]⟩
      updated := by simp
      untouched := by simp [installs]
      delivered := fun _ => delivered }
  · obtain rfl := Option.some.inj succeeded
    exact {
      consulted := everyone
      unforced := by simp [Outcome.failedIn]
      settled := fun _ _ => ⟨version, stillSettled, by simp [Outcome.release]⟩
      updated := by
        rintro running release path same
        obtain ⟨rfl, rfl, rfl⟩ : updater.runningVersion = running ∧
            version.finalized = release ∧ slot.path = path := by simpa using same
        exact ⟨rfl, List.mem_append_left _ found.1⟩
      untouched := by simp [Outcome.installs]
      delivered := fun _ => delivered }

theorem gated_of_run {outcome : Outcome}
    (history : (updater.run options).HasHistory log (some outcome)) :
    Gated updater options log outcome := by
  rw [updater.run_eq_prepare options] at history
  rcases history.of_andThen with ⟨-, never⟩ | ⟨error, failed, same⟩ |
    ⟨preparation, prepareLog, completeLog, prepared, completed, rfl⟩
  · simp at never
  · obtain rfl := Option.some.inj same
    exact gated_of_prepare_error failed
  · cases preparation with
    | upToDate version =>
        obtain ⟨rfl, same⟩ := completed.of_done
        obtain rfl := Option.some.inj same
        rw [List.append_nil]
        exact gated_of_upToDate prepared
    | ready slot version binary => exact gated_of_ready prepared completed

theorem Gated.isPrefix_everyone {outcome : Outcome} (gated : Gated updater options log outcome) :
    consultations log <+: options.everyone := by
  rw [gated.consulted]
  rcases outcome with error | (release | ⟨running, release, path⟩)
  · have unforced : error.stage = .confirm → options.questions = [.question] := by
      intro stage
      have notForced := gated.unforced (by simp [Outcome.failedIn, stage])
      simp [UpdateOptions.questions, notForced]
    unfold Outcome.consulted UpdateOptions.everyone
    cases stage : error.stage <;> simp [stage] at unforced ⊢
    simp [unforced]
  · simp [Outcome.consulted, UpdateOptions.everyone]
  · exact List.prefix_rfl

/-- Ended or not, a run consults nobody out of turn. -/
theorem isPrefix_everyone_of_run {result : Option Outcome}
    (history : (updater.run options).HasHistory log result) :
    consultations log <+: options.everyone := by
  cases result with
  | some outcome => exact (gated_of_run history).isPrefix_everyone
  | none =>
      rw [updater.run_eq_prepare options] at history
      rcases history.of_andThen with ⟨stuck, -⟩ | ⟨error, -, never⟩ |
        ⟨preparation, prepareLog, completeLog, prepared, completed, rfl⟩
      · exact Updater.course_of_prepare stuck
      · simp at never
      · cases preparation with
        | upToDate version =>
            have never := completed.of_done.2
            simp at never
        | ready slot version binary =>
            have consulted := (Updater.course_of_prepare prepared).1
            have silent := consultations_eq_nil (of_complete_ready completed).1
            refine ⟨[], ?_⟩
            rw [consultations_append, consulted, silent, List.append_nil, List.append_nil]

theorem everyone_sublist (options : UpdateOptions) :
    options.everyone.Sublist [.report, .question, .fetch] := by
  unfold UpdateOptions.everyone UpdateOptions.reports UpdateOptions.questions
  split <;> split <;> decide

end Stages

section Memory

variable {α : Type} {collaborators : Collaborators} {host : Host}

theorem Collaborators.handler_of_changesFiles {request : Request Writer}
    (quiet : request.changesFiles = false) (memory : Memory) :
    (collaborators.handler host request memory).2 = memory := by
  cases request <;> first | rfl | simp [Request.changesFiles] at quiet

theorem race_eq_finished {signal : Signal} {transfer : Transfer α} {value : α}
    (finished : race signal transfer = .finished value) :
    transferBegins signal = true ∧ ∃ turn, transfer = some (turn, value) := by
  rcases signal with _ | fired <;> rcases transfer with _ | ⟨completed, brought⟩
  · simp [race] at finished
  · obtain rfl : brought = value := by simpa [race] using finished
    exact ⟨rfl, completed, rfl⟩
  · simp [race] at finished
  · by_cases early : fired ≤ completed
    · simp [race, early] at finished
    · obtain rfl : brought = value := by simpa [race, early] using finished
      have notFirst : fired ≠ 0 := by omega
      exact ⟨by simpa [transferBegins] using notFirst, completed, rfl⟩

/-- A download brings an archive only if the transfer began and was not cancelled. -/
theorem Collaborators.race_of_download {url : String} {result : Except NetworkError Bytes}
    (downloaded : collaborators.download url = some (some result)) :
    race collaborators.signal (collaborators.transfer url) = .finished result := by
  unfold download at downloaded
  split at downloaded
  · simp at downloaded
  · next finished =>
      obtain rfl : _ = result := by simpa using downloaded
      exact finished
  · simp at downloaded

end Memory

/-- An update does nothing ahead of its stages, and its outcome tells what it did. -/
theorem effects_of_run (updater : Updater) (options : UpdateOptions) :
    (∀ {Handle σ : Type} (handler : Handler Handle σ) (state : σ),
      (consultations ((updater.run options).exchanges handler state)).Sublist
          [.report, .question, .fetch] ∧
        ∀ outcome, ((updater.run options).run handler state).1 = some outcome →
          Gated updater options ((updater.run options).exchanges handler state) outcome) ∧
    ∀ (collaborators : Collaborators) (host : Host) (memory after : Memory) (outcome : Outcome),
      (updater.run options).run (collaborators.handler host) memory = (some outcome, after) →
        (outcome.installs = false → after = memory) ∧
        (outcome.installs = true → transferBegins collaborators.signal = true ∧
          ∃ url turn archive binary, collaborators.transfer url = some (turn, .ok archive) ∧
            extractBinary updater.decoders archive = .ok binary) := by
  have gated {Handle σ : Type} (handler : Handler Handle σ) (state : σ) (outcome : Outcome)
      (ended : ((updater.run options).run handler state).1 = some outcome) :
      Gated updater options ((updater.run options).exchanges handler state) outcome := by
    have history := hasHistory_exchanges handler (updater.run options) state
    rw [ended] at history
    exact gated_of_run history
  refine ⟨fun handler state => ⟨?_, gated handler state⟩,
    fun collaborators host memory after outcome ran => ?_⟩
  · have history := hasHistory_exchanges handler (updater.run options) state
    exact (isPrefix_everyone_of_run history).sublist.trans (everyone_sublist options)
  have agrees := gated (collaborators.handler host) memory outcome (by rw [ran])
  constructor
  · intro idle
    have same : ((updater.run options).run (collaborators.handler host) memory).2 = memory :=
      run_snd_of_quiet fun exchange member =>
        collaborators.handler_of_changesFiles (agrees.untouched idle exchange member)
    simpa [ran] using same
  · intro busy
    obtain ⟨binary, url, archive, fetched, extracted⟩ := agrees.delivered busy
    obtain ⟨now, answered⟩ := exists_answer fetched
    obtain ⟨began, turn, transferred⟩ :=
      race_eq_finished (Collaborators.race_of_download answered)
    exact ⟨began, url, turn, archive, binary, transferred, extracted⟩

/-- The host of a program whose temporary directory is `/tmp`, maybe on a volume of its
own. -/
def Host.running (executable : String) (separate : Bool) : Host :=
  { Host.ofExecutable (Path.ofString executable) with separateTemporary := separate }

section Sample

/-- A zip archive that holds nothing but a binary of three bytes. -/
def smallArchive : Bytes :=
  [80, 75, 3, 4, 20, 0, 0, 0, 0, 0, 0, 0, 33, 0, 207, 6, 68, 253, 3, 0, 0, 0, 3, 0, 0, 0,
    5, 0, 0, 0, 99, 111, 100, 101, 114, 78, 69, 87, 80, 75, 1, 2, 20, 3, 20, 0, 0, 0, 0, 0,
    0, 0, 33, 0, 207, 6, 68, 253, 3, 0, 0, 0, 3, 0, 0, 0, 5, 0, 0, 0, 0, 0, 0, 0, 0, 0, 0,
    0, 128, 1, 0, 0, 0, 0, 99, 111, 100, 101, 114, 80, 75, 5, 6, 0, 0, 0, 0, 1, 0, 1, 0,
    51, 0, 0, 0, 38, 0, 0, 0, 0, 0]

def sampleUpdater : Updater := ⟨"1.3.0", "https://releases.test", ⟨"linux", "amd64"⟩, .none⟩

def sampleOptions : UpdateOptions := ⟨true, some "1.4.0"⟩

/-- An archive is delivered at once, and nobody else is there to ask. -/
def sampleCollaborators : Collaborators where
  name := "0"
  report := none
  confirm _ := none
  transfer _ := some (0, .ok smallArchive)
  signal := none

def sampleHandler : Handler Writer Memory :=
  sampleCollaborators.handler (Host.running "/opt/coder" true)

def sampleMemory : Memory :=
  (Memory.initial (Host.running "/opt/coder" true)).addFile (Path.ofString "/opt/coder")
    [79, 76, 68] 0o755

def sampleOutcome : Outcome := .ok (.updated "1.3.0" "1.4.0" (Path.ofString "/opt/coder"))

theorem ended_sampleRun :
    ((sampleUpdater.run sampleOptions).run sampleHandler sampleMemory).1 =
      some sampleOutcome := by
  decide +kernel

theorem effects_of_sampleRun :
    ((sampleUpdater.run sampleOptions).run sampleHandler sampleMemory).1 = some sampleOutcome ∧
      Gated sampleUpdater sampleOptions
        ((sampleUpdater.run sampleOptions).exchanges sampleHandler sampleMemory)
        sampleOutcome :=
  ⟨ended_sampleRun,
    ((effects_of_run sampleUpdater sampleOptions).1 _ _).2 sampleOutcome ended_sampleRun⟩

end Sample

end SelfUpdate
