import SelfUpdate.Proofs.Update.History
import SelfUpdate.Update.Pipeline

/-!
# Whom the stages of an update consult

Besides the file system an update consults the release host, the user, and the server
that archives are fetched from.  Every stage consults those that it is for, and nobody
else, whatever it is answered.
-/

namespace SelfUpdate

variable {Handle : Type} {α : Type}

/-- Someone whom an update consults besides the file system. -/
inductive Consultation where
  | report
  | question
  | fetch
  deriving DecidableEq

def Request.consultation? : Request Handle → Option Consultation
  | .report => some .report
  | .confirm _ => some .question
  | .download _ => some .fetch
  | _ => none

/-- Whether a request may change files. -/
def Request.changesFiles : Request Handle → Bool
  | .create _ _ | .write _ _ | .flush _ | .createDirectory _ | .rename _ _ | .removeAll _ => true
  | _ => false

/-- Whom a run has consulted, in order. -/
def consultations (log : List (Exchange Handle)) : List Consultation :=
  log.filterMap fun exchange => exchange.request.consultation?

@[simp]
theorem consultations_append (first second : List (Exchange Handle)) :
    consultations (first ++ second) = consultations first ++ consultations second :=
  List.filterMap_append

/-- The release host is asked if no version was asked for. -/
def UpdateOptions.reports (options : UpdateOptions) : List Consultation :=
  if options.version = none ∨ options.version = some "" then [.report] else []

/-- The user is asked unless the update is forced. -/
def UpdateOptions.questions (options : UpdateOptions) : List Consultation :=
  if options.force = true then [] else [.question]

def UpdateOptions.everyone (options : UpdateOptions) : List Consultation :=
  options.reports ++ options.questions ++ [.fetch]

/-- The version that a run is to install: the one asked for, or the one reported. -/
def Desired (options : UpdateOptions) (log : List (Exchange Handle)) (version : Version) :
    Prop :=
  (∃ text, options.version = some text ∧ text ≠ "" ∧ Version.parse text = .ok version) ∨
    ((options.version = none ∨ options.version = some "") ∧
      ∃ tag, ⟨.report, some (.ok tag)⟩ ∈ log ∧ Version.fromTag tag = .ok version)

theorem Desired.mono {options : UpdateOptions} {log more : List (Exchange Handle)}
    {version : Version} (desired : Desired options log version) (subset : log ⊆ more) :
    Desired options more version := by
  rcases desired with asked | ⟨missing, tag, reported, parsed⟩
  · exact Or.inl asked
  · exact Or.inr ⟨missing, tag, subset reported, parsed⟩

/-- Whether a request speaks of a version, if it speaks of any. -/
def Updater.Concerns (updater : Updater) (version : Version) : Request Handle → Prop
  | .confirm label => label = confirmationLabel version
  | .download url => url = updater.archiveUrl version
  | _ => True

section Stages

open Program

variable {log : List (Exchange Handle)}

theorem consultations_eq_nil
    (silent : ∀ exchange ∈ log, exchange.request.consultation? = none) :
    consultations log = [] := by
  simpa [consultations] using silent

section Uses

variable {permitted : Request Handle → Prop}

theorem preflight_uses (executablePath : permitted .executablePath)
    (stat : ∀ path, permitted (.stat path)) : (preflight : Program Handle _).Uses permitted := by
  unfold preflight
  apply Uses.andThen (Uses.request executablePath).orElse
  intro path
  apply Uses.andThen (Uses.request (stat path)).orElse
  intro found
  split <;> trivial

theorem resolveVersion_uses (updater : Updater) (options : UpdateOptions)
    (report : permitted .report) (notify : ∀ notice, permitted (.notify notice)) :
    (resolveVersion updater options).Uses permitted := by
  unfold resolveVersion
  apply Uses.andThen
  · split
    · trivial
    · exact (Uses.request report).bind fun _ => trivial
  · intro desired
    split
    · trivial
    · exact (Uses.request (notify _)).bind fun _ => trivial

theorem confirmUpdate_uses (options : UpdateOptions) (version : Version)
    (confirm : permitted (.confirm (confirmationLabel version))) :
    (confirmUpdate options version).Uses permitted := by
  unfold confirmUpdate
  split
  · trivial
  · apply (Uses.request confirm).bind
    intro reply
    split <;> trivial

theorem downloadArchive_uses {url : String} (download : permitted (.download url))
    (notify : ∀ notice, permitted (.notify notice)) :
    (downloadArchive url).Uses permitted := by
  unfold downloadArchive
  apply (Uses.request (notify _)).bind
  intro _
  apply (Uses.request download).bind
  intro reply
  split
  · trivial
  · exact (Uses.request (notify _)).bind fun _ => trivial

end Uses

theorem consultations_preflight {result : Option (Except PreflightError ExecutableSlot)}
    (history : preflight.HasHistory log result) : consultations log = [] :=
  have silent : (preflight : Program Handle _).Uses fun request => request.consultation? = none :=
    preflight_uses rfl fun _ => rfl
  consultations_eq_nil (history.uses silent)

/-- The slot that preflight found is the one it was told of. -/
def Found (log : List (Exchange Handle)) (slot : ExecutableSlot) : Prop :=
  ⟨.executablePath, some (.ok slot.path)⟩ ∈ log ∧
    ⟨.stat slot.path, some (.ok ⟨slot.mode⟩)⟩ ∈ log ∧
    (FileStat.mk slot.mode).isWritable = true

theorem Found.mono {log more : List (Exchange Handle)} {slot : ExecutableSlot}
    (found : Found log slot) (subset : log ⊆ more) : Found more slot :=
  ⟨subset found.1, subset found.2.1, found.2.2⟩

theorem found_of_preflight {slot : ExecutableSlot}
    (history : preflight.HasHistory log (some (.ok slot))) : Found log slot := by
  rcases history.of_stage with ⟨-, never⟩ | ⟨error, -, failed⟩ |
    ⟨path, pathLog, restLog, located, rest, rfl⟩
  · simp at never
  · simp at failed
  rcases rest.of_stage with ⟨-, never⟩ | ⟨error, -, failed⟩ |
    ⟨stat, statLog, lastLog, looked, last, rfl⟩
  · simp at never
  · simp at failed
  have pathEq := located.of_request
  have statEq := looked.of_request
  split at last
  · next writable =>
      obtain ⟨rfl, slotEq⟩ := last.of_done
      obtain rfl : slot = ⟨path, stat.mode⟩ := by simpa using slotEq
      exact ⟨by simp [pathEq], by simp [statEq], writable⟩
  · have impossible := last.of_done.2
    simp at impossible

theorem requested_eq_none_iff (version : Option String) :
    Resolution.requested version = none ↔ version = none ∨ version = some "" := by
  unfold Resolution.requested
  split <;> simp_all

theorem requested_eq_some_iff (version : Option String) (text : String) :
    Resolution.requested version = some text ↔ version = some text ∧ text ≠ "" := by
  unfold Resolution.requested
  split
  · constructor
    · simp
    · rintro ⟨same, filled⟩
      exact absurd (Option.some.inj same).symm filled
  · next notEmpty =>
      constructor
      · rintro rfl
        exact ⟨rfl, fun void => notEmpty (by rw [void])⟩
      · exact fun same => same.1

theorem reports_of_requested {options : UpdateOptions} {text : String}
    (requested : Resolution.requested options.version = some text) : options.reports = [] := by
  have notMissing : ¬(options.version = none ∨ options.version = some "") := by
    rw [← requested_eq_none_iff, requested]
    simp
  exact if_neg notMissing

theorem reports_of_not_requested {options : UpdateOptions}
    (missing : Resolution.requested options.version = none) : options.reports = [.report] :=
  if_pos ((requested_eq_none_iff options.version).mp missing)

/-- The version that is resolved to, whether or not it is already running. -/
def Resolution.version : Resolution → Version
  | .upToDate version => version
  | .update _ version => version

theorem version_decide (desired : Version) (running : String) :
    (Resolution.decide desired running).version = desired := by
  unfold Resolution.decide
  split
  · split <;> rfl
  · rfl

theorem ofReport_eq_ok_iff {reply : Except (List String) String} {version : Version} :
    Resolution.ofReport reply = .ok version ↔
      ∃ tag, reply = .ok tag ∧ Version.fromTag tag = .ok version := by
  cases reply <;> simp [Resolution.ofReport, mapError_eq_ok]

def findDesired (options : UpdateOptions) :
    Program Handle (Except VersionError Version) :=
  match Resolution.requested options.version with
  | some version => .done (Resolution.ofArgument version)
  | none => do return Resolution.ofReport (← request .report)

def compareRunning (running : String) (desired : Version) :
    Program Handle (Except VersionError Resolution) := do
  match Version.parse running with
  | .ok _ => pure ()
  | .error reason => request (.notify (.runningVersionUnreadable running reason))
  return .ok (Resolution.decide desired running)

theorem resolveVersion_eq (updater : Updater) (options : UpdateOptions) :
    (resolveVersion updater options : Program Handle _) =
      (findDesired options).andThen (compareRunning updater.runningVersion) :=
  rfl

private theorem consultations_compareRunning {running : String} {desired : Version}
    {result : Option (Except VersionError Resolution)}
    (history : (compareRunning running desired).HasHistory log result) :
    consultations log = [] := by
  have silent : (compareRunning running desired : Program Handle _).Uses
      fun request => request.consultation? = none := by
    unfold compareRunning
    split
    · trivial
    · exact ⟨rfl, fun _ => trivial⟩
  exact consultations_eq_nil (history.uses silent)

private theorem of_compareRunning {running : String} {desired : Version}
    {result : Option (Except VersionError Resolution)}
    (history : (compareRunning running desired).HasHistory log result) :
    result = none ∨ result = some (.ok (Resolution.decide desired running)) := by
  unfold compareRunning at history
  split at history
  · exact Or.inr history.of_done.2
  · rcases history.of_bind with ⟨-, never⟩ | ⟨_, _, _, -, rest, -⟩
    · exact Or.inl never
    · exact Or.inr rest.of_done.2

private theorem of_findDesired {options : UpdateOptions}
    {result : Option (Except VersionError Version)}
    (history : (findDesired options).HasHistory log result) :
    consultations log = options.reports ∧
      ∀ version, result = some (.ok version) → Desired options log version := by
  unfold findDesired at history
  split at history
  · next text requested =>
      obtain ⟨rfl, rfl⟩ := history.of_done
      refine ⟨(reports_of_requested requested).symm, fun version parsed => Or.inl ⟨text, ?_⟩⟩
      obtain ⟨same, filled⟩ := (requested_eq_some_iff _ _).mp requested
      exact ⟨same, filled, mapError_eq_ok.mp (Option.some.inj parsed)⟩
  · next missing =>
      rw [reports_of_not_requested missing]
      rcases history.of_bind with ⟨stuck, rfl⟩ | ⟨reply, first, second, asked, rest, rfl⟩
      · obtain rfl := stuck.of_request
        exact ⟨rfl, by simp⟩
      · obtain rfl := asked.of_request
        obtain ⟨rfl, rfl⟩ := rest.of_done
        refine ⟨rfl, fun version reported => Or.inr ⟨?_, ?_⟩⟩
        · exact (requested_eq_none_iff _).mp missing
        · obtain ⟨tag, rfl, parsed⟩ := ofReport_eq_ok_iff.mp (Option.some.inj reported)
          exact ⟨tag, by simp, parsed⟩

theorem consultations_resolveVersion {updater : Updater} {options : UpdateOptions}
    {result : Option (Except VersionError Resolution)}
    (history : (resolveVersion updater options).HasHistory log result) :
    consultations log = options.reports := by
  rw [resolveVersion_eq] at history
  rcases history.of_andThen with ⟨stuck, -⟩ | ⟨error, failed, -⟩ |
    ⟨desired, first, second, before, after, rfl⟩
  · exact (of_findDesired stuck).1
  · exact (of_findDesired failed).1
  · rw [consultations_append, (of_findDesired before).1, consultations_compareRunning after,
      List.append_nil]

theorem desired_of_resolveVersion {updater : Updater} {options : UpdateOptions}
    {resolution : Resolution}
    (history : (resolveVersion updater options).HasHistory log (some (.ok resolution))) :
    Desired options log resolution.version ∧
      resolution = Resolution.decide resolution.version updater.runningVersion := by
  rw [resolveVersion_eq] at history
  rcases history.of_andThen with ⟨-, never⟩ | ⟨error, -, failed⟩ |
    ⟨desired, first, second, before, after, rfl⟩
  · simp at never
  · simp at failed
  have decided : resolution = Resolution.decide desired updater.runningVersion := by
    simpa using of_compareRunning after
  have versionEq : resolution.version = desired := by
    rw [decided, version_decide]
  rw [versionEq]
  exact ⟨((of_findDesired before).2 desired rfl).mono (List.subset_append_left first second),
    decided⟩

theorem consultations_confirmUpdate {options : UpdateOptions} {version : Version}
    {result : Option (Except UpdateError Unit)}
    (history : (confirmUpdate options version).HasHistory log result) :
    consultations log = options.questions := by
  unfold confirmUpdate at history
  unfold UpdateOptions.questions
  split at history
  · next forced =>
      rw [if_pos forced, history.of_done.1]
      rfl
  · next unforced =>
      rw [if_neg unforced]
      rcases history.of_bind with ⟨stuck, -⟩ | ⟨reply, first, second, asked, rest, rfl⟩
      · rw [stuck.of_request]
        rfl
      · have silent : second = [] := by
          split at rest <;> exact rest.of_done.1
        rw [asked.of_request, silent]
        rfl

/-- A question that ends an update was put, and named the release in question. -/
theorem of_confirmUpdate_error {options : UpdateOptions} {version : Version}
    {error : UpdateError}
    (history : (confirmUpdate options version).HasHistory log (some (.error error))) :
    options.force = false ∧ ∃ reason, error = .notConfirmed version.finalized reason := by
  unfold confirmUpdate at history
  split at history
  · have impossible := history.of_done.2
    simp at impossible
  · next unforced =>
      refine ⟨by simpa using unforced, ?_⟩
      rcases history.of_bind with ⟨-, never⟩ | ⟨reply, first, second, -, rest, -⟩
      · simp at never
      · split at rest
        · have impossible := rest.of_done.2
          simp at impossible
        · exact ⟨none, by simpa using rest.of_done.2⟩
        · next reason => exact ⟨some reason, by simpa using rest.of_done.2⟩

/-- A download that is asked for may deliver an archive. -/
theorem of_downloadArchive {url : String}
    {result : Option (Except NetworkError Bytes)}
    (history : (downloadArchive url).HasHistory log result) :
    (result = none ∧ consultations log = []) ∨ consultations log = [.fetch] ∧
      ∀ archive, result = some (.ok archive) →
        ⟨.download url, some (some (.ok archive))⟩ ∈ log := by
  unfold downloadArchive at history
  rcases history.of_bind with ⟨stuck, rfl⟩ | ⟨_, first, later, noted, fetching, rfl⟩
  · rw [stuck.of_request]
    exact Or.inl ⟨rfl, rfl⟩
  right
  obtain rfl := noted.of_request
  rcases fetching.of_bind with ⟨stuck, rfl⟩ | ⟨reply, asked, last, fetched, rest, rfl⟩
  · rw [stuck.of_request]
    exact ⟨rfl, by simp⟩
  obtain rfl := fetched.of_request
  cases reply with
  | some reply =>
      obtain ⟨rfl, rfl⟩ := rest.of_done
      refine ⟨rfl, fun archive delivered => ?_⟩
      obtain rfl : reply = .ok archive := Option.some.inj delivered
      simp
  | none =>
      rcases rest.of_bind with ⟨stuck, rfl⟩ | ⟨_, told, _, noted, ended, rfl⟩
      · rw [stuck.of_request]
        exact ⟨rfl, by simp⟩
      · obtain rfl := noted.of_request
        obtain ⟨rfl, rfl⟩ := ended.of_done
        exact ⟨rfl, by simp⟩

end Stages

end SelfUpdate
