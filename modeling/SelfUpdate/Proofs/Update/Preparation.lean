import SelfUpdate.Proofs.Update.Consultation

/-!
# What an update does before it writes

Up to the moment at which the new binary is at hand, an update only looks and asks.
This first part is a program of its own: it ends with what has to be installed, or
with the news that nothing has to be.  An update is this program followed by the
installation.

How far the first part got can be read off its result, and so can whom it consulted.
-/

namespace SelfUpdate

/-- What has been settled when an update is about to write. -/
inductive Preparation where
  | upToDate (version : Version)
  | ready (slot : ExecutableSlot) (version : Version) (binary : Bytes)

namespace Updater

variable {Handle : Type} (updater : Updater) (options : UpdateOptions)

/-- Have the user agree to a version, and get its binary. -/
def acquire (version : Version) : Program Handle (Except UpdateError Bytes) :=
  (confirmUpdate options version).andThen fun _ =>
  (downloadArchive (updater.archiveUrl version)).orElse .network |>.andThen fun archive =>
  Program.orElse (.done (extractBinary updater.decoders archive)) .archive

/-- The part of an update before anything is written. -/
def prepare : Program Handle (Except UpdateError Preparation) :=
  preflight.orElse .preflight |>.andThen fun slot =>
  (resolveVersion updater options).orElse .version |>.andThen fun
    | .upToDate version => .done (.ok (.upToDate version))
    | .update _ version =>
        (updater.acquire options version).andThen fun binary =>
        .done (.ok (.ready slot version binary))

/-- The part of an update that writes. -/
def complete : Preparation → Program Handle (Except UpdateError UpdateResult)
  | .upToDate version => .done (.ok (.upToDate version.finalized))
  | .ready slot version binary =>
      (install slot binary).orElse .install |>.andThen fun _ =>
      .done (.ok (.updated updater.runningVersion version.finalized slot.path))

theorem run_eq_prepare :
    (updater.run options : Program Handle _) =
      (updater.prepare options).andThen updater.complete := by
  unfold run prepare acquire
  simp only [Program.andThen_assoc]
  congr 1
  funext slot
  congr 1
  funext resolution
  cases resolution with
  | upToDate version => rfl
  | update running version =>
      simp only [Program.andThen_assoc]
      rfl

/-- How getting the binary of a version can have gone, by its result. -/
def Acquired (version : Version) (log : List (Exchange Handle)) :
    Option (Except UpdateError Bytes) → Prop
  | none => consultations log <+: options.questions ++ [.fetch]
  | some (.error (.notConfirmed release _)) =>
      options.force = false ∧ consultations log = options.questions ∧
        release = version.finalized
  | some (.error (.network _)) | some (.error (.archive _)) =>
      consultations log = options.questions ++ [.fetch]
  | some (.error _) => False
  | some (.ok binary) =>
      consultations log = options.questions ++ [.fetch] ∧
        ∃ archive, ⟨.download (updater.archiveUrl version), some (some (.ok archive))⟩ ∈ log ∧
          extractBinary updater.decoders archive = .ok binary

section Histories

open Program

variable {updater options} {log : List (Exchange Handle)}

theorem acquired_of_acquire {version : Version} {result : Option (Except UpdateError Bytes)}
    (history : (updater.acquire options version).HasHistory log result) :
    updater.Acquired options version log result := by
  unfold acquire at history
  rcases history.of_andThen with ⟨stuck, rfl⟩ | ⟨error, declined, rfl⟩ |
    ⟨_, confirmLog, fetchLog, agreed, later, rfl⟩
  · simp [Acquired, consultations_confirmUpdate stuck]
  · obtain ⟨unforced, reason, rfl⟩ := of_confirmUpdate_error declined
    exact ⟨unforced, consultations_confirmUpdate declined, rfl⟩
  have questions := consultations_confirmUpdate agreed
  rcases later.of_stage with ⟨stuck, rfl⟩ | ⟨error, failed, rfl⟩ |
    ⟨archive, downloadLog, extractLog, fetched, extracted, rfl⟩
  · rcases of_downloadArchive stuck with ⟨-, silent⟩ | ⟨fetch, -⟩
    · simp [Acquired, questions, silent]
    · simp [Acquired, questions, fetch]
  · rcases of_downloadArchive failed with ⟨never, -⟩ | ⟨fetch, -⟩
    · simp at never
    · simp [Acquired, questions, fetch]
  rcases of_downloadArchive fetched with ⟨never, -⟩ | ⟨fetch, delivered⟩
  · simp at never
  obtain ⟨rfl, rfl⟩ := extracted.of_done
  cases unpacked : extractBinary updater.decoders archive with
  | error error => simp [Acquired, questions, fetch]
  | ok binary =>
      refine ⟨by simp [questions, fetch], archive, ?_, unpacked⟩
      simp [delivered archive rfl]

theorem acquire_uses {permitted : Request Handle → Prop} (version : Version)
    (confirm : permitted (.confirm (confirmationLabel version)))
    (download : permitted (.download (updater.archiveUrl version)))
    (notify : ∀ notice, permitted (.notify notice)) :
    (updater.acquire options version).Uses permitted := by
  apply (confirmUpdate_uses options version confirm).andThen
  intro _
  apply (downloadArchive_uses download notify).orElse.andThen
  intro archive
  trivial

theorem prepare_uses {permitted : Request Handle → Prop}
    (executablePath : permitted .executablePath) (stat : ∀ path, permitted (.stat path))
    (report : permitted .report) (confirm : ∀ label, permitted (.confirm label))
    (download : ∀ url, permitted (.download url))
    (notify : ∀ notice, permitted (.notify notice)) :
    (updater.prepare options).Uses permitted := by
  apply (preflight_uses executablePath stat).orElse.andThen
  intro slot
  apply (resolveVersion_uses updater options report notify).orElse.andThen
  intro resolution
  cases resolution with
  | upToDate version => trivial
  | update running version =>
      exact (acquire_uses version (confirm _) (download _) notify).andThen fun _ => trivial

end Histories

/-- A history is about one version: the desired one. -/
def Settled (log : List (Exchange Handle)) (version : Version) : Prop :=
  Desired options log version ∧
    ∀ exchange ∈ log, updater.Concerns version exchange.request

/-- How the part of an update before anything is written can have gone, by its result. -/
def Course (log : List (Exchange Handle)) : Option (Except UpdateError Preparation) → Prop
  | none => consultations log <+: options.everyone
  | some (.error (.preflight _)) => consultations log = []
  | some (.error (.version _)) => consultations log = options.reports
  | some (.error (.notConfirmed release _)) =>
      options.force = false ∧ consultations log = options.reports ++ options.questions ∧
        ∃ version, updater.Settled options log version ∧ release = version.finalized
  | some (.error (.network _)) | some (.error (.archive _)) =>
      consultations log = options.everyone ∧ ∃ version, updater.Settled options log version
  | some (.error (.install _)) => False
  | some (.ok (.upToDate version)) =>
      consultations log = options.reports ∧ updater.Settled options log version
  | some (.ok (.ready slot version binary)) =>
      consultations log = options.everyone ∧ updater.Settled options log version ∧
        Found log slot ∧
        ∃ archive, ⟨.download (updater.archiveUrl version), some (some (.ok archive))⟩ ∈ log ∧
          extractBinary updater.decoders archive = .ok binary

section Histories

open Program

variable {updater options} {log : List (Exchange Handle)}

/-- Once the version is resolved, everything before and after is about it. -/
theorem settled_of_resolved {slot : ExecutableSlot} {resolution : Resolution}
    {preflightLog resolveLog : List (Exchange Handle)}
    (located : preflight.HasHistory preflightLog (some (.ok slot)))
    (resolved : (resolveVersion updater options).HasHistory resolveLog (some (.ok resolution)))
    (rest : List (Exchange Handle))
    (concerned : ∀ exchange ∈ rest, updater.Concerns resolution.version exchange.request) :
    updater.Settled options (preflightLog ++ (resolveLog ++ rest)) resolution.version := by
  constructor
  · apply (desired_of_resolveVersion resolved).1.mono
    intro exchange member
    simp [member]
  · intro exchange member
    rcases List.mem_append.mp member with early | later
    · exact located.uses (preflight_uses trivial fun _ => trivial) exchange early
    rcases List.mem_append.mp later with middle | late
    · exact resolved.uses (resolveVersion_uses updater options trivial fun _ => trivial)
        exchange middle
    · exact concerned exchange late

theorem course_of_prepare {result : Option (Except UpdateError Preparation)}
    (history : (updater.prepare options).HasHistory log result) :
    updater.Course options log result := by
  unfold prepare at history
  rcases history.of_stage with ⟨stuck, rfl⟩ | ⟨error, failed, rfl⟩ |
    ⟨slot, preflightLog, _, located, later, rfl⟩
  · simp [Course, consultations_preflight stuck]
  · exact consultations_preflight failed
  have silent := consultations_preflight located
  rcases later.of_stage with ⟨stuck, rfl⟩ | ⟨error, failed, rfl⟩ |
    ⟨resolution, resolveLog, _, resolved, later, rfl⟩
  · simp [Course, UpdateOptions.everyone, silent, consultations_resolveVersion stuck]
  · simp [Course, silent, consultations_resolveVersion failed]
  have reports := consultations_resolveVersion resolved
  have settled := settled_of_resolved located resolved
  cases resolution with
  | upToDate version =>
      obtain ⟨rfl, rfl⟩ := later.of_done
      exact ⟨by simp [silent, reports], settled [] (by simp)⟩
  | update running version =>
      have about {rest : List (Exchange Handle)} {outcome : Option (Except UpdateError Bytes)}
          (acquiring : (updater.acquire options version).HasHistory rest outcome) :
          updater.Settled options (preflightLog ++ (resolveLog ++ rest)) version :=
        settled rest (acquiring.uses (acquire_uses version rfl rfl fun _ => trivial))
      rcases later.of_andThen with ⟨stuck, rfl⟩ | ⟨error, failed, rfl⟩ |
        ⟨binary, acquireLog, _, acquired, last, rfl⟩
      · have acquiring := acquired_of_acquire stuck
        simpa [Course, UpdateOptions.everyone, silent, reports, Acquired] using acquiring
      · have acquiring := acquired_of_acquire failed
        cases error with
        | notConfirmed release reason =>
            obtain ⟨unforced, questions, releaseEq⟩ := acquiring
            exact ⟨unforced, by simp [silent, reports, questions], version, about failed,
              releaseEq⟩
        | network error =>
            exact ⟨by simp [UpdateOptions.everyone, silent, reports, show _ = _ from acquiring],
              version, about failed⟩
        | archive error =>
            exact ⟨by simp [UpdateOptions.everyone, silent, reports, show _ = _ from acquiring],
              version, about failed⟩
        | preflight error => exact acquiring.elim
        | version error => exact acquiring.elim
        | install error => exact acquiring.elim
      · obtain ⟨rfl, rfl⟩ := last.of_done
        obtain ⟨consulted, archive, delivered, extracted⟩ := acquired_of_acquire acquired
        rw [List.append_nil]
        refine ⟨by simp [UpdateOptions.everyone, silent, reports, consulted], about acquired,
          ?_, archive, by simp [delivered], extracted⟩
        exact (found_of_preflight located).mono (List.subset_append_left _ _)

end Histories

end Updater

end SelfUpdate
