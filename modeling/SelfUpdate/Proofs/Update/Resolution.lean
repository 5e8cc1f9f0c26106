import SelfUpdate.Proofs.Update.Decision
import SelfUpdate.Proofs.Version.Release
import SelfUpdate.Proofs.Version.Tag

/-!
# Which version a run settles on

The version asked for counts, and the release host is asked only if there is none.  The first
thing that cannot be read is the result, whatever version is running.  Else the running
version decides whether there is anything to do.

It makes no difference how a run learns of a version: whether the version is asked for, or
reported, or reported as a tag with blanks around it.
-/

namespace SelfUpdate

open Program
open Resolution (Runs)

/-- No version was asked for. -/
def IsMissing (explicit : Option String) : Prop :=
  explicit = none ∨ explicit = some ""

/-- A text was asked for. -/
def IsAsked (explicit : Option String) (text : String) : Prop :=
  explicit = some text ∧ text ≠ ""

/-- The version that is asked for, or else the one that is reported. -/
def IsSought (explicit : Option String) (report : Option (Except (List String) String))
    (version : Version) : Prop :=
  (∃ text, IsAsked explicit text ∧ Version.parse text = .ok version) ∨
    IsMissing explicit ∧ ∃ tag, report = some (.ok tag) ∧ Version.fromTag tag = .ok version

/-- What comes of a version asked for, a report and a running version.  A report that never
comes has no result. -/
structure Settles (explicit : Option String) (report : Option (Except (List String) String))
    (running : String) (result : Option (Except VersionError Resolution)) : Prop where
  unanswered : result = none ↔ IsMissing explicit ∧ report = none
  invalidArgument : ∀ text reason, result = some (.error (.invalidArgument text reason)) ↔
    IsAsked explicit text ∧ Version.parse text = .error reason
  unreported : ∀ reason, result = some (.error (.report reason)) ↔
    IsMissing explicit ∧ report = some (.error reason)
  invalidReported : ∀ tag reason, result = some (.error (.invalidReported tag reason)) ↔
    IsMissing explicit ∧ report = some (.ok tag) ∧ Version.fromTag tag = .error reason
  upToDate : ∀ version, result = some (.ok (.upToDate version)) ↔
    IsSought explicit report version ∧ Runs running version
  update : ∀ current version, result = some (.ok (.update current version)) ↔
    IsSought explicit report version ∧ ¬Runs running version ∧
      current = (Version.parse running).toOption

section Desired

variable {options : UpdateOptions} {collaborators : Collaborators} {explicit : Option String}
  {text tag : String} {reason : Version.ParseError} {version : Version}

theorem isMissing_or_isAsked (explicit : Option String) :
    IsMissing explicit ∨ ∃ text, IsAsked explicit text := by
  cases explicit with
  | none => exact Or.inl (Or.inl rfl)
  | some text =>
      by_cases void : text = ""
      · exact Or.inl (Or.inr (congrArg some void))
      · exact Or.inr ⟨text, rfl, void⟩

theorem IsAsked.not_isMissing (asked : IsAsked explicit text) : ¬IsMissing explicit := by
  obtain ⟨rfl, filled⟩ := asked
  simpa [IsMissing] using filled

theorem IsAsked.iff_eq {other : String} (asked : IsAsked explicit text) :
    IsAsked explicit other ↔ text = other := by
  constructor
  · exact fun also => Option.some.inj (asked.1.symm.trans also.1)
  · rintro rfl
    exact asked

theorem IsMissing.not_isAsked (missing : IsMissing explicit) : ¬IsAsked explicit text :=
  fun asked => asked.not_isMissing missing

theorem desired_of_isAsked (asked : IsAsked options.version text) :
    collaborators.desired options = some (Resolution.ofArgument text) := by
  rw [Collaborators.desired, (requested_eq_some_iff _ _).mpr asked]

theorem desired_of_isMissing (missing : IsMissing options.version) :
    collaborators.desired options = collaborators.report.map Resolution.ofReport := by
  rw [Collaborators.desired, (requested_eq_none_iff _).mpr missing]

theorem ofArgument_eq_error_iff {error : VersionError} :
    Resolution.ofArgument text = .error error ↔
      ∃ reason, Version.parse text = .error reason ∧ .invalidArgument text reason = error :=
  mapError_eq_error_iff

theorem ofReport_eq_error_iff {reply : Except (List String) String} {error : VersionError} :
    Resolution.ofReport reply = .error error ↔
      (∃ reason, reply = .error reason ∧ .report reason = error) ∨
        ∃ tag reason, reply = .ok tag ∧ Version.fromTag tag = .error reason ∧
          .invalidReported tag reason = error := by
  cases reply with
  | error reason => simp [Resolution.ofReport]
  | ok tag => simp [Resolution.ofReport, mapError_eq_error_iff]

theorem desired_eq_none_iff :
    collaborators.desired options = none ↔
      IsMissing options.version ∧ collaborators.report = none := by
  rcases isMissing_or_isAsked options.version with missing | ⟨text, asked⟩
  · simp [desired_of_isMissing missing, missing]
  · simp [desired_of_isAsked asked, asked.not_isMissing]

theorem desired_eq_invalidArgument_iff :
    collaborators.desired options = some (.error (.invalidArgument text reason)) ↔
      IsAsked options.version text ∧ Version.parse text = .error reason := by
  rcases isMissing_or_isAsked options.version with missing | ⟨other, asked⟩
  · simp [desired_of_isMissing missing, ofReport_eq_error_iff, missing.not_isAsked]
  · rw [desired_of_isAsked asked, Option.some.injEq, ofArgument_eq_error_iff, asked.iff_eq]
    constructor
    · rintro ⟨_, failed, same⟩
      obtain ⟨rfl, rfl⟩ := VersionError.invalidArgument.inj same
      exact ⟨rfl, failed⟩
    · rintro ⟨rfl, failed⟩
      exact ⟨reason, failed, rfl⟩

theorem desired_eq_report_iff {reasons : List String} :
    collaborators.desired options = some (.error (.report reasons)) ↔
      IsMissing options.version ∧ collaborators.report = some (.error reasons) := by
  rcases isMissing_or_isAsked options.version with missing | ⟨text, asked⟩
  · simp [desired_of_isMissing missing, ofReport_eq_error_iff, missing]
  · simp [desired_of_isAsked asked, ofArgument_eq_error_iff, asked.not_isMissing]

theorem desired_eq_invalidReported_iff :
    collaborators.desired options = some (.error (.invalidReported tag reason)) ↔
      IsMissing options.version ∧ collaborators.report = some (.ok tag) ∧
        Version.fromTag tag = .error reason := by
  rcases isMissing_or_isAsked options.version with missing | ⟨text, asked⟩
  · rw [desired_of_isMissing missing, Option.map_eq_some_iff]
    constructor
    · rintro ⟨reply, reported, failed⟩
      rcases ofReport_eq_error_iff.mp failed with ⟨_, -, differ⟩ | ⟨_, _, rfl, unread, same⟩
      · simp at differ
      · obtain ⟨rfl, rfl⟩ := VersionError.invalidReported.inj same
        exact ⟨missing, reported, unread⟩
    · rintro ⟨-, reported, unread⟩
      exact ⟨_, reported, ofReport_eq_error_iff.mpr (Or.inr ⟨tag, reason, rfl, unread, rfl⟩)⟩
  · simp [desired_of_isAsked asked, ofArgument_eq_error_iff, asked.not_isMissing]

theorem desired_eq_ok_iff :
    collaborators.desired options = some (.ok version) ↔
      IsSought options.version collaborators.report version := by
  unfold IsSought
  rcases isMissing_or_isAsked options.version with missing | ⟨text, asked⟩
  · rw [desired_of_isMissing missing, Option.map_eq_some_iff]
    simp only [missing, missing.not_isAsked, ofReport_eq_ok_iff, false_and, exists_false,
      false_or, true_and]
    constructor
    · rintro ⟨_, reported, tag, rfl, parsed⟩
      exact ⟨tag, reported, parsed⟩
    · rintro ⟨tag, reported, parsed⟩
      exact ⟨_, reported, tag, rfl, parsed⟩
  · simp [desired_of_isAsked asked, asked.not_isMissing, asked.iff_eq, Resolution.ofArgument,
      mapError_eq_ok]

end Desired

section Settling

variable {desired : Option (Except VersionError Version)} {running : String}
  {version : Version}

/-- What is desired is compared with the running version, if it could be found. -/
def compared (desired : Option (Except VersionError Version)) (running : String) :
    Option (Except VersionError Resolution) :=
  desired.map (·.map (Resolution.decide · running))

theorem compared_eq_error_iff {error : VersionError} :
    compared desired running = some (.error error) ↔ desired = some (.error error) := by
  simp [compared, map_eq_error_iff]

theorem compared_eq_ok_iff {resolution : Resolution} :
    compared desired running = some (.ok resolution) ↔
      ∃ version, desired = some (.ok version) ∧
        Resolution.decide version running = resolution := by
  rcases desired with _ | error | version <;> simp [compared, Except.map]

theorem compared_eq_upToDate_iff :
    compared desired running = some (.ok (.upToDate version)) ↔
      desired = some (.ok version) ∧ Runs running version := by
  simp [compared_eq_ok_iff, Resolution.decide_eq_upToDate_iff]

theorem compared_eq_update_iff {current : Option Version} :
    compared desired running = some (.ok (.update current version)) ↔
      desired = some (.ok version) ∧ ¬Runs running version ∧
        current = (Version.parse running).toOption := by
  simp [compared_eq_ok_iff, Resolution.decide_eq_update_iff]

theorem settles_compared (options : UpdateOptions) (collaborators : Collaborators)
    (running : String) :
    Settles options.version collaborators.report running
      (compared (collaborators.desired options) running) where
  unanswered := Option.map_eq_none_iff.trans desired_eq_none_iff
  invalidArgument _ _ := compared_eq_error_iff.trans desired_eq_invalidArgument_iff
  unreported _ := compared_eq_error_iff.trans desired_eq_report_iff
  invalidReported _ _ := compared_eq_error_iff.trans desired_eq_invalidReported_iff
  upToDate _ := compared_eq_upToDate_iff.trans (and_congr_left' desired_eq_ok_iff)
  update _ _ := compared_eq_update_iff.trans (and_congr_left' desired_eq_ok_iff)

end Settling

/-- A tag names a version by a text: it may have blank characters around it and one `v` in
front. -/
def Tags (tag text : String) : Prop :=
  ∃ front mark back, Text.AreBlank front ∧ Version.IsTagMark mark ∧ Text.AreBlank back ∧
    tag.toList = front ++ (mark ++ text.toList) ++ back

theorem fromTag_of_tags {tag text : String} {version : Version}
    (parsed : Version.parse text = .ok version) (tags : Tags tag text) :
    Version.fromTag tag = .ok version := by
  obtain ⟨front, mark, back, frontBlank, marked, backBlank, padded⟩ := tags
  obtain ⟨wellFormed, rfl⟩ := Version.parse_eq_ok_iff.mp parsed
  rw [Version.display, String.toList_ofList] at padded
  exact Version.fromTag_of_padded wellFormed frontBlank backBlank marked padded

section Runs

variable (updater : Updater) {options : UpdateOptions} {collaborators : Collaborators}
  (host : Host) (memory : Memory) {version : Version}

theorem run_resolveVersion_of_isSought
    (sought : IsSought options.version collaborators.report version) :
    (resolveVersion updater options).run (collaborators.handler host) memory =
      (some (.ok (Resolution.decide version updater.runningVersion)), memory) := by
  rw [run_resolveVersion, desired_eq_ok_iff.mpr sought]
  rfl

/-- A run decides as if its report had been known from the start.  Where a version is asked
for there may be none. -/
theorem run_resolveVersion_eq_resolve {reply : Except (List String) String}
    (reported : IsMissing options.version → collaborators.report = some reply) :
    (resolveVersion updater options).run (collaborators.handler host) memory =
      (some (Resolution.resolve options.version reply updater.runningVersion), memory) := by
  rw [run_resolveVersion, Resolution.resolve]
  rcases isMissing_or_isAsked options.version with missing | ⟨text, asked⟩
  · rw [desired_of_isMissing missing, reported missing, (requested_eq_none_iff _).mpr missing]
    rfl
  · rw [desired_of_isAsked asked, (requested_eq_some_iff _ _).mpr asked]
    rfl

/-- A run asks the release host only if no version was asked for, and then once.  It leaves
the memory alone, and settles on the version that was asked for or else reported.  Asking for
a version, and reporting a tag of it, comes to the same. -/
theorem resolution_of_run :
    (∀ (options : UpdateOptions) (collaborators : Collaborators),
      let program := resolveVersion updater options
      let handler := collaborators.handler host
      consultations (program.exchanges handler memory) = options.reports ∧
        (program.run handler memory).2 = memory ∧
        Settles options.version collaborators.report updater.runningVersion
          (program.run handler memory).1 ∧
        ∀ reply, (IsMissing options.version → collaborators.report = some reply) →
          (program.run handler memory).1 =
            some (Resolution.resolve options.version reply updater.runningVersion)) ∧
    ∀ text version, Version.parse text = .ok version →
      ∀ (asking telling : UpdateOptions) (silent reporting : Collaborators) (tag : String),
        asking.version = some text → IsMissing telling.version →
        reporting.report = some (.ok tag) → Tags tag text →
        (resolveVersion updater asking).run (silent.handler host) memory =
            (some (.ok (Resolution.decide version updater.runningVersion)), memory) ∧
          (resolveVersion updater telling).run (reporting.handler host) memory =
            (some (.ok (Resolution.decide version updater.runningVersion)), memory) := by
  refine ⟨fun options collaborators => ⟨?_, ?_, ?_, ?_⟩, ?_⟩
  · exact consultations_resolveVersion (hasHistory_exchanges _ _ _)
  · rw [run_resolveVersion]
  · rw [run_resolveVersion]
    exact settles_compared options collaborators updater.runningVersion
  · intro reply reported
    rw [run_resolveVersion_eq_resolve updater host memory reported]
  · intro text version parsed asking telling silent reporting tag asks missing reported tags
    have asked : IsSought asking.version silent.report version :=
      Or.inl ⟨text, ⟨asks, Version.ne_empty_of_parse parsed⟩, parsed⟩
    have told : IsSought telling.version reporting.report version :=
      Or.inr ⟨missing, tag, reported, fromTag_of_tags parsed tags⟩
    exact ⟨run_resolveVersion_of_isSought updater host memory asked,
      run_resolveVersion_of_isSought updater host memory told⟩

end Runs

section Sample

/-- A tag of version 1.4.0-rc.1 with a tab and a line break in front and a wide blank at the
end. -/
def blankedTag : String := "\t\nv1.4.0-rc.1+linux\u3000"

theorem tags_blankedTag : Tags blankedTag "1.4.0-rc.1+linux" := by
  refine ⟨['\t', '\n'], ['v'], ['\u3000'], ?_, Or.inr rfl, ?_, by decide⟩
  · simp [Text.AreBlank, Text.isBlank, Text.blankRanges]
  · simp [Text.AreBlank, Text.isBlank, Text.blankRanges]

def askingOptions : UpdateOptions := ⟨true, some "1.4.0-rc.1+linux"⟩

def tellingOptions : UpdateOptions := ⟨true, some ""⟩

/-- The release host reports a tag with blanks around it. -/
def tellingCollaborators : Collaborators :=
  { sampleCollaborators with report := some (.ok blankedTag) }

theorem resolution_of_sampleRuns :
    let version : Version := ⟨1, 4, 0, ["rc".toList, "1".toList], ["linux".toList]⟩
    ((resolveVersion sampleUpdater askingOptions).run sampleHandler sampleMemory).1 =
        some (.ok (.update (some ⟨1, 3, 0, [], []⟩) version)) ∧
      (resolveVersion sampleUpdater askingOptions).run sampleHandler sampleMemory =
        (resolveVersion sampleUpdater tellingOptions).run
          (tellingCollaborators.handler (Host.running "/opt/coder" true)) sampleMemory ∧
      tellingOptions.reports = [.report] := by
  have parsed : Version.parse "1.4.0-rc.1+linux" =
      .ok ⟨1, 4, 0, ["rc".toList, "1".toList], ["linux".toList]⟩ := by
    decide +kernel
  have running : Version.parse "1.3.0" = .ok ⟨1, 3, 0, [], []⟩ := by
    decide +kernel
  obtain ⟨asked, told⟩ :=
    (resolution_of_run sampleUpdater (Host.running "/opt/coder" true) sampleMemory).2 _ _ parsed
      askingOptions tellingOptions sampleCollaborators tellingCollaborators blankedTag rfl
      (Or.inr rfl) rfl tags_blankedTag
  refine ⟨?_, asked.trans told.symm, by decide⟩
  rw [sampleHandler, asked]
  decide +kernel

end Sample

end SelfUpdate
