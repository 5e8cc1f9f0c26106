import SelfUpdate.Proofs.Update.Decision
import SelfUpdate.Proofs.Update.Aftermath
import SelfUpdate.Proofs.Version.Finalized

/-!
# Updating twice

An update that has succeeded reports the finalized text of what it installed, and the new
binary will call itself so.  Asked for the same again, it finds itself up to date and
fetches nothing.

That holds of every release without a pre-release.  The finalized text of a version with
a pre-release names the release that comes after it, so the next run does not recognise
what it is asked for, and updates again.  There is one other way to be updated twice: an
executable that lies in the scratch directory of the update is removed together with it.
-/

namespace SelfUpdate

open Program

section Outcomes

variable {updater : Updater} {options : UpdateOptions} {collaborators : Collaborators}
  {host : Host} {memory after : Memory} {release : String}

theorem run_eq_upToDate_iff :
    ((updater.run options).run (collaborators.handler host) memory).1 =
        some (.ok (.upToDate release)) ↔
      ∃ version, collaborators.preparation host memory updater options =
        some (.ok (.upToDate version)) ∧ version.finalized = release := by
  rw [run_eq_of_preparation]
  rcases collaborators.preparation host memory updater options with
    _ | error | (version | ⟨slot, version, binary⟩)
  · simp
  · simp
  · simp [Updater.complete, run]
  · simp only [run_complete_ready]
    rcases ((install slot binary).run (collaborators.handler host) memory).1 with
      _ | _ | _ <;> simp [Updater.outcome]

/-- A run that has updated has completed an installation. -/
theorem installed_of_run_updated {running : String} {path : Path}
    (ran : (updater.run options).run (collaborators.handler host) memory =
      (some (.ok (.updated running release path)), after)) :
    ∃ slot version binary, collaborators.preparation host memory updater options =
        some (.ok (.ready slot version binary)) ∧ version.finalized = release ∧
      (install slot binary).run (collaborators.handler host) memory = (some (.ok ()), after) := by
  rw [run_eq_of_preparation] at ran
  rcases prepared : collaborators.preparation host memory updater options with
    _ | error | (version | ⟨slot, version, binary⟩) <;> rw [prepared] at ran
  · simp at ran
  · simp at ran
  · simp [Updater.complete, run] at ran
  · simp only [run_complete_ready] at ran
    refine ⟨slot, version, binary, rfl, ?_⟩
    rcases ended : (install slot binary).run (collaborators.handler host) memory with
      ⟨_ | _ | _, last⟩
    · simp [ended] at ran
    · simp [ended, Updater.outcome] at ran
    · obtain ⟨⟨-, named, -⟩, rfl⟩ : _ ∧ last = after := by
        simpa [ended, Updater.outcome] using ran
      exact ⟨named, rfl⟩

/-- After an installation the new binary is there, unless it lay in the scratch directory. -/
theorem find?_of_installed {slot : ExecutableSlot} {binary : Bytes}
    (outside : ¬slot.path.liesIn (siblingPath slot.path))
    (staysOnVolume : Memory.crossesVolumes host (siblingPath slot.path) slot.path = false)
    (installed : (install slot binary).run (collaborators.handler host) memory =
      (some (.ok ()), after)) :
    after.tree.find? slot.path =
      if slot.path.liesIn (collaborators.scratch host) then none
      else some (.file binary slot.mode) := by
  have inner : ((writeStaged (collaborators.staged host) binary slot.mode).andThen fun _ =>
      replace (collaborators.scratch host) (collaborators.staged host) slot binary).Proceeds
      (collaborators.handler host) (fun _ _ => True)
      (fun result last => result = .ok () →
        last.tree.find? slot.path = some (.file binary slot.mode))
      (memory.createDirectory (collaborators.scratch host)) := by
    apply ((Collaborators.proceeds_writeStaged (collaborators.staged host) binary slot.mode).mono
      (fun _ _ _ => trivial) fun _ _ ended => ended).andThen
    · simp
    · rintro ⟨⟩ last ⟨-, complete, -⟩
      apply (Collaborators.proceeds_replace outside staysOnVolume (complete rfl) rfl).mono
        fun _ _ _ => trivial
      rintro result final ⟨replaced, -⟩ rfl
      exact replaced
  have made : collaborators.handler host (.createDirectory (collaborators.scratch host)) memory =
      (some (.ok ()), memory.createDirectory (collaborators.scratch host)) := rfl
  have proceeds : (install slot binary).Proceeds (collaborators.handler host)
      (fun _ _ => True)
      (fun result last => result = .ok () → last.tree.find? slot.path =
        if slot.path.liesIn (collaborators.scratch host) then none
        else some (.file binary slot.mode)) memory := by
    apply Proceeds.ask rfl trivial
    apply Proceeds.ask rfl trivial
    apply Proceeds.ask made trivial
    apply Collaborators.proceeds_cleaningUp inner
    · exact fun _ => trivial
    · intro result last ended succeeded
      rw [Memory.find?_removeAll, ended succeeded]
      rfl
  exact proceeds.post_of_run installed rfl

end Outcomes

section Again

variable {updater : Updater} {options : UpdateOptions} {first again : Collaborators}
  {executable : String} {separate : Bool} {memory after : Memory}

theorem decide_finalized_iff (version : Version) :
    Resolution.decide version version.finalized = .upToDate version ↔
      version.preRelease = [] := by
  rw [← Version.sameRelease_released_iff]
  unfold Resolution.decide
  rw [Version.parse_finalized]
  cases same : version.released.sameRelease version <;> simp [Except.toOption, same]

/-- The executable can be found again after an update, unless it was removed with the scratch
directory. -/
theorem located_after_iff {running release : String} {path : Path}
    (ran : (updater.run options).run (first.handler (Host.running executable separate)) memory =
      (some (.ok (.updated running release path)), after)) :
    (∃ slot, after.located (Host.running executable separate) = .ok slot) ↔
      ¬(Path.ofString executable).liesIn (first.scratch (Host.running executable separate)) := by
  obtain ⟨slot, version, binary, ready, -, installed⟩ := installed_of_run_updated ran
  obtain ⟨pathEq, -, writable, -⟩ := of_preparation_ready ready
  have slotPath : slot.path = Path.ofString executable := pathEq
  have found := find?_of_installed (slotPath ▸ not_liesIn_siblingPath executable)
    (slotPath ▸ crossesVolumes_siblingPath) installed
  rw [slotPath] at found
  simp only [located_eq_ok_iff]
  by_cases within : (Path.ofString executable).liesIn
      (first.scratch (Host.running executable separate)) = true
  · rw [if_pos within] at found
    simp only [not_true_eq_false, within, iff_false, not_exists]
    rintro other ⟨-, looked, -⟩
    exact find?_ne_none_of_stat looked found
  · rw [if_neg within] at found
    exact ⟨fun _ => within, fun _ => ⟨slot, pathEq, stat_of_file found, writable⟩⟩

end Again

/-- After an update to a release, the next run with the same report is up to date, if the
release has no pre-release and the executable was not removed with the scratch directory.
It asks for nothing but the report.  Otherwise it is not up to date with any release. -/
theorem convergence_of_run (updater : Updater) (options : UpdateOptions)
    (first again : Collaborators) (executable : String) (separate : Bool)
    (memory after : Memory) (running release : String) (path : Path)
    (sameReport : again.report = first.report)
    (ran : (updater.run options).run (first.handler (Host.running executable separate)) memory =
      (some (.ok (.updated running release path)), after)) :
    ∃ version, updater.Settled options ((updater.run options).exchanges
        (first.handler (Host.running executable separate)) memory) version ∧
      release = version.finalized ∧
      let next : Program Writer Outcome := { updater with runningVersion := release }.run options
      let handler := again.handler (Host.running executable separate)
      let spared := ¬(Path.ofString executable).liesIn
        (first.scratch (Host.running executable separate))
      (∀ text, (next.run handler after).1 = some (.ok (.upToDate text)) ↔
        text = release ∧ version.preRelease = [] ∧ spared) ∧
      (version.preRelease = [] → spared →
        next.run handler after = (some (.ok (.upToDate release)), after) ∧
        consultations (next.exchanges handler after) = options.reports) := by
  have history := hasHistory_exchanges (first.handler (Host.running executable separate))
    (updater.run options) memory
  rw [ran] at history
  obtain ⟨version, settled, named⟩ := (gated_of_run history).settled
    (by simp [Outcome.failedIn]) (by simp [Outcome.failedIn])
  obtain rfl : release = version.finalized := named release (by simp [Outcome.release])
  -- Both runs resolve to the same version, since they ask for the same or are told the same.
  have desired : again.desired options = some (.ok version) := by
    rw [← desired_of_exchanges settled.1, Collaborators.desired, Collaborators.desired, sameReport]
  refine ⟨version, settled, rfl, ?_⟩
  intro next handler spared
  have upToDate (text : String) :
      (next.run handler after).1 = some (.ok (.upToDate text)) ↔
        text = version.finalized ∧ version.preRelease = [] ∧ spared := by
    have passes : _ ↔ spared := located_after_iff ran
    rw [run_eq_upToDate_iff, ← decide_finalized_iff, ← passes]
    simp only [preparation_eq_upToDate_iff, desired, Option.some.injEq, Except.ok.injEq]
    constructor
    · rintro ⟨_, ⟨located, rfl, decided⟩, rfl⟩
      exact ⟨rfl, decided, located⟩
    · rintro ⟨rfl, decided, located⟩
      exact ⟨version, ⟨located, rfl, decided⟩, rfl⟩
  refine ⟨upToDate, fun plain outside => ?_⟩
  have ended := (upToDate version.finalized).mpr ⟨rfl, plain, outside⟩
  have nextHistory := hasHistory_exchanges handler next after
  rw [ended] at nextHistory
  have gated := gated_of_run nextHistory
  refine ⟨Prod.ext ended (run_snd_of_quiet fun exchange member => ?_), gated.consulted⟩
  exact again.handler_of_changesFiles (gated.untouched rfl exchange member)

section Sample

theorem convergence_of_sampleRun :
    (sampleUpdater.run sampleOptions).run sampleHandler sampleMemory =
        (some sampleOutcome,
          ((sampleUpdater.run sampleOptions).run sampleHandler sampleMemory).2) ∧
      ({ sampleUpdater with runningVersion := "1.4.0" }.run sampleOptions).run sampleHandler
          ((sampleUpdater.run sampleOptions).run sampleHandler sampleMemory).2 =
        (some (.ok (.upToDate "1.4.0")),
          ((sampleUpdater.run sampleOptions).run sampleHandler sampleMemory).2) := by
  have ran := eq_mk_of_fst_eq ended_sampleRun
  obtain ⟨version, settled, -, -, converges⟩ := convergence_of_run sampleUpdater sampleOptions
    sampleCollaborators sampleCollaborators "/opt/coder" true sampleMemory _ _ _ _ rfl ran
  have asked : sampleCollaborators.desired sampleOptions = some (.ok ⟨1, 4, 0, [], []⟩) := by
    decide +kernel
  obtain rfl : version = ⟨1, 4, 0, [], []⟩ := by
    simpa [desired_of_exchanges settled.1] using asked
  exact ⟨ran, (converges rfl (by decide)).1⟩

/-- The release candidate of the release that the sample run installs. -/
def samplePreReleaseOptions : UpdateOptions := ⟨true, some "1.4.0-rc.1"⟩

theorem ended_samplePreReleaseRun :
    ((sampleUpdater.run samplePreReleaseOptions).run sampleHandler sampleMemory).1 =
      some sampleOutcome := by
  decide +kernel

theorem ended_samplePreReleaseRunAgain :
    (({ sampleUpdater with runningVersion := "1.4.0" }.run samplePreReleaseOptions).run
      sampleHandler
      ((sampleUpdater.run samplePreReleaseOptions).run sampleHandler sampleMemory).2).1 =
      some (.ok (.updated "1.4.0" "1.4.0" (Path.ofString "/opt/coder"))) := by
  decide +kernel

/-- Not every update is the last one for its release. -/
theorem not_convergence_of_every_run :
    ¬∀ (updater : Updater) (options : UpdateOptions) (first again : Collaborators)
      (executable : String) (separate : Bool) (memory after : Memory) (running release : String)
      (path : Path), again.report = first.report →
      (updater.run options).run (first.handler (Host.running executable separate)) memory =
        (some (.ok (.updated running release path)), after) →
      (({ updater with runningVersion := release }.run options).run
        (again.handler (Host.running executable separate)) after).1 =
          some (.ok (.upToDate release)) := by
  intro converges
  have again := converges sampleUpdater samplePreReleaseOptions sampleCollaborators
    sampleCollaborators "/opt/coder" true sampleMemory _ _ _ _ rfl
    (eq_mk_of_fst_eq ended_samplePreReleaseRun)
  exact absurd (ended_samplePreReleaseRunAgain.symm.trans again) (by simp)

end Sample

end SelfUpdate
