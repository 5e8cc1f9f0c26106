import SelfUpdate.Proofs.Update.Composition
import SelfUpdate.Proofs.Update.Replacement

/-!
# What a run in memory decides

Whether a run in memory installs anything, and what, is settled by its first part, and that
part leaves the memory alone.  So a run is known from its preparation: it ends there, or it
goes on to install from the memory it was given.

The preparation in turn is known from what preflight finds in the memory and from the
version that is asked for or reported.
-/

namespace SelfUpdate

open Program

section Deciding

variable {updater : Updater} {options : UpdateOptions} {collaborators : Collaborators}
  {host : Host} {memory : Memory}

/-- The version that is asked for, or else the one reported, if the report ever comes. -/
def Collaborators.desired (collaborators : Collaborators) (options : UpdateOptions) :
    Option (Except VersionError Version) :=
  match Resolution.requested options.version with
  | some version => some (Resolution.ofArgument version)
  | none => collaborators.report.map Resolution.ofReport

theorem run_findDesired (options : UpdateOptions) (collaborators : Collaborators) (host : Host)
    (memory : Memory) :
    (findDesired options).run (collaborators.handler host) memory =
      (collaborators.desired options, memory) := by
  unfold findDesired Collaborators.desired
  cases Resolution.requested options.version with
  | some version => rfl
  | none =>
      change (Program.ask .report _).run _ _ = _
      simp only [run, Collaborators.handler]
      cases collaborators.report <;> rfl

theorem run_compareRunning (running : String) (desired : Version)
    (collaborators : Collaborators) (host : Host) (memory : Memory) :
    (compareRunning running desired).run (collaborators.handler host) memory =
      (some (.ok (Resolution.decide desired running)), memory) := by
  unfold compareRunning
  cases Version.parse running <;> rfl

theorem run_resolveVersion (updater : Updater) (options : UpdateOptions)
    (collaborators : Collaborators) (host : Host) (memory : Memory) :
    (resolveVersion updater options).run (collaborators.handler host) memory =
      ((collaborators.desired options).map (·.map (Resolution.decide · updater.runningVersion)),
        memory) := by
  rw [resolveVersion_eq, andThen, run_bind, run_findDesired]
  rcases collaborators.desired options with _ | error | desired
  · rfl
  · rfl
  · exact run_compareRunning updater.runningVersion desired collaborators host memory

theorem run_prepare (updater : Updater) (options : UpdateOptions)
    (collaborators : Collaborators) (host : Host) (memory : Memory) :
    (updater.prepare options).run (collaborators.handler host) memory =
      (collaborators.preparation host memory updater options, memory) :=
  Prod.ext rfl (run_snd_of_quiet (quiet_prepare updater options collaborators host memory))

/-- A run ends with its preparation, or it completes what was prepared. -/
theorem run_eq_of_preparation (updater : Updater) (options : UpdateOptions)
    (collaborators : Collaborators) (host : Host) (memory : Memory) :
    (updater.run options).run (collaborators.handler host) memory =
      match collaborators.preparation host memory updater options with
      | some (.ok preparation) =>
          (updater.complete preparation).run (collaborators.handler host) memory
      | some (.error error) => (some (.error error), memory)
      | none => (none, memory) := by
  rw [updater.run_eq_prepare options, andThen, run_bind, run_prepare]
  rcases collaborators.preparation host memory updater options with _ | _ | _ <;> rfl

theorem run_complete_ready (updater : Updater) (slot : ExecutableSlot) (version : Version)
    (binary : Bytes) (handler : Handler Writer Memory) (memory : Memory) :
    (updater.complete (.ready slot version binary)).run handler memory =
      (((install slot binary).run handler memory).1.map (updater.outcome slot version),
        ((install slot binary).run handler memory).2) := by
  rw [Updater.complete, andThen, run_bind, run_orElse]
  rcases (install slot binary).run handler memory with ⟨_ | _ | _, after⟩ <;> rfl

/-- What preflight finds: an executable that is there and can be written passes. -/
def Memory.located (memory : Memory) (host : Host) : Except PreflightError ExecutableSlot :=
  match memory.stat host.executable with
  | .error failure => .error (.stat host.executable failure)
  | .ok stat =>
      if stat.isWritable = true then .ok ⟨host.executable, stat.mode⟩
      else .error (.notWritable host.executable stat.mode)

theorem run_preflight_eq (collaborators : Collaborators) (host : Host) (memory : Memory) :
    preflight.run (collaborators.handler host) memory = (some (memory.located host), memory) := by
  simp only [preflight, andThen, run_bind, run_orElse, request, run, Collaborators.handler,
    Option.map_some, mapError_ok, Memory.located]
  cases memory.stat host.executable with
  | error failure => rfl
  | ok stat => by_cases writable : stat.isWritable = true <;> simp [writable, run]

theorem located_eq_ok_iff {slot : ExecutableSlot} :
    memory.located host = .ok slot ↔ slot.path = host.executable ∧
      memory.stat host.executable = .ok ⟨slot.mode⟩ ∧
        (FileStat.mk slot.mode).isWritable = true := by
  obtain ⟨path, mode⟩ := slot
  unfold Memory.located
  cases memory.stat host.executable with
  | error failure => simp
  | ok stat =>
      by_cases writable : stat.isWritable = true
      · simp only [if_pos writable, Except.ok.injEq, ExecutableSlot.mk.injEq]
        constructor
        · rintro ⟨rfl, rfl⟩
          exact ⟨rfl, rfl, writable⟩
        · rintro ⟨rfl, rfl, -⟩
          exact ⟨rfl, rfl⟩
      · simp only [if_neg writable, reduceCtorEq, Except.ok.injEq, false_iff]
        rintro ⟨-, rfl, passes⟩
        exact writable passes

/-- How a preparation goes on from what has been located. -/
theorem preparation_eq (updater : Updater) (options : UpdateOptions)
    (collaborators : Collaborators) (host : Host) (memory : Memory) :
    collaborators.preparation host memory updater options =
      match memory.located host with
      | .error error => some (.error (.preflight error))
      | .ok slot =>
          match collaborators.desired options with
          | none => none
          | some (.error error) => some (.error (.version error))
          | some (.ok version) =>
              match Resolution.decide version updater.runningVersion with
              | .upToDate version => some (.ok (.upToDate version))
              | .update _ version =>
                  ((updater.acquire options version).run (collaborators.handler host) memory).1.map
                    (·.map (.ready slot version)) := by
  unfold Collaborators.preparation Updater.prepare
  rw [andThen, run_bind, run_orElse, run_preflight_eq]
  rcases memory.located host with error | slot
  · rfl
  simp only [Option.map_some, mapError_ok, andThen, run_bind, run_orElse, run_resolveVersion]
  rcases collaborators.desired options with _ | error | desired
  · rfl
  · rfl
  simp only [Option.map_some, Except.map, mapError_ok]
  cases Resolution.decide desired updater.runningVersion with
  | upToDate version => rfl
  | update running version =>
      simp only [run_bind]
      rcases (updater.acquire options version).run (collaborators.handler host) memory with
        ⟨_ | _ | _, after⟩ <;> rfl

/-- Nothing is to be done if the desired version is already running. -/
theorem preparation_eq_upToDate_iff {version : Version} :
    collaborators.preparation host memory updater options = some (.ok (.upToDate version)) ↔
      (∃ slot, memory.located host = .ok slot) ∧
        collaborators.desired options = some (.ok version) ∧
        Resolution.decide version updater.runningVersion = .upToDate version := by
  rw [preparation_eq]
  rcases memory.located host with error | slot
  · simp
  rcases collaborators.desired options with _ | error | desired
  · simp
  · simp
  have named := version_decide desired updater.runningVersion
  cases decided : Resolution.decide desired updater.runningVersion with
  | upToDate resolved =>
      rw [decided] at named
      obtain rfl : resolved = desired := named
      simp only [decided, Option.some.injEq, Except.ok.injEq, Preparation.upToDate.injEq]
      constructor
      · rintro rfl
        exact ⟨⟨slot, rfl⟩, rfl, decided⟩
      · rintro ⟨-, same, -⟩
        exact same
  | update running resolved =>
      simp only [decided]
      constructor
      · intro ended
        obtain ⟨acquired, -, same⟩ := Option.map_eq_some_iff.mp ended
        cases acquired <;> simp [Except.map] at same
      · rintro ⟨-, same, upToDate⟩
        obtain rfl : desired = version := by simpa using same
        simp [decided] at upToDate

/-- The version that a run in memory was about is the one its collaborators stand for. -/
theorem desired_of_exchanges {α : Type} {program : Program Writer α} {version : Version}
    (desired : Desired options (program.exchanges (collaborators.handler host) memory) version) :
    collaborators.desired options = some (.ok version) := by
  unfold Collaborators.desired
  rcases desired with ⟨text, asked, filled, parsed⟩ | ⟨missing, tag, reported, parsed⟩
  · rw [(requested_eq_some_iff _ _).mpr ⟨asked, filled⟩]
    simp [Resolution.ofArgument, parsed]
  · obtain ⟨now, answered⟩ := exists_answer reported
    have report : collaborators.report = some (.ok tag) := answered
    rw [(requested_eq_none_iff _).mpr missing, report]
    simp [Resolution.ofReport, parsed]

end Deciding

end SelfUpdate
