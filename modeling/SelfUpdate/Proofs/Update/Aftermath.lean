import SelfUpdate.Proofs.Archive.Extraction
import SelfUpdate.Proofs.Update.Replacement

/-!
# What a run leaves behind

When a run in memory has ended, its outcome and the memory agree.  An updated executable
holds what was extracted from the archive, and could be updated again; after any other
outcome it is what it was.  Nothing new is left except the directory for temporary files.

What was there before is still there, too, with one exception.  A binary that cannot be
renamed across volumes is staged at a fixed place next to the executable, and that place
is emptied in the end, with everything that lay at or below it before the run.
-/

namespace SelfUpdate

open Program

/-- A run has to stage the binary next to the executable. -/
def Collaborators.StagesBeside (collaborators : Collaborators) (host : Host) (memory : Memory)
    (updater : Updater) (options : UpdateOptions) : Prop :=
  ∃ slot version binary, collaborators.preparation host memory updater options =
      some (.ok (.ready slot version binary)) ∧
    collaborators.FallsBack host memory slot.path binary

section Ended

variable {updater : Updater} {options : UpdateOptions} {collaborators : Collaborators}
  {host : Host} {memory after : Memory} {outcome : Outcome} {path : Path} {node : Node}

theorem stagesBeside_iff {slot : ExecutableSlot} {version : Version} {binary : Bytes}
    (ready : collaborators.preparation host memory updater options =
      some (.ok (.ready slot version binary))) :
    collaborators.StagesBeside host memory updater options ↔
      collaborators.FallsBack host memory slot.path binary := by
  constructor
  · rintro ⟨other, otherVersion, otherBinary, sameReady, fallsBack⟩
    obtain ⟨rfl, rfl, rfl⟩ : slot = other ∧ version = otherVersion ∧ binary = otherBinary := by
      simpa using ready.symm.trans sameReady
    exact fallsBack
  · exact fun fallsBack => ⟨slot, version, binary, ready, fallsBack⟩

/-- Everything survives that is spared by the removal of the sibling. -/
theorem Concluded.survives (concluded : Concluded updater options collaborators host memory
      outcome after) (apart : path.components ≠ host.executable.components)
    (found : memory.tree.find? path = some node)
    (spared : ¬(collaborators.StagesBeside host memory updater options ∧
      path.liesIn (siblingPath host.executable))) :
    after.tree.find? path = some node := by
  cases concluded with
  | idle harmless notReady => exact found
  | installed ready installed =>
      have slotPath := (of_preparation_ready ready).1
      rw [stagesBeside_iff ready, ← slotPath] at spared
      rw [← slotPath] at apart
      rw [installed.elsewhere path apart, if_neg spared]
      exact Memory.find?_createDirectory_of_some found

theorem Concluded.lost (concluded : Concluded updater options collaborators host memory
      outcome after) (apart : path.components ≠ host.executable.components)
    (beside : collaborators.StagesBeside host memory updater options)
    (within : path.liesIn (siblingPath host.executable)) : after.tree.find? path = none := by
  cases concluded with
  | idle harmless notReady =>
      obtain ⟨slot, version, binary, ready, -⟩ := beside
      exact absurd ready (notReady slot version binary)
  | installed ready installed =>
      have slotPath := (of_preparation_ready ready).1
      rw [stagesBeside_iff ready] at beside
      rw [← slotPath] at apart within
      rw [installed.elsewhere path apart, if_pos ⟨beside, within⟩]

/-- After an update the executable is the file that was to be installed. -/
theorem Concluded.of_updated (concluded : Concluded updater options collaborators host memory
      outcome after) {running release : String}
    (updated : outcome = .ok (.updated running release path)) :
    path = host.executable ∧ ∃ slot version binary,
      collaborators.preparation host memory updater options =
          some (.ok (.ready slot version binary)) ∧
        after.tree.find? host.executable = some (.file binary slot.mode) := by
  cases concluded with
  | idle harmless notReady => simp [updated, Outcome.installs] at harmless
  | @installed slot version binary result _ ready installed =>
      cases result with
      | error error => simp [Updater.outcome] at updated
      | ok _ =>
          have slotPath := (of_preparation_ready ready).1
          obtain ⟨-, -, rfl⟩ : _ ∧ _ ∧ slot.path = path := by
            simpa [Updater.outcome] using updated
          refine ⟨slotPath, slot, version, binary, ready, ?_⟩
          rw [← slotPath]
          exact installed.replaced

theorem Concluded.find?_executable (concluded : Concluded updater options collaborators host
      memory outcome after)
    (notUpdated : ∀ running release path, outcome ≠ .ok (.updated running release path)) :
    after.tree.find? host.executable = memory.tree.find? host.executable := by
  cases concluded with
  | idle harmless notReady => rfl
  | @installed slot version binary result _ ready installed =>
      cases result with
      | ok _ => exact absurd rfl (notUpdated _ _ _)
      | error error =>
          rw [← (of_preparation_ready ready).1]
          exact installed.replaced

/-- What is new after a run was made along with the directory for temporary files. -/
theorem Concluded.madeAlong_of_new (concluded : Concluded updater options collaborators host
      memory outcome after) (found : after.tree.find? path = some node)
    (missing : memory.tree.find? path = none) :
    node = .directory ∧ Memory.MadeAlong host.temporary path := by
  classical
  cases concluded with
  | idle harmless notReady => simp [missing] at found
  | installed ready installed =>
      obtain ⟨slotPath, looked, -, -⟩ := of_preparation_ready ready
      have apart : path.components ≠ host.executable.components := by
        intro same
        apply find?_ne_none_of_stat looked
        rw [← memory.tree.find?_congr same, missing]
      rw [installed.elsewhere path (slotPath ▸ apart)] at found
      split at found
      · simp at found
      · rw [Memory.find?_createDirectory] at found
        split at found
        · next made => exact ⟨(Option.some.inj found).symm, made.1⟩
        · simp [missing] at found

end Ended

theorem madeAlong_tmp {path : Path} :
    Memory.MadeAlong (Path.ofString "/tmp") path ↔
      path.sameAs (Path.ofString "/tmp") ∨ path.sameAs (Path.ofString "/") := by
  have ancestors : (Path.ofString "/tmp").ancestors =
      [Path.ofString "/tmp", Path.ofString "/"] := by
    decide
  have notEmpty : (Path.ofString "/tmp").isEmpty = false ∧
      (Path.ofString "/").isEmpty = false := by
    decide
  simp [Memory.MadeAlong, ancestors, notEmpty]

theorem run_preflight {collaborators : Collaborators} {host : Host} {memory : Memory}
    {mode : UInt32} (looked : memory.stat host.executable = .ok ⟨mode⟩)
    (writable : (FileStat.mk mode).isWritable = true) :
    (preflight.run (collaborators.handler host) memory).1 =
      some (.ok ⟨host.executable, mode⟩) := by
  simp [preflight, Program.andThen, Program.orElse, Program.request, run,
    Collaborators.handler, looked, writable]

theorem stat_of_file {memory : Memory} {path : Path} {content : Bytes} {mode : UInt32}
    (found : memory.tree.find? path = some (.file content mode)) :
    memory.stat path = .ok ⟨mode⟩ := by
  simp [Memory.stat, found]

/-- The result of a run and the memory after it agree, and the run leaves no residue. -/
theorem aftermath_of_run (updater : Updater) (options : UpdateOptions)
    (collaborators : Collaborators) (executable : String) (separate : Bool)
    (memory after : Memory) (outcome : Outcome)
    (unused : collaborators.Unused (Host.running executable separate) memory)
    (ran : (updater.run options).run
      (collaborators.handler (Host.running executable separate)) memory = (some outcome, after)) :
    (∀ running release path, outcome = .ok (.updated running release path) →
      path = Path.ofString executable ∧ ∃ binary mode,
        updater.Fetched ((updater.run options).exchanges
          (collaborators.handler (Host.running executable separate)) memory) binary ∧
        binary.length ≤ maxBinarySize.toNat ∧
        after.tree.find? path = some (.file binary mode) ∧
        memory.stat path = .ok ⟨mode⟩ ∧
        (preflight.run (collaborators.handler (Host.running executable separate)) memory).1 =
          some (.ok ⟨path, mode⟩) ∧
        (preflight.run (collaborators.handler (Host.running executable separate)) after).1 =
          some (.ok ⟨path, mode⟩)) ∧
    ((∀ running release path, outcome ≠ .ok (.updated running release path)) →
      after.tree.find? (Path.ofString executable) =
        memory.tree.find? (Path.ofString executable)) ∧
    ∀ path node, after.tree.find? path = some node → memory.tree.find? path = none →
      node = .directory ∧
        (path.sameAs (Path.ofString "/tmp") ∨ path.sameAs (Path.ofString "/")) := by
  have proceeds : (updater.run options).Proceeds _ _ _ memory := proceeds_run unused
  have concluded := proceeds.post_of_run ran
  refine ⟨fun running release path updated => ?_, concluded.find?_executable,
    fun path node found missing => ?_⟩
  · obtain ⟨rfl, slot, version, binary, ready, found⟩ := concluded.of_updated updated
    obtain ⟨-, looked, writable, fetched⟩ := of_preparation_ready ready
    have bounded : binary.length ≤ maxBinarySize.toNat := by
      obtain ⟨url, archive, -, extracted⟩ := fetched
      exact length_le_of_extract extracted
    exact ⟨rfl, binary, slot.mode, fetched, bounded, found, looked,
      run_preflight looked writable, run_preflight (stat_of_file found) writable⟩
  · rw [← madeAlong_tmp]
    exact concluded.madeAlong_of_new found missing

theorem eq_mk_of_fst_eq {α β : Type} {pair : α × β} {first : α}
    (same : pair.1 = first) : pair = (first, pair.2) := by
  rw [← same]

theorem aftermath_of_sampleRun :
    sampleCollaborators.Unused (Host.running "/opt/coder" true) sampleMemory ∧
      (sampleUpdater.run sampleOptions).run sampleHandler sampleMemory =
        (some sampleOutcome,
          ((sampleUpdater.run sampleOptions).run sampleHandler sampleMemory).2) ∧
      ∃ binary mode,
        ((sampleUpdater.run sampleOptions).run sampleHandler sampleMemory).2.tree.find?
          (Path.ofString "/opt/coder") = some (.file binary mode) ∧
        (preflight.run sampleHandler sampleMemory).1 =
          some (.ok ⟨Path.ofString "/opt/coder", mode⟩) := by
  have ran := eq_mk_of_fst_eq ended_sampleRun
  obtain ⟨updated, -, -⟩ := aftermath_of_run sampleUpdater sampleOptions sampleCollaborators
    "/opt/coder" true sampleMemory _ sampleOutcome unused_sampleMemory ran
  obtain ⟨-, binary, mode, -, -, found, -, before, -⟩ := updated _ _ _ rfl
  exact ⟨unused_sampleMemory, ran, binary, mode, found, before⟩

/-- A run destroys nothing but what lies next to the executable at the place where it has to
stage the binary, if it has to. -/
theorem survival_of_run (updater : Updater) (options : UpdateOptions)
    (collaborators : Collaborators) (executable : String) (separate : Bool)
    (memory after : Memory) (outcome : Outcome)
    (unused : collaborators.Unused (Host.running executable separate) memory)
    (ran : (updater.run options).run
      (collaborators.handler (Host.running executable separate)) memory = (some outcome, after)) :
    let staging :=
      collaborators.StagesBeside (Host.running executable separate) memory updater options
    let sibling := siblingPath (Path.ofString executable)
    (∀ path node, path.components ≠ (Path.ofString executable).components →
      memory.tree.find? path = some node →
        (staging ∧ path.liesIn sibling → after.tree.find? path = none) ∧
        (¬(staging ∧ path.liesIn sibling) → after.tree.find? path = some node)) ∧
    ((∀ path node, path.components ≠ (Path.ofString executable).components →
        memory.tree.find? path = some node → after.tree.find? path = some node) ↔
      ¬(staging ∧ ∃ path node, path.liesIn sibling ∧ memory.tree.find? path = some node)) := by
  intro staging sibling
  have proceeds : (updater.run options).Proceeds _ _ _ memory := proceeds_run unused
  have concluded := proceeds.post_of_run ran
  have beyond {path : Path} (within : path.liesIn sibling) :
      path.components ≠ (Path.ofString executable).components := by
    intro same
    apply not_liesIn_siblingPath executable
    rwa [Path.liesIn_iff, ← same, ← Path.liesIn_iff]
  refine ⟨fun path node apart found => ⟨fun both => ?_, fun spared => ?_⟩, ?_, ?_⟩
  · exact concluded.lost apart both.1 both.2
  · exact concluded.survives apart found spared
  · rintro survives ⟨beside, path, node, within, found⟩
    have stillThere := survives path node (beyond within) found
    simp [concluded.lost (beyond within) beside within] at stillThere
  · intro spared path node apart found
    refine concluded.survives apart found fun both => ?_
    exact spared ⟨both.1, path, node, both.2, found⟩

section Sample

def sampleNotes : Path := Path.ofString "/opt/coder.new/notes.txt"

/-- Someone keeps notes next to the executable. -/
def sampleFullMemory : Memory := sampleMemory.addFile sampleNotes [72, 105] 0o644

theorem unused_sampleFullMemory :
    sampleCollaborators.Unused (Host.running "/opt/coder" true) sampleFullMemory :=
  Collaborators.unused_of_entries (by decide)

theorem ended_sampleFullRun :
    ((sampleUpdater.run sampleOptions).run sampleHandler sampleFullMemory).1 =
      some sampleOutcome := by
  decide +kernel

set_option maxRecDepth 4000 in
theorem stagesBeside_sampleFullMemory :
    sampleCollaborators.StagesBeside (Host.running "/opt/coder" true) sampleFullMemory
      sampleUpdater sampleOptions := by
  refine ⟨⟨Path.ofString "/opt/coder", 0o755⟩, ⟨1, 4, 0, [], []⟩, [78, 69, 87], ?_, ?_⟩
  · rfl
  · decide

theorem survival_of_sampleFullRun :
    sampleCollaborators.Unused (Host.running "/opt/coder" true) sampleFullMemory ∧
      (sampleUpdater.run sampleOptions).run sampleHandler sampleFullMemory =
        (some sampleOutcome,
          ((sampleUpdater.run sampleOptions).run sampleHandler sampleFullMemory).2) ∧
      ((sampleUpdater.run sampleOptions).run sampleHandler sampleFullMemory).2.tree.find?
        sampleNotes = none ∧
      ((sampleUpdater.run sampleOptions).run sampleHandler sampleFullMemory).2.tree.find?
        (Path.ofString "/opt") = some .directory := by
  have ran := eq_mk_of_fst_eq ended_sampleFullRun
  obtain ⟨fates, -⟩ := survival_of_run sampleUpdater sampleOptions sampleCollaborators
    "/opt/coder" true sampleFullMemory _ sampleOutcome unused_sampleFullMemory ran
  obtain ⟨lost, -⟩ := fates sampleNotes (.file [72, 105] 0o644) (by decide) (by decide)
  obtain ⟨-, kept⟩ := fates (Path.ofString "/opt") .directory (by decide) (by decide)
  refine ⟨unused_sampleFullMemory, ran, lost ⟨stagesBeside_sampleFullMemory, by decide⟩,
    kept fun both => ?_⟩
  exact absurd both.2 (by decide)

set_option maxRecDepth 4000 in
/-- Not every run preserves what it did not make. -/
theorem not_survival_of_every_run :
    ¬∀ (updater : Updater) (options : UpdateOptions) (collaborators : Collaborators)
      (executable : String) (separate : Bool) (memory after : Memory) (outcome : Outcome),
      collaborators.Unused (Host.running executable separate) memory →
      (updater.run options).run
        (collaborators.handler (Host.running executable separate)) memory =
          (some outcome, after) →
      ∀ path node, path.components ≠ (Path.ofString executable).components →
        memory.tree.find? path = some node → after.tree.find? path = some node := by
  intro survives
  have kept := survives sampleUpdater sampleOptions sampleCollaborators "/opt/coder" true
    sampleFullMemory _ sampleOutcome unused_sampleFullMemory
    (eq_mk_of_fst_eq ended_sampleFullRun) sampleNotes (.file [72, 105] 0o644)
    (by decide) (by decide)
  have lost : ((sampleUpdater.run sampleOptions).run sampleHandler sampleFullMemory).2.tree.find?
      sampleNotes = none := by
    decide +kernel
  exact absurd (kept.symm.trans lost) (by decide)

end Sample

end SelfUpdate
