import SelfUpdate.Proofs.Update.Gating
import SelfUpdate.Proofs.Update.Installation

/-!
# Replacing the running program in memory

A run on a file system in memory begins with the part that only looks and asks, and
may go on to install.  What an installation does to each path is known, so the whole
run is.

The executable is exchanged at once or not at all, in every state that the run passes
through.  When the run has ended, its outcome says which.  A run leaves nothing behind.
It also destroys nothing, except in one case: whatever lies at or below the place next
to the executable is gone when the run had to stage the binary there.
-/

namespace SelfUpdate

open Program

section Paths

variable {executable : String} {separate : Bool}

theorem grown_siblingPath (executable : String) :
    Path.Grown siblingEnding (Path.ofString executable).components
      (siblingPath (Path.ofString executable)).components :=
  Path.grown_extend executable (by decide) (by decide)

theorem not_liesIn_siblingPath (executable : String) :
    ¬(Path.ofString executable).liesIn (siblingPath (Path.ofString executable)) := by
  rw [Path.liesIn_iff]
  exact (grown_siblingPath executable).not_isPrefix (by decide)

theorem components_tmp :
    (Path.ofString "/tmp").components = [.root, .name ['t', 'm', 'p']] := by
  decide

/-- The place next to the executable is not above the temporary directory. -/
theorem not_isPrefix_tmp_siblingPath (executable : String) :
    ¬(siblingPath (Path.ofString executable)).components <+: (Path.ofString "/tmp").components := by
  intro above
  obtain ⟨last, member⟩ := (grown_siblingPath executable).exists_name_mem
  have inTmp := above.subset member
  rw [components_tmp] at inTmp
  have lengthEq : (last ++ siblingEnding).length = 3 := by
    have named : last ++ siblingEnding = ['t', 'm', 'p'] := by simpa using inTmp
    simp [named]
  simp [siblingEnding] at lengthEq

/-- A sibling in the temporary directory is next to an executable in it. -/
theorem liesIn_tmp_of_siblingPath
    (within : (siblingPath (Path.ofString executable)).liesIn (Path.ofString "/tmp") = true) :
    (Path.ofString executable).liesIn (Path.ofString "/tmp") = true := by
  rcases (grown_siblingPath executable).isPrefix_or_eq ((Path.liesIn_iff _ _).mp within) with
    above | same
  · exact (Path.liesIn_iff _ _).mpr above
  · have isPrefix : (siblingPath (Path.ofString executable)).components <+:
        (Path.ofString "/tmp").components := by
      rw [same]
    exact absurd isPrefix (not_isPrefix_tmp_siblingPath executable)

theorem crossesVolumes_siblingPath :
    Memory.crossesVolumes (Host.running executable separate)
      (siblingPath (Path.ofString executable)) (Path.ofString executable) = false := by
  cases crosses : Memory.crossesVolumes (Host.running executable separate)
      (siblingPath (Path.ofString executable)) (Path.ofString executable)
  · rfl
  · obtain ⟨⟨-, within⟩, outside⟩ : (separate = true ∧
        (siblingPath (Path.ofString executable)).liesIn (Path.ofString "/tmp") = true) ∧
        (Path.ofString executable).liesIn (Path.ofString "/tmp") = false := by
      simpa [Memory.crossesVolumes, Host.running, Host.ofExecutable] using crosses
    simp [liesIn_tmp_of_siblingPath within] at outside

end Paths

section Chain

variable {path : Path} {old new : Option Node}

theorem forall_new_of_isChain {states : List Memory} {first : Memory}
    (chain : (first :: states).IsChain (Memory.Switches path old new))
    (replaced : first.tree.find? path = new) :
    ∀ passed ∈ first :: states, passed.tree.find? path = new := by
  induction states generalizing first with
  | nil => simpa using replaced
  | cons next states ih =>
      obtain ⟨switches, rest⟩ := List.isChain_cons_cons.mp chain
      have stillReplaced : next.tree.find? path = new := by
        rcases switches with same | ⟨-, found⟩
        · exact same.trans replaced
        · exact found
      intro passed member
      rcases List.mem_cons.mp member with rfl | later
      · exact replaced
      · exact ih rest stillReplaced passed later

/-- A path that only ever switches once holds the old node for a while, and then the new
one for good. -/
theorem exists_split_of_isChain {states : List Memory} {first : Memory}
    (chain : (first :: states).IsChain (Memory.Switches path old new))
    (original : first.tree.find? path = old) :
    ∃ before after, first :: states = before ++ after ∧
      (∀ passed ∈ before, passed.tree.find? path = old) ∧
      ∀ passed ∈ after, passed.tree.find? path = new := by
  induction states generalizing first with
  | nil => exact ⟨[first], [], rfl, by simpa using original, by simp⟩
  | cons next states ih =>
      obtain ⟨switches, rest⟩ := List.isChain_cons_cons.mp chain
      rcases switches with same | ⟨-, replaced⟩
      · obtain ⟨before, after, split, olds, news⟩ := ih rest (same.trans original)
        refine ⟨first :: before, after, by rw [split, List.cons_append], ?_, news⟩
        simpa [original] using olds
      · exact ⟨[first], next :: states, rfl, by simpa using original,
          forall_new_of_isChain rest replaced⟩

end Chain

section Runs

variable {updater : Updater} {options : UpdateOptions} {collaborators : Collaborators}
  {host : Host} {memory : Memory}

/-- What a run does before it writes. -/
def Collaborators.preparation (collaborators : Collaborators) (host : Host) (memory : Memory)
    (updater : Updater) (options : UpdateOptions) :
    Option (Except UpdateError Preparation) :=
  ((updater.prepare options).run (collaborators.handler host) memory).1

theorem quiet_prepare (updater : Updater) (options : UpdateOptions)
    (collaborators : Collaborators) (host : Host) (memory : Memory) :
    ∀ exchange ∈ (updater.prepare options).exchanges (collaborators.handler host) memory,
      ∀ now, (collaborators.handler host exchange.request now).2 = now :=
  fun exchange member => Collaborators.handler_of_changesFiles
    (untouched_of_prepare (hasHistory_exchanges _ _ _) exchange member)

/-- What is ready to be installed fits the executable and the memory. -/
theorem of_preparation_ready {slot : ExecutableSlot} {version : Version} {binary : Bytes}
    (ready : collaborators.preparation host memory updater options =
      some (.ok (.ready slot version binary))) :
    slot.path = host.executable ∧ memory.stat host.executable = .ok ⟨slot.mode⟩ ∧
      (FileStat.mk slot.mode).isWritable = true ∧
      updater.Fetched ((updater.run options).exchanges (collaborators.handler host) memory)
        binary := by
  have history :=
    hasHistory_exchanges (collaborators.handler host) (updater.prepare options) memory
  have ended : ((updater.prepare options).run (collaborators.handler host) memory).1 = _ := ready
  rw [ended] at history
  obtain ⟨-, -, ⟨located, looked, writable⟩, archive, fetched, extracted⟩ :=
    Updater.course_of_prepare history
  have answers := answer_of_quiet (quiet_prepare updater options collaborators host memory)
  have pathEq : slot.path = host.executable := by
    simpa [Collaborators.handler] using answers _ located
  have statEq : memory.stat slot.path = .ok ⟨slot.mode⟩ := by
    simpa [Collaborators.handler, eq_comm] using answers _ looked
  refine ⟨pathEq, pathEq ▸ statEq, writable, updater.archiveUrl version, archive, ?_, extracted⟩
  rw [updater.run_eq_prepare options]
  exact exchanges_subset_bind _ _ memory fetched

/-- The outcome of an update that got as far as installing. -/
def Updater.outcome (updater : Updater) (slot : ExecutableSlot) (version : Version) :
    Except InstallError Unit → Outcome
  | .ok () => .ok (.updated updater.runningVersion version.finalized slot.path)
  | .error error => .error (.install error)

/-- How a run in memory can end. -/
inductive Concluded (updater : Updater) (options : UpdateOptions)
    (collaborators : Collaborators) (host : Host) (memory : Memory) : Outcome → Memory → Prop where
  | idle {outcome : Outcome} (harmless : outcome.installs = false)
      (notReady : ∀ slot version binary, collaborators.preparation host memory updater options ≠
        some (.ok (.ready slot version binary))) :
      Concluded updater options collaborators host memory outcome memory
  | installed {slot : ExecutableSlot} {version : Version} {binary : Bytes}
      {result : Except InstallError Unit} {after : Memory}
      (ready : collaborators.preparation host memory updater options =
        some (.ok (.ready slot version binary)))
      (installed : collaborators.Installed host memory slot binary result after) :
      Concluded updater options collaborators host memory
        (updater.outcome slot version result) after

/-- The node that a run puts in the place of an old one. -/
def replacement (old : Option Node) :
    Option (Except UpdateError Preparation) → Option Node
  | some (.ok (.ready slot _ binary)) => some (.file binary slot.mode)
  | _ => old

theorem replacement_of_not_ready {old : Option Node}
    {preparation : Option (Except UpdateError Preparation)}
    (notReady : ∀ slot version binary, preparation ≠ some (.ok (.ready slot version binary))) :
    replacement old preparation = old := by
  unfold replacement
  split
  · next slot version binary =>
      exact absurd rfl (notReady slot version binary)
  · rfl

theorem find?_ne_none_of_stat {path : Path} {stat : FileStat}
    (found : memory.stat path = .ok stat) : memory.tree.find? path ≠ none := by
  intro missing
  simp [Memory.stat, missing] at found

theorem proceeds_complete {executable : String} {separate : Bool} {slot : ExecutableSlot}
    {version : Version} {binary : Bytes}
    (unused : collaborators.Unused (Host.running executable separate) memory)
    (ready : collaborators.preparation (Host.running executable separate) memory updater options =
      some (.ok (.ready slot version binary))) :
    (updater.complete (.ready slot version binary)).Proceeds
      (collaborators.handler (Host.running executable separate))
      (Memory.Switches (Path.ofString executable)
        (memory.tree.find? (Path.ofString executable)) (some (.file binary slot.mode)))
      (Concluded updater options collaborators (Host.running executable separate) memory)
      memory := by
  obtain ⟨pathEq, looked, -, -⟩ := of_preparation_ready ready
  have slotPath : slot.path = Path.ofString executable := pathEq
  rw [← slotPath]
  have installing : (install slot binary).Proceeds _ _ _ memory :=
    Collaborators.proceeds_install (slotPath ▸ not_liesIn_siblingPath executable)
      (slotPath ▸ crossesVolumes_siblingPath) unused (pathEq ▸ find?_ne_none_of_stat looked)
  have explained : ((install slot binary).orElse .install).Proceeds
      (collaborators.handler (Host.running executable separate))
      (Memory.Switches slot.path (memory.tree.find? slot.path) (some (.file binary slot.mode)))
      (fun result last => ∃ installed : Except InstallError Unit,
        installed.mapError UpdateError.install = result ∧
          collaborators.Installed (Host.running executable separate) memory slot binary
            installed last)
      memory :=
    installing.bind fun result last ended => ⟨result, rfl, ended⟩
  apply explained.andThen
  · rintro error last ⟨failure | _, same, installed⟩
    · obtain rfl : .install failure = error := by simpa using same
      exact .installed ready installed
    · simp at same
  · rintro ⟨⟩ last ⟨failure | _, same, installed⟩
    · simp at same
    · exact .installed ready installed

/-- A run passes from state to state by steps that keep the executable or exchange it. -/
theorem proceeds_run {executable : String} {separate : Bool}
    (unused : collaborators.Unused (Host.running executable separate) memory) :
    (updater.run options).Proceeds (collaborators.handler (Host.running executable separate))
      (Memory.Switches (Path.ofString executable)
        (memory.tree.find? (Path.ofString executable))
        (replacement (memory.tree.find? (Path.ofString executable))
          (collaborators.preparation (Host.running executable separate) memory updater options)))
      (Concluded updater options collaborators (Host.running executable separate) memory)
      memory := by
  rw [updater.run_eq_prepare options]
  have quiet := proceeds_of_quiet
    (quiet_prepare updater options collaborators (Host.running executable separate) memory)
  apply (quiet.mono (fun _ _ same => Or.inl (by rw [same])) fun _ _ ended => ended).andThen
  · rintro error after ⟨rfl, failed⟩
    have history := hasHistory_exchanges
      (collaborators.handler (Host.running executable separate)) (updater.prepare options) after
    rw [failed] at history
    refine .idle (installs_of_prepare_error history) fun slot version binary ready => ?_
    have impossible := failed.symm.trans ready
    simp at impossible
  · rintro (version | ⟨slot, version, binary⟩) after ⟨rfl, prepared⟩
    · refine .idle rfl fun slot version binary ready => ?_
      have impossible := prepared.symm.trans ready
      simp at impossible
    · have ready : collaborators.preparation (Host.running executable separate) after updater
          options = some (.ok (.ready slot version binary)) := prepared
      rw [ready]
      exact proceeds_complete unused ready

end Runs

/-- Whenever a run is looked at, the executable is what it was before, or the complete new
binary with the mode that preflight has read, and from then on the latter. -/
theorem executable_of_states (updater : Updater) (options : UpdateOptions)
    (collaborators : Collaborators) (executable : String) (separate : Bool) (memory : Memory)
    (unused : collaborators.Unused (Host.running executable separate) memory) :
    ∃ before after,
      (updater.run options).states (collaborators.handler (Host.running executable separate))
          memory = before ++ after ∧
        (∀ passed ∈ before, passed.tree.find? (Path.ofString executable) =
          memory.tree.find? (Path.ofString executable)) ∧
        (after ≠ [] → ∃ binary mode,
          updater.Fetched ((updater.run options).exchanges
            (collaborators.handler (Host.running executable separate)) memory) binary ∧
          memory.stat (Path.ofString executable) = .ok ⟨mode⟩ ∧
          ∀ passed ∈ after, passed.tree.find? (Path.ofString executable) =
            some (.file binary mode)) := by
  have proceeds : (updater.run options).Proceeds _ _ _ memory := proceeds_run unused
  have chain := proceeds.isChain_states
  have begins : ((updater.run options).states
      (collaborators.handler (Host.running executable separate)) memory).head? = some memory :=
    head?_states (updater.run options) memory
  obtain ⟨states, passes⟩ := List.head?_eq_some_iff.mp begins
  rw [passes] at chain ⊢
  obtain ⟨before, after, split, olds, news⟩ := exists_split_of_isChain chain rfl
  by_cases isReady : ∃ slot version binary, collaborators.preparation
      (Host.running executable separate) memory updater options =
        some (.ok (.ready slot version binary))
  · obtain ⟨slot, version, binary, ready⟩ := isReady
    obtain ⟨-, looked, -, delivered⟩ := of_preparation_ready ready
    refine ⟨before, after, split, olds, fun _ => ⟨binary, slot.mode, delivered, looked, ?_⟩⟩
    simpa [ready, replacement] using news
  · -- Nothing was ever to be put in the place of the executable.
    push Not at isReady
    rw [replacement_of_not_ready isReady] at news
    refine ⟨before ++ after, [], by rw [split, List.append_nil], fun passed member => ?_, by simp⟩
    rcases List.mem_append.mp member with early | late
    · exact olds passed early
    · exact news passed late

theorem unused_sampleMemory :
    sampleCollaborators.Unused (Host.running "/opt/coder" true) sampleMemory :=
  Collaborators.unused_of_entries (by decide)

theorem executable_of_sampleStates :
    sampleCollaborators.Unused (Host.running "/opt/coder" true) sampleMemory ∧
      ∃ before after,
        (sampleUpdater.run sampleOptions).states sampleHandler sampleMemory = before ++ after ∧
          (∀ passed ∈ before, passed.tree.find? (Path.ofString "/opt/coder") =
            sampleMemory.tree.find? (Path.ofString "/opt/coder")) ∧
          (after ≠ [] → ∃ binary mode,
            sampleUpdater.Fetched
              ((sampleUpdater.run sampleOptions).exchanges sampleHandler sampleMemory)
              binary ∧
            sampleMemory.stat (Path.ofString "/opt/coder") = .ok ⟨mode⟩ ∧
            ∀ passed ∈ after, passed.tree.find? (Path.ofString "/opt/coder") =
              some (.file binary mode)) :=
  ⟨unused_sampleMemory, executable_of_states sampleUpdater sampleOptions sampleCollaborators
    "/opt/coder" true sampleMemory unused_sampleMemory⟩

end SelfUpdate
