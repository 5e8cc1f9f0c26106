import SelfUpdate.Proofs.FileSystem.Entries
import SelfUpdate.Proofs.Update.Aftermath
import SelfUpdate.Proofs.Update.Decision

/-!
# Staging next to the executable comes to the same

If the directory for temporary files is a volume of its own, the new binary cannot be
renamed from there.  It is written once more next to the executable, and renamed from that
place.  Nothing of this can be seen afterwards: the run ends with the same result, and the
file system holds the same nodes as if both were on one volume.  Only one more file has
been created on the way.

For this nothing may go wrong in one of the two ways alone.  So writes and renames are not
made to fail, and both the scratch directory and the place next to the executable are free.
-/

namespace SelfUpdate

open Program

namespace Memory

/-- The memory with one more file, complete at once. -/
def withFile (memory : Memory) (path : Path) (content : Bytes) (mode : UInt32) : Memory :=
  { memory with
    tree := memory.tree.insert path (.file content mode)
    created := memory.created + 1 }

def moved (memory : Memory) (source target : Path) (node : Node) : Memory :=
  { memory with tree := (memory.tree.erase source).insert target node }

end Memory

namespace Collaborators

variable {collaborators : Collaborators} {host : Host} {memory : Memory}

section Steps

theorem run_writeAll {writer : Writer} {mode : UInt32} (bytes : Bytes)
    (takes : writer.fails = false)
    (opened : memory.tree.find? writer.path = some (.file [] mode)) :
    (writeAll writer bytes).run (collaborators.handler host) memory =
      (some (.ok ()), if bytes = [] then memory
        else { memory with tree := memory.tree.insert writer.path (.file bytes mode) }) := by
  unfold writeAll
  by_cases empty : bytes = []
  · rw [if_pos empty, if_pos empty]
    rfl
  obtain ⟨count, length⟩ : ∃ count, bytes.length = count + 1 :=
    Nat.exists_eq_add_one.mpr (List.length_pos_iff.mpr empty)
  have nothingLeft : bytes.drop (count + 1) = [] := by
    rw [← length, List.drop_length]
  have answered : collaborators.handler host (.write writer bytes) memory =
      (some (.ok (count + 1)),
        { memory with tree := memory.tree.insert writer.path (.file bytes mode) }) := by
    simp [handler, Collaborators.answered, Memory.write, takes, opened, length]
  rw [if_neg empty, if_neg empty, run, answered]
  dsimp only
  rw [nothingLeft, writeAll, if_pos rfl, run]

/-- Where nothing makes it fail, staging writes the whole file. -/
theorem run_writeStaged {path : Path} (binary : Bytes) (mode : UInt32)
    (creatable : memory.parentFault path = none) (writes : memory.failingWrites = none) :
    (writeStaged path binary mode).run (collaborators.handler host) memory =
      (some (.ok ()), memory.withFile path binary mode) := by
  let opened := memory.withFile path [] mode
  have created : (request (.create path mode)).run (collaborators.handler host) memory =
      (some (.ok ⟨path, false⟩), opened) := by
    simp [request, run, handler, answered, Memory.create, creatable, writes, opened,
      Memory.withFile]
  have empty : opened.tree.find? path = some (.file [] mode) := by
    simp [opened, Memory.withFile, Tree.find?_insert]
  have written : (writeAll ⟨path, false⟩ binary).run (collaborators.handler host) opened = _ :=
    run_writeAll binary rfl empty
  rw [writeStaged, run_orElse, run_andThen_of_ok created, run_andThen_of_ok written]
  by_cases void : binary = []
  · subst void
    rfl
  · simp only [if_neg void, opened, Memory.withFile, request, run, handler, Option.map_some,
      mapError_ok, Tree.insert_insert]

theorem run_cleaningUp {α : Type} {program : Program Writer α} {path : Path} {value : α}
    {after : Memory}
    (ended : program.run (collaborators.handler host) memory = (some value, after)) :
    (cleaningUp path program).run (collaborators.handler host) memory =
      (some value, after.removeAll path) := by
  change (program.bind _).run _ _ = _
  rw [run_bind, ended]
  rfl

theorem run_rename {source target : Path} {node : Node}
    (staysOnVolume : Memory.crossesVolumes host source target = false)
    (renames : memory.failingRenames = false) (found : memory.tree.find? source = some node) :
    (request (.rename source target)).run (collaborators.handler host) memory =
      (some (.ok ()), memory.moved source target node) := by
  simp [request, run, handler, answered, Memory.rename, staysOnVolume, renames, found,
    Memory.moved]

end Steps

/-- Nothing makes an installation fail.  Writes and renames succeed, the executable lies in
a directory, outside of the one for temporary files, and both places where the binary may be
staged are free. -/
structure Undisturbed (collaborators : Collaborators) (executable : String) (memory : Memory) :
    Prop where
  writes : memory.failingWrites = none
  renames : memory.failingRenames = false
  spelled : Path.EndsInComponent executable.toList
  outside : ¬(Path.ofString executable).liesIn (Path.ofString "/tmp")
  directory : ∃ parent, (Path.ofString executable).parent = some parent ∧
    memory.tree.find? parent = some .directory
  free : ∀ path, path.liesIn (siblingPath (Path.ofString executable)) = true →
    memory.tree.find? path = none
  unused : collaborators.Unused (Host.running executable false) memory

section Undisturbed

variable {executable : String} {separate : Bool} {slot : ExecutableSlot} {binary : Bytes}

theorem not_liesIn_siblingPath_of_tmp {path : Path}
    (outside : ¬(Path.ofString executable).liesIn (Path.ofString "/tmp"))
    (within : path.liesIn (Path.ofString "/tmp") = true) :
    ¬path.liesIn (siblingPath (Path.ofString executable)) := by
  intro beside
  rw [Path.liesIn_iff] at within beside
  rcases List.prefix_or_prefix_of_prefix within beside with below | above
  · exact outside (liesIn_tmp_of_siblingPath ((Path.liesIn_iff _ _).mpr below))
  · exact not_isPrefix_tmp_siblingPath executable above

/-- The memory in which the binary has been staged in the scratch directory. -/
def stagedMemory (collaborators : Collaborators) (host : Host) (memory : Memory)
    (slot : ExecutableSlot) (binary : Bytes) : Memory :=
  (memory.createDirectory (collaborators.scratch host)).withFile (collaborators.staged host)
    binary slot.mode

theorem components_staged_ne :
    (collaborators.staged host).components ≠ (collaborators.scratch host).components := by
  simp [staged]

theorem find?_staged :
    (collaborators.stagedMemory host memory slot binary).tree.find? (collaborators.staged host) =
      some (.file binary slot.mode) := by
  simp [stagedMemory, Memory.withFile, Tree.find?_insert]

variable (undisturbed : collaborators.Undisturbed executable memory)
  (running : host = Host.running executable separate)

include running

theorem liesIn_tmp_of_scratch {path : Path}
    (within : path.liesIn (collaborators.scratch host) = true) :
    path.liesIn (Path.ofString "/tmp") = true := by
  subst running
  have scratchIn : (Path.ofString "/tmp").components <+:
      (collaborators.scratch (Host.running executable separate)).components := by
    rw [scratch, scratchPath, Path.components_child]
    exact List.prefix_append _ _
  rw [Path.liesIn_iff] at within ⊢
  exact scratchIn.trans within

include undisturbed

/-- Making the scratch directory puts nothing in it or next to the executable. -/
theorem find?_made_eq_none {path : Path}
    (place : path.components ≠ (collaborators.scratch host).components)
    (staging : path.liesIn (collaborators.scratch host) = true ∨
      path.liesIn (siblingPath (Path.ofString executable)) = true) :
    (memory.createDirectory (collaborators.scratch host)).tree.find? path = none := by
  classical
  have vacant : memory.tree.find? path = none := by
    rcases staging with scratched | beside
    · subst running
      exact undisturbed.unused path scratched
    · exact undisturbed.free path beside
  rw [Memory.find?_createDirectory, if_neg, vacant]
  rintro ⟨made, -⟩
  rcases staging with scratched | beside
  · rw [Path.liesIn_iff] at scratched
    exact place (made.isPrefix.eq_of_length_le scratched.length_le)
  · have inTmp : (collaborators.scratch host).liesIn (Path.ofString "/tmp") = true :=
      liesIn_tmp_of_scratch running (Path.liesIn_of_components_eq rfl)
    apply not_liesIn_siblingPath_of_tmp undisturbed.outside inTmp
    rw [Path.liesIn_iff] at beside ⊢
    exact beside.trans made.isPrefix

theorem find?_made_staged :
    (memory.createDirectory (collaborators.scratch host)).tree.find?
      (collaborators.staged host) = none :=
  find?_made_eq_none undisturbed running components_staged_ne
    (Or.inl (liesIn_scratch_of_staged rfl))

/-- On one volume the staged binary is renamed at once. -/
theorem run_replace_of_rename
    (staysOnVolume : Memory.crossesVolumes host (collaborators.staged host) slot.path = false) :
    (replace (collaborators.scratch host) (collaborators.staged host) slot binary).run
        (collaborators.handler host) (collaborators.stagedMemory host memory slot binary) =
      (some (.ok ()),
        { memory with
          tree := (memory.createDirectory (collaborators.scratch host)).tree.insert slot.path
            (.file binary slot.mode)
          created := memory.created + 1 }) := by
  have renames : (collaborators.stagedMemory host memory slot binary).failingRenames = false :=
    undisturbed.renames
  have absent := find?_made_staged undisturbed running
  change (Program.bind _ _).run _ _ = _
  rw [run_bind, run_rename staysOnVolume renames find?_staged]
  change (some (Except.ok ()), _) = _
  simp only [Memory.moved, stagedMemory, Memory.withFile, Tree.erase_insert,
    Tree.erase_of_absent _ absent]
  rfl

theorem find?_beside {path : Path}
    (beside : path.liesIn (siblingPath (Path.ofString executable)) = true) :
    (collaborators.stagedMemory host memory slot binary).tree.find? path = none := by
  have apart {place : Path} (within : place.liesIn (collaborators.scratch host) = true) :
      path.components ≠ place.components := by
    intro same
    have inTmp := liesIn_tmp_of_scratch running within
    rw [Path.liesIn, ← same, ← Path.liesIn] at inTmp
    exact not_liesIn_siblingPath_of_tmp undisturbed.outside inTmp beside
  have notStaged : path.components ≠ (collaborators.staged host).components :=
    apart (liesIn_scratch_of_staged rfl)
  have notScratch : path.components ≠ (collaborators.scratch host).components :=
    apart (Path.liesIn_of_components_eq rfl)
  rw [stagedMemory, Memory.withFile, Tree.find?_insert, if_neg notStaged]
  exact find?_made_eq_none undisturbed running notScratch (Or.inr beside)

/-- The executable is on another volume than the scratch directory if there is another one. -/
theorem crossesVolumes_staged :
    Memory.crossesVolumes host (collaborators.staged host) (Path.ofString executable) =
      separate := by
  have inTmp := liesIn_tmp_of_scratch running
    (liesIn_scratch_of_staged (Eq.refl (collaborators.staged host).components))
  have outside : (Path.ofString executable).liesIn (Path.ofString "/tmp") = false :=
    Bool.eq_false_iff.mpr undisturbed.outside
  subst running
  have temporary : (Host.running executable separate).temporary = Path.ofString "/tmp" := rfl
  have isSeparate : (Host.running executable separate).separateTemporary = separate := rfl
  rw [Memory.crossesVolumes, temporary, isSeparate, inTmp, outside]
  simp

theorem run_install_of_replace {result : Except InstallError Unit} {after : Memory}
    (replaced : (replace (collaborators.scratch host) (collaborators.staged host) slot binary).run
      (collaborators.handler host) (collaborators.stagedMemory host memory slot binary) =
        (some result, after)) :
    (install slot binary).run (collaborators.handler host) memory =
      (some result, after.removeAll (collaborators.scratch host)) := by
  have unused : collaborators.Unused host memory := by
    subst running
    exact undisturbed.unused
  have creatable : (memory.createDirectory (collaborators.scratch host)).parentFault
      (collaborators.staged host) = none :=
    Memory.parentFault_child (find?_scratch unused)
  have staging : (writeStaged (collaborators.staged host) binary slot.mode).run
      (collaborators.handler host) (memory.createDirectory (collaborators.scratch host)) =
        (some (.ok ()), collaborators.stagedMemory host memory slot binary) :=
    run_writeStaged binary slot.mode creatable undisturbed.writes
  have inner : ((writeStaged (collaborators.staged host) binary slot.mode).andThen fun _ =>
      replace (collaborators.scratch host) (collaborators.staged host) slot binary).run
      (collaborators.handler host) (memory.createDirectory (collaborators.scratch host)) =
        (some result, after) := by
    rw [run_andThen_of_ok staging, replaced]
  exact run_cleaningUp inner

variable (slotPath : slot.path = Path.ofString executable)

include slotPath

/-- What is above the executable is above the place next to it. -/
theorem parentFault_siblingPath :
    (collaborators.stagedMemory host memory slot binary).parentFault (siblingPath slot.path) =
      none := by
  obtain ⟨parent, above, directory⟩ := undisturbed.directory
  -- The two places have the same directory because the spelling ends in a component.
  have lengthened : Path.Lengthened siblingEnding (Path.ofString executable).components
      (siblingPath (Path.ofString executable)).components :=
    Path.lengthened_extend undisturbed.spelled (by decide) (by decide)
  obtain ⟨place, siblingParent, same⟩ := lengthened.parent above
  have made : (memory.createDirectory (collaborators.scratch host)).tree.find? place =
      some .directory := by
    rw [Tree.find?_congr _ same]
    exact Memory.find?_createDirectory_of_some directory
  have notStaged : place.components ≠ (collaborators.staged host).components := by
    intro staged
    rw [Tree.find?_congr _ staged, find?_made_staged undisturbed running] at made
    simp at made
  have found : (collaborators.stagedMemory host memory slot binary).tree.find? place =
      some .directory := by
    rw [stagedMemory, Memory.withFile, Tree.find?_insert, if_neg notStaged, made]
  rw [slotPath]
  simp only [Memory.parentFault, siblingParent, found]

theorem run_replaceFromSibling :
    (replaceFromSibling slot binary).run
        (collaborators.handler host) (collaborators.stagedMemory host memory slot binary) =
      (some (.ok ()),
        { memory with
          tree := (collaborators.stagedMemory host memory slot binary).tree.insert slot.path
            (.file binary slot.mode)
          created := memory.created + 2 }) := by
  let written := collaborators.stagedMemory host memory slot binary
  let copied := written.withFile (siblingPath slot.path) binary slot.mode
  have copying : (writeStaged (siblingPath slot.path) binary slot.mode).run
      (collaborators.handler host) written = (some (.ok ()), copied) :=
    run_writeStaged binary slot.mode (parentFault_siblingPath undisturbed running slotPath)
      undisturbed.writes
  have found : copied.tree.find? (siblingPath slot.path) = some (.file binary slot.mode) := by
    simp [copied, Memory.withFile, Tree.find?_insert]
  have staysOnVolume : Memory.crossesVolumes host (siblingPath slot.path) slot.path = false := by
    rw [slotPath, running]
    exact crossesVolumes_siblingPath
  have moving : (request (.rename (siblingPath slot.path) slot.path)).run
      (collaborators.handler host) copied =
        (some (.ok ()), copied.moved (siblingPath slot.path) slot.path (.file binary slot.mode)) :=
    run_rename staysOnVolume undisturbed.renames found
  have inner : ((writeStaged (siblingPath slot.path) binary slot.mode).andThen fun _ =>
      (request (.rename (siblingPath slot.path) slot.path)).orElse
        (.rename (siblingPath slot.path) slot.path)).run (collaborators.handler host) written =
      (some (.ok ()), copied.moved (siblingPath slot.path) slot.path (.file binary slot.mode)) := by
    rw [run_andThen_of_ok copying, run_orElse, moving]
    rfl
  -- After the rename nothing is left for the removal: the copy has moved away, and nothing
  -- else ever lay there.
  have absent : written.tree.find? (siblingPath slot.path) = none := by
    rw [slotPath]
    exact find?_beside undisturbed running (Path.liesIn_of_components_eq rfl)
  have nothingBeside : ∀ path, path.liesIn (siblingPath slot.path) = true →
      (written.tree.insert slot.path (.file binary slot.mode)).find? path = none := by
    intro path beside
    rw [slotPath] at beside ⊢
    have notExecutable : path.components ≠ (Path.ofString executable).components := by
      intro same
      apply not_liesIn_siblingPath executable
      rwa [Path.liesIn, ← same, ← Path.liesIn]
    rw [Tree.find?_insert, if_neg notExecutable]
    exact find?_beside undisturbed running beside
  rw [replaceFromSibling, run_cleaningUp inner]
  simp only [Memory.removeAll, Memory.moved, copied, Memory.withFile, Tree.erase_insert,
    Tree.erase_of_absent _ absent, Tree.eraseBelow_of_absent _ nothingBeside]
  rfl

/-- Across volumes the binary is staged once more, and the copy is renamed. -/
theorem run_replace_of_fallback
    (crosses : Memory.crossesVolumes host (collaborators.staged host) slot.path = true) :
    (replace (collaborators.scratch host) (collaborators.staged host) slot binary).run
        (collaborators.handler host) (collaborators.stagedMemory host memory slot binary) =
      (some (.ok ()),
        { memory with
          tree := (collaborators.stagedMemory host memory slot binary).tree.insert slot.path
            (.file binary slot.mode)
          created := memory.created + 2 }) := by
  have refused : (request (.rename (collaborators.staged host) slot.path)).run
      (collaborators.handler host) (collaborators.stagedMemory host memory slot binary) =
        (some (.error .acrossVolumes), collaborators.stagedMemory host memory slot binary) := by
    simp [request, run, handler, answered, Memory.rename, crosses]
  change (Program.bind _ _).run _ _ = _
  rw [run_bind, refused]
  exact run_replaceFromSibling undisturbed running slotPath

/-- An undisturbed installation succeeds, and the volumes show only in the number of files
that it creates. -/
theorem run_install :
    (install slot binary).run (collaborators.handler host) memory =
      (some (.ok ()),
        { memory with
          tree := ((memory.createDirectory (collaborators.scratch host)).tree.insert slot.path
            (.file binary slot.mode)).eraseBelow (collaborators.scratch host)
          created := memory.created + if separate then 2 else 1 }) := by
  have crosses := crossesVolumes_staged undisturbed running
  rw [← slotPath] at crosses
  cases separate with
  | false =>
      rw [run_install_of_replace undisturbed running
        (run_replace_of_rename undisturbed running crosses)]
      rfl
  | true =>
      have notInScratch : slot.path.liesIn (collaborators.scratch host) = false := by
        refine Bool.eq_false_iff.mpr fun within => undisturbed.outside ?_
        rw [← slotPath]
        exact liesIn_tmp_of_scratch running within
      rw [run_install_of_replace undisturbed running
        (run_replace_of_fallback undisturbed running slotPath crosses)]
      -- The binary that was staged first is still there, and goes with its directory.
      simp only [Memory.removeAll, stagedMemory, Memory.withFile]
      rw [Tree.eraseBelow_insert_insert _ _ _ (liesIn_scratch_of_staged rfl) notInScratch]
      rfl

end Undisturbed

/-- Before anything is written, nobody looks at the volumes. -/
theorem preparation_running (collaborators : Collaborators) (executable : String)
    (memory : Memory) (updater : Updater) (options : UpdateOptions) :
    collaborators.preparation (Host.running executable true) memory updater options =
      collaborators.preparation (Host.running executable false) memory updater options := by
  have quiet : (updater.prepare options : Program Writer _).Uses
      fun request => request.changesFiles = false :=
    Updater.prepare_uses rfl (fun _ => rfl) rfl (fun _ => rfl) (fun _ => rfl) fun _ => rfl
  unfold preparation
  rw [run_eq_of_uses _ quiet]
  intro request silent
  cases request <;> first | rfl | simp [Request.changesFiles] at silent

end Collaborators

/-- Where nothing makes an installation fail, the run with two volumes ends with the result
of the run with one, and with the same nodes.  If it has updated, it has created two files
instead of one. -/
theorem fallback_of_run (updater : Updater) (options : UpdateOptions)
    (collaborators : Collaborators) (executable : String) (memory : Memory)
    (undisturbed : collaborators.Undisturbed executable memory) :
    let ran separate := (updater.run options).run
      (collaborators.handler (Host.running executable separate)) memory
    ((∃ running release path, (ran false).1 = some (.ok (.updated running release path))) ∧
        (ran false).2.created = memory.created + 1 ∧
        ran true = ((ran false).1, { (ran false).2 with created := memory.created + 2 })) ∨
      ((∀ running release path, (ran false).1 ≠ some (.ok (.updated running release path))) ∧
        (ran false).2 = memory ∧ ran true = ran false) := by
  intro ran
  simp only [ran, run_eq_of_preparation, Collaborators.preparation_running]
  rcases ready : collaborators.preparation (Host.running executable false) memory updater options
    with _ | error | (version | ⟨slot, version, binary⟩)
  · exact Or.inr ⟨by simp, rfl, rfl⟩
  · exact Or.inr ⟨by simp, rfl, rfl⟩
  · exact Or.inr ⟨by simp [Updater.complete, run], rfl, rfl⟩
  · left
    obtain ⟨slotPath, -⟩ := of_preparation_ready ready
    have installed (separate : Bool) : (install slot binary).run
        (collaborators.handler (Host.running executable separate)) memory = _ :=
      Collaborators.run_install undisturbed rfl slotPath
    simp only [run_complete_ready, installed]
    exact ⟨⟨_, _, _, rfl⟩, rfl, rfl⟩

section Sample

theorem undisturbed_sampleMemory :
    sampleCollaborators.Undisturbed "/opt/coder" sampleMemory where
  writes := rfl
  renames := rfl
  spelled := ⟨"coder".toList, by decide, by decide, by decide⟩
  outside := by decide
  directory := ⟨Path.ofString "/opt", by decide, by decide⟩
  free _ := sampleMemory.tree.find?_eq_none_of_entries (by decide)
  unused := Collaborators.unused_of_entries (by decide)

theorem fallback_of_sampleRun :
    sampleCollaborators.Undisturbed "/opt/coder" sampleMemory ∧
      (sampleUpdater.run sampleOptions).run
          (sampleCollaborators.handler (Host.running "/opt/coder" true)) sampleMemory =
        (some sampleOutcome,
          { ((sampleUpdater.run sampleOptions).run
            (sampleCollaborators.handler (Host.running "/opt/coder" false)) sampleMemory).2 with
            created := 2 }) := by
  refine ⟨undisturbed_sampleMemory, ?_⟩
  have ended := ended_sampleRun
  rw [sampleHandler] at ended
  rcases fallback_of_run sampleUpdater sampleOptions sampleCollaborators "/opt/coder" sampleMemory
    undisturbed_sampleMemory with ⟨-, -, same⟩ | ⟨never, -, same⟩
  · dsimp only at same
    rw [same] at ended
    rw [same, ended]
    rfl
  · dsimp only at same never
    rw [same] at ended
    exact absurd ended (never _ _ _)

end Sample

end SelfUpdate
