import SelfUpdate.Proofs.Update.Fallback
import SelfUpdate.Proofs.Update.FileCall

/-!
# What is seen in memory is seen on a disk

Updates are tried on a file system in memory.  This is telling only if a disk would have
answered in the same way.  It does, for any number of calls that are permitted each when its
turn has come: both return the same values and fail in the same ways, and in the end they
hold the same tree.

The calls of an installation are permitted if the executable is a file and there is a
directory for temporary files.
-/

namespace SelfUpdate

open CommandLine Program

/-- All content of a new file is written. -/
def WriterCall.whole (content : Bytes) : List WriterCall :=
  if content = [] then [.flush] else [.write content, .flush]

/-- The calls of an installation that succeeds at once. -/
def FileCall.installation (scratch staged : Path) (slot : ExecutableSlot) (binary : Bytes) :
    List FileCall :=
  [.createDirectory scratch, .create staged slot.mode (WriterCall.whole binary),
    .rename staged slot.path, .removeAll scratch]

section Exchanges

variable {Handle σ : Type} {handler : Handler Handle σ} {state after : σ}

theorem run_request (request : Request Handle) :
    (Program.request request).run handler state = handler request state := by
  simp only [Program.request, run]
  rcases handler request state with ⟨_ | answer, after⟩ <;> rfl

theorem FileCall.exchanges_rename {source target : Path}
    (answered : handler (.rename source target) state = (some (.ok ()), after)) :
    (FileCall.rename source target).program.exchanges handler state =
      [⟨.rename source target, some (.ok ())⟩] := by
  change (Program.ask _ _).exchanges _ _ = _
  rw [exchanges, answered]
  rfl

theorem FileCall.exchanges_create {path : Path} {mode : UInt32} {uses : List WriterCall}
    {handle : Handle}
    (creates : (Program.request (.create path mode)).run handler state =
      (some (.ok handle), after)) :
    (FileCall.create path mode uses).program.exchanges handler state =
      (Program.request (.create path mode)).exchanges handler state ++
        (WriterCall.programAll handle uses).exchanges handler after := by
  change (Program.bind (Program.request _) _).exchanges _ _ = _
  rw [exchanges_bind, creates]
  change _ ++ (Program.bind (WriterCall.programAll handle uses) _).exchanges _ _ = _
  rw [exchanges_bind]
  rcases (WriterCall.programAll handle uses).run handler after with ⟨_ | replies, last⟩ <;>
    exact congrArg _ (List.append_nil _)

theorem FileCall.exchanges_cons {call : FileCall} {rest : List FileCall} {reply : List FileReply}
    (first : call.program.run handler state = (some reply, after)) :
    (FileCall.programAll (call :: rest)).exchanges handler state =
      call.program.exchanges handler state ++
        (FileCall.programAll rest).exchanges handler after := by
  change (Program.bind _ fun reply => Program.bind _ fun replies => _).exchanges _ _ = _
  rw [exchanges_bind, first]
  dsimp only
  rw [exchanges_bind]
  rcases (FileCall.programAll rest).run handler after with ⟨_ | replies, last⟩ <;>
    exact congrArg _ (List.append_nil _)

end Exchanges

namespace Collaborators

variable {collaborators : Collaborators} {host : Host} {memory : Memory} {slot : ExecutableSlot}
  {binary : Bytes}

section Staging

variable {path : Path} {mode : UInt32}

theorem handler_create (creatable : memory.parentFault path = none)
    (writes : memory.failingWrites = none) :
    collaborators.handler host (.create path mode) memory =
      (some (.ok ⟨path, false⟩), memory.withFile path [] mode) := by
  simp [handler, answered, Memory.create, creatable, writes, Memory.withFile]

theorem handler_write :
    collaborators.handler host (.write ⟨path, false⟩ binary) (memory.withFile path [] mode) =
      (some (.ok binary.length), memory.withFile path binary mode) := by
  simp [handler, answered, Memory.write, Memory.withFile, Tree.find?_insert, Tree.insert_insert]

theorem exchanges_writeAll :
    (writeAll ⟨path, false⟩ binary).exchanges (collaborators.handler host)
        (memory.withFile path [] mode) =
      if binary = [] then [] else [⟨.write ⟨path, false⟩ binary, some (.ok binary.length)⟩] := by
  unfold writeAll
  by_cases empty : binary = []
  · rw [if_pos empty, if_pos empty, exchanges]
  obtain ⟨count, length⟩ : ∃ count, binary.length = count + 1 :=
    Nat.exists_eq_add_one.mpr (List.length_pos_iff.mpr empty)
  have nothingLeft : binary.drop (count + 1) = [] := by
    rw [← length, List.drop_length]
  rw [if_neg empty, if_neg empty, exchanges, handler_write, length]
  dsimp only
  rw [nothingLeft, writeAll, if_pos rfl, exchanges]

theorem exchanges_whole :
    (WriterCall.programAll ⟨path, false⟩ (WriterCall.whole binary)).exchanges
        (collaborators.handler host) (memory.withFile path [] mode) =
      (writeAll ⟨path, false⟩ binary).exchanges (collaborators.handler host)
        (memory.withFile path [] mode) ++ [⟨.flush ⟨path, false⟩, some (.ok ())⟩] := by
  rw [exchanges_writeAll, WriterCall.whole]
  by_cases empty : binary = []
  · rw [if_pos empty, if_pos empty]
    rfl
  · rw [if_neg empty, if_neg empty]
    change (Program.ask _ _).exchanges _ _ = _
    rw [exchanges, handler_write]
    rfl

variable (creatable : memory.parentFault path = none) (writes : memory.failingWrites = none)

include creatable writes

theorem run_create_whole : ∃ replies,
    (FileCall.create path mode (WriterCall.whole binary)).program.run
        (collaborators.handler host) memory =
      (some replies, memory.withFile path binary mode) := by
  have opened : collaborators.handler host (.create path mode) memory =
      (some (.ok ⟨path, false⟩), memory.withFile path [] mode) := handler_create creatable writes
  by_cases empty : binary = []
  · subst empty
    exact ⟨[.done, .done], FileCall.run_create opened rfl⟩
  · have written : (WriterCall.program ⟨path, false⟩ (.write binary)).run
        (collaborators.handler host) (memory.withFile path [] mode) =
          (some (.written binary.length), memory.withFile path binary mode) :=
      run_tell handler_write (FileReply.ofResult .written)
    rw [WriterCall.whole, if_neg empty]
    exact ⟨[.done, .written binary.length, .done],
      FileCall.run_create opened (WriterCall.run_cons written rfl)⟩

/-- Staging makes the calls that write a whole file. -/
theorem exchanges_writeStaged :
    (writeStaged path binary mode).exchanges (collaborators.handler host) memory =
      (FileCall.create path mode (WriterCall.whole binary)).program.exchanges
        (collaborators.handler host) memory := by
  have created : (request (.create path mode)).run (collaborators.handler host) memory =
      (some (.ok ⟨path, false⟩), memory.withFile path [] mode) := by
    simp [request, run, handler_create creatable writes]
  have empty : (memory.withFile path [] mode).tree.find? path = some (.file [] mode) := by
    simp [Memory.withFile, Tree.find?_insert]
  have written : (writeAll ⟨path, false⟩ binary).run (collaborators.handler host)
      (memory.withFile path [] mode) = _ := run_writeAll binary rfl empty
  rw [writeStaged, exchanges_orElse, exchanges_andThen_of_ok created,
    exchanges_andThen_of_ok written, FileCall.exchanges_create created, exchanges_whole]
  rfl

end Staging

theorem exchanges_cleaningUp {α : Type} {program : Program Writer α} {path : Path} {value : α}
    {after : Memory}
    (ended : program.run (collaborators.handler host) memory = (some value, after)) :
    (cleaningUp path program).exchanges (collaborators.handler host) memory =
      program.exchanges (collaborators.handler host) memory ++
        [⟨.removeAll path, some (.ok ())⟩] := by
  change (Program.bind _ _).exchanges _ _ = _
  rw [exchanges_bind, ended]
  rfl

/-- Where a rename succeeds, nothing else is done to replace the executable. -/
theorem exchanges_replace (scratch : Path) (binary : Bytes) {staged : Path} {after : Memory}
    (renamed : collaborators.handler host (.rename staged slot.path) memory =
      (some (.ok ()), after)) :
    (replace scratch staged slot binary).run (collaborators.handler host) memory =
        (some (.ok ()), after) ∧
      (replace scratch staged slot binary).exchanges (collaborators.handler host) memory =
        [⟨.rename staged slot.path, some (.ok ())⟩] := by
  constructor
  · change (Program.ask _ _).run _ _ = _
    rw [run, renamed]
    rfl
  · change (Program.ask _ _).exchanges _ _ = _
    rw [exchanges, renamed]
    rfl

section Steps

/-- Once the scratch directory has been made, the binary can be staged in it. -/
theorem parentFault_staged (unused : collaborators.Unused host memory) :
    (memory.createDirectory (collaborators.scratch host)).parentFault
      (collaborators.staged host) = none :=
  Memory.parentFault_child (find?_scratch unused)

variable (slot binary)

theorem run_staged (unused : collaborators.Unused host memory)
    (writes : memory.failingWrites = none) :
    (writeStaged (collaborators.staged host) binary slot.mode).run (collaborators.handler host)
        (memory.createDirectory (collaborators.scratch host)) =
      (some (.ok ()), collaborators.stagedMemory host memory slot binary) :=
  run_writeStaged binary slot.mode (parentFault_staged unused) writes

theorem run_create_staged (unused : collaborators.Unused host memory)
    (writes : memory.failingWrites = none) : ∃ replies,
    (FileCall.create (collaborators.staged host) slot.mode (WriterCall.whole binary)).program.run
        (collaborators.handler host) (memory.createDirectory (collaborators.scratch host)) =
      (some replies, collaborators.stagedMemory host memory slot binary) :=
  run_create_whole (parentFault_staged unused) writes

variable (collaborators)

theorem handler_rename_staged (oneVolume : host.separateTemporary = false)
    (renames : memory.failingRenames = false) :
    collaborators.handler host (.rename (collaborators.staged host) slot.path)
        (collaborators.stagedMemory host memory slot binary) =
      (some (.ok ()), (collaborators.stagedMemory host memory slot binary).moved
        (collaborators.staged host) slot.path (.file binary slot.mode)) :=
  (run_request _).symm.trans <|
    run_rename (by simp [Memory.crossesVolumes, oneVolume]) renames find?_staged

end Steps

/-- Where nothing makes it fail, an installation on one volume makes its four calls, and
before them it only asks for two names. -/
theorem exchanges_install (oneVolume : host.separateTemporary = false)
    (unused : collaborators.Unused host memory) (writes : memory.failingWrites = none)
    (renames : memory.failingRenames = false) :
    (install slot binary).exchanges (collaborators.handler host) memory =
      ⟨.temporaryDirectory, some host.temporary⟩ :: ⟨.freshName, some collaborators.name⟩ ::
        (FileCall.programAll (FileCall.installation (collaborators.scratch host)
          (collaborators.staged host) slot binary)).exchanges (collaborators.handler host)
            memory := by
  let made := memory.createDirectory (collaborators.scratch host)
  have staging := run_staged slot binary unused writes
  have renamed := handler_rename_staged collaborators slot binary oneVolume renames
  obtain ⟨replies, stagedByCall⟩ := run_create_staged slot binary unused writes
  obtain ⟨replaced, replacing⟩ :=
    exchanges_replace (collaborators.scratch host) binary renamed
  have inner : ((writeStaged (collaborators.staged host) binary slot.mode).andThen fun _ =>
      replace (collaborators.scratch host) (collaborators.staged host) slot binary).run
      (collaborators.handler host) made = _ :=
    (run_andThen_of_ok staging).trans replaced
  have installing : (install slot binary).exchanges (collaborators.handler host) memory =
      ⟨.temporaryDirectory, some host.temporary⟩ :: ⟨.freshName, some collaborators.name⟩ ::
        ⟨.createDirectory (collaborators.scratch host), some (.ok ())⟩ ::
          (cleaningUp (collaborators.scratch host)
            ((writeStaged (collaborators.staged host) binary slot.mode).andThen fun _ =>
              replace (collaborators.scratch host) (collaborators.staged host) slot
                binary)).exchanges (collaborators.handler host) made := rfl
  rw [installing, exchanges_cleaningUp inner, exchanges_andThen_of_ok staging, replacing,
    exchanges_writeStaged (parentFault_staged unused) writes, FileCall.installation,
    FileCall.exchanges_cons (FileCall.run_createDirectory rfl),
    FileCall.exchanges_cons stagedByCall, FileCall.exchanges_cons (FileCall.run_rename renamed),
    FileCall.exchanges_cons (FileCall.run_removeAll rfl), FileCall.exchanges_rename renamed,
    List.append_assoc]
  rfl

/-- The executable is a file, and there is a directory for temporary files, with an unused
name in it. -/
structure Installs (collaborators : Collaborators) (host : Host) (memory : Memory)
    (slot : ExecutableSlot) : Prop where
  executable : slot.path.IsPlain
  noTail : slot.path.tail = []
  isFile : ∃ content, memory.tree.find? slot.path = some (.file content slot.mode)
  temporary : memory.tree.find? host.temporary = some .directory
  staged : (collaborators.staged host).IsPlain
  unused : collaborators.Unused host memory

/-- Directories stay when a file is made in a new one and then moved over another file. -/
theorem directory_stays {inventory : Inventory} {scratch executable place : Place}
    {name : List Char} {node : Node} (free : inventory (scratch ++ [name]) = none)
    (notDirectory : inventory executable ≠ some .directory)
    (isDirectory : inventory place = some .directory) :
    (((inventory.make scratch).put (scratch ++ [name]) node).drop (scratch ++ [name])).put
      executable node place = some .directory := by
  have notExecutable : place ≠ executable := by
    rintro rfl
    exact notDirectory isDirectory
  have notStaged : place ≠ scratch ++ [name] := by
    rintro rfl
    simp [free] at isDirectory
  rw [Inventory.put, if_neg notExecutable, Inventory.drop, if_neg notStaged,
    Inventory.put_make_of_some free isDirectory]

/-- The calls of an installation are permitted, each when its turn has come. -/
theorem permits_installation {inventory : Inventory} {disk : Disk}
    (agrees : memory.Agrees inventory disk) (oneVolume : host.separateTemporary = false)
    (installs : collaborators.Installs host memory slot) :
    collaborators.Permits host memory (FileCall.installation (collaborators.scratch host)
      (collaborators.staged host) slot binary) := by
  obtain ⟨⟨executable, plain⟩, noTail, ⟨content, found⟩, temporaryFound, ⟨_, stagedPlain⟩,
    unused⟩ := installs
  obtain ⟨isTree, shows', -, writes, renames⟩ := agrees
  obtain ⟨_, rfl, -, scratchPlain⟩ := stagedPlain.of_child
  change (collaborators.scratch host).Plain _ at scratchPlain
  obtain ⟨temporary, rfl, scratchParent, temporaryPlain⟩ := scratchPlain.of_child
  -- What there is before the first call.
  have isFile := (shows'.find? plain).symm.trans found
  have isDirectory : inventory temporary = some .directory := by
    rw [← shows'.find? temporaryPlain, ← temporaryFound]
    exact memory.tree.find?_congr rfl
  have noScratch :=
    (shows'.find? scratchPlain).symm.trans (unused _ (Path.liesIn_of_components_eq rfl))
  have noStaged := (shows'.find? stagedPlain).symm.trans (unused _ (liesIn_scratch_of_staged rfl))
  rcases List.eq_nil_or_concat' executable with rfl | ⟨around, name, rfl⟩
  · simp [isTree.root] at isFile
  have inside := isTree.parents around name (by simp [isFile])
  -- What there is before each of the other calls.
  have inMade := shows'.createDirectory scratchPlain
  have inStaged : (collaborators.stagedMemory host memory slot binary).Shows _ :=
    inMade.insert stagedPlain (.file binary slot.mode) (memory.created + 1)
  have inMoved := (inStaged.erase stagedPlain).insert plain (.file binary slot.mode)
    (memory.created + 1)
  have makes : memory.Permits (.createDirectory (collaborators.scratch host)) :=
    ⟨⟨_, scratchPlain⟩, (noFileAlong_iff shows' scratchPlain).mpr
      ((isTree.clear_of_directory isDirectory).concat noScratch)⟩
  have stages : (memory.createDirectory (collaborators.scratch host)).Permits
      (.create (collaborators.staged host) slot.mode (WriterCall.whole binary)) := by
    refine ⟨⟨⟨_, stagedPlain⟩, rfl, ?_, ?_⟩, isTree.modes _ content slot.mode isFile⟩
    · exact (hasDirectory_iff inMade stagedPlain).mpr ⟨_, _, rfl, Inventory.make_self noScratch⟩
    · rw [inMade.find? stagedPlain, Inventory.make_below noStaged]
      simp
  have moves : (collaborators.stagedMemory host memory slot binary).Permits
      (.rename (collaborators.staged host) slot.path) := by
    refine ⟨⟨_, stagedPlain⟩, rfl, ⟨binary, slot.mode, find?_staged⟩, ⟨_, plain⟩, noTail, ?_, ?_⟩
    · exact (hasDirectory_iff inStaged plain).mpr
        ⟨_, _, rfl, Inventory.put_make_of_some noStaged inside⟩
    · rw [inStaged.find? plain, Inventory.put_make_of_some noStaged isFile]
      simp
  have removes : ((collaborators.stagedMemory host memory slot binary).moved
      (collaborators.staged host) slot.path (.file binary slot.mode)).Permits
        (.removeAll (collaborators.scratch host)) := by
    refine ⟨⟨_, scratchPlain⟩, ⟨_, scratchParent, ?_⟩, fun _ => rfl⟩
    refine (noFileAlong_iff inMoved temporaryPlain).mpr fun above before otherContent mode => ?_
    rw [directory_stays noStaged (by simp [isFile]) (isTree.directory_above isDirectory before)]
    simp
  -- Each call leads to the memory in which the next one is permitted.
  obtain ⟨replies, stagedByCall⟩ := run_create_staged slot binary unused writes
  have renamed := handler_rename_staged collaborators slot binary oneVolume renames
  refine ⟨makes, ?_⟩
  rw [FileCall.run_createDirectory rfl]
  refine ⟨stages, ?_⟩
  rw [stagedByCall]
  refine ⟨moves, ?_⟩
  rw [FileCall.run_rename renamed]
  exact ⟨removes, trivial⟩

end Collaborators

/-- Calls that are permitted, each when its turn has come, have the same outcome in memory
and on the disk of a machine that holds the same tree, and then both hold the same tree
again.  All calls of an installation are permitted, if the executable is a file and there is a
directory for temporary files. -/
theorem mirroring_of_calls (collaborators : Collaborators) (host : Host) (site : Site)
    (command : UpdateCommand) (memory : Memory) (machine : Machine)
    (oneVolume : host.separateTemporary = false) (mirrors : memory.Mirrors machine.disk) :
    (∀ calls, collaborators.Permits host memory calls →
      Alike ((FileCall.programAll calls).run (collaborators.handler host) memory)
        ((FileCall.programAll calls).run (site.handler command) machine)) ∧
    ∀ slot binary, collaborators.Installs host memory slot →
      let calls := FileCall.installation (collaborators.scratch host) (collaborators.staged host)
        slot binary
      collaborators.Permits host memory calls ∧
        (install slot binary).exchanges (collaborators.handler host) memory =
          ⟨.temporaryDirectory, some host.temporary⟩ ::
            ⟨.freshName, some collaborators.name⟩ ::
              (FileCall.programAll calls).exchanges (collaborators.handler host) memory := by
  refine ⟨fun calls permits =>
    alike_of_permits_all collaborators site command oneVolume mirrors permits, ?_⟩
  intro slot binary installs
  obtain ⟨inventory, agrees⟩ := mirrors
  exact ⟨Collaborators.permits_installation agrees oneVolume installs,
    Collaborators.exchanges_install oneVolume installs.unused agrees.writes agrees.renames⟩

section Sample

def sampleHost : Host := Host.running "/opt/coder" false

def sampleSlot : ExecutableSlot := ⟨Path.ofString "/opt/coder", 0o755⟩

def sampleSite : Site :=
  ⟨Path.ofString "/opt/coder", Path.ofString "/tmp", ⟨none⟩, .open⟩

def sampleCommand : UpdateCommand :=
  ⟨sampleUpdater, .ofSettings .default, "coder"⟩

/-- A machine whose disk has the nodes of the sample memory. -/
def sampleMachine : Machine :=
  let disk : Disk := ⟨[], [], 0o027⟩
  .ofDisk (((disk.insert [['t', 'm', 'p']] (.directory 0o777)).insert [['o', 'p', 't']]
    (.directory 0o755)).insert [['o', 'p', 't'], "coder".toList] (.file [79, 76, 68] 0o755))

/-- What the sample memory holds. -/
def sampleInventory : Inventory :=
  ((Inventory.rootOnly.put [['t', 'm', 'p']] .directory).put [['o', 'p', 't']] .directory).put
    [['o', 'p', 't'], "coder".toList] (.file [79, 76, 68] 0o755)

theorem plain_executable : (Path.ofString "/opt/coder").Plain [['o', 'p', 't'], "coder".toList] :=
  Path.plain_ofString ⟨by decide, by decide, by decide, by decide, by decide, by decide⟩
    (by decide)

theorem plain_opt : (Path.ofString "/opt").Plain [['o', 'p', 't']] :=
  Path.plain_ofString ⟨by decide, by decide, by decide, by decide, by decide, by decide⟩
    (by decide)

theorem plain_tmp : (Path.ofString "/tmp").Plain [['t', 'm', 'p']] :=
  Path.plain_ofString ⟨by decide, by decide, by decide, by decide, by decide, by decide⟩
    (by decide)

theorem isTree_sample : sampleInventory.IsTree := by
  have onlyRoot := Inventory.isTree_rootOnly
  have withTmp := onlyRoot.put_directory ['t', 'm', 'p'] onlyRoot.root
    (by simp [Inventory.rootOnly])
  have withOpt := withTmp.put_directory ['o', 'p', 't'] withTmp.root
    (by simp [Inventory.put, Inventory.rootOnly])
  have inOpt : (Inventory.rootOnly.put [['t', 'm', 'p']] .directory).put [['o', 'p', 't']]
      .directory [['o', 'p', 't']] = some .directory := Inventory.put_self _ _ _
  exact withOpt.put inOpt
    (by simp [Inventory.put, Inventory.rootOnly]) (by decide)

theorem shows_sampleMemory : sampleMemory.Shows sampleInventory := by
  have shown := ((Memory.shows_empty.insert plain_tmp .directory 0).createDirectory
    plain_opt).insert plain_executable (.file [79, 76, 68] 0o755) 0
  have same : (Inventory.put (fun _ => none) [['t', 'm', 'p']] .directory).make [['o', 'p', 't']] =
      (Inventory.rootOnly.put [['t', 'm', 'p']] .directory).put [['o', 'p', 't']] .directory := by
    funext place
    have onTheWay : place <+: [['o', 'p', 't']] ↔ place = [['o', 'p', 't']] ∨ place = [] := by
      rw [← List.nil_append [['o', 'p', 't']], List.prefix_concat_iff, List.prefix_nil]
    simp only [Inventory.make, Inventory.put, Inventory.rootOnly, onTheWay]
    by_cases root : place = []
    · simp [root]
    · by_cases tmp : place = [['t', 'm', 'p']] <;> simp [root, tmp]
  rw [same] at shown
  exact shown

theorem shows_sampleDisk : sampleMachine.disk.Shows sampleInventory :=
  (((Disk.shows_rootOnly [] 0o027).insert (by simp) rfl).insert (by simp) rfl).insert (by simp) rfl

theorem mirrors_sample : sampleMemory.Mirrors sampleMachine.disk :=
  ⟨sampleInventory, isTree_sample, shows_sampleMemory, shows_sampleDisk, rfl, rfl⟩

theorem installs_sample : sampleCollaborators.Installs sampleHost sampleMemory sampleSlot where
  executable := ⟨_, plain_executable⟩
  noTail := by decide
  isFile := ⟨[79, 76, 68], by decide⟩
  temporary := by decide
  staged := by
    have scratch : (sampleCollaborators.scratch sampleHost).Plain _ :=
      plain_tmp.child ⟨by decide, by decide, by decide, by decide, by decide⟩ (by decide)
        (by decide)
    exact ⟨_, scratch.child ⟨by decide, by decide, by decide, by decide, by decide⟩ (by decide)
      (by decide)⟩
  unused := Collaborators.unused_of_entries (by decide)

theorem mirroring_of_sampleCalls :
    sampleHost.separateTemporary = false ∧ sampleMemory.Mirrors sampleMachine.disk ∧
      sampleCollaborators.Installs sampleHost sampleMemory sampleSlot ∧
      let calls := FileCall.installation (sampleCollaborators.scratch sampleHost)
        (sampleCollaborators.staged sampleHost) sampleSlot [78, 69, 87]
      sampleCollaborators.Permits sampleHost sampleMemory calls ∧
        Alike
          ((FileCall.programAll calls).run (sampleCollaborators.handler sampleHost) sampleMemory)
          ((FileCall.programAll calls).run (sampleSite.handler sampleCommand) sampleMachine) := by
  obtain ⟨alike, installing⟩ := mirroring_of_calls sampleCollaborators sampleHost sampleSite
    sampleCommand sampleMemory sampleMachine rfl mirrors_sample
  have permitted := (installing sampleSlot [78, 69, 87] installs_sample).1
  exact ⟨rfl, mirrors_sample, installs_sample, permitted, alike _ permitted⟩

theorem Alike.fst_eq {α : Type} {inMemory : Option α × Memory} {onDisk : Option α × Machine}
    (alike : Alike inMemory onDisk) : inMemory.1 = onDisk.1 := by
  obtain ⟨value, memory, machine, rfl, rfl, -⟩ := alike
  rfl

/-- On the sample memory and on its disk a call has different outcomes. -/
def DiffersOnSample (call : FileCall) : Prop :=
  ¬Alike (call.program.run (sampleCollaborators.handler sampleHost) sampleMemory)
    (call.program.run (sampleSite.handler sampleCommand) sampleMachine)

theorem differsOnSample_of_replies {call : FileCall} {inMemory onDisk : List FileReply}
    {after : Machine}
    (replies : (call.program.run (sampleCollaborators.handler sampleHost) sampleMemory).1 =
      some inMemory)
    (runs : call.program.run (sampleSite.handler sampleCommand) sampleMachine =
      (some onDisk, after)) (differ : inMemory ≠ onDisk) : DiffersOnSample call := by
  intro alike
  have same := alike.fst_eq
  rw [replies, runs] at same
  exact differ (Option.some.inj same)

theorem noFileAlong_of_read {memory : Memory} {path : Path}
    (nothing : path.ancestors.all (fun ancestor => (memory.read ancestor).isNone) = true) :
    memory.NoFileAlong path := by
  intro ancestor member content mode found
  have unread := List.all_eq_true.mp nothing ancestor member
  simp [Memory.read, found] at unread

section Spellings

open Disk

theorem find?_sampleDisk :
    sampleMachine.disk.find? [['o', 'p', 't']] = some (.directory 0o755) ∧
      sampleMachine.disk.find? [['o', 'p', 't'], ['n', 'e', 'w']] = none := by
  decide +kernel

/-- The disk goes up again where a path says so. -/
theorem nodeAt_sampleDisk_up :
    sampleMachine.disk.nodeAt (Path.ofString "/opt/../opt/coder") =
      .ok ([['o', 'p', 't'], "coder".toList], .file [79, 76, 68] 0o755) := by
  have parts : strictParts (Path.ofString "/opt/../opt/coder").letters =
      [['o', 'p', 't'], ['.', '.'], ['o', 'p', 't'], "coder".toList] := by
    decide +kernel
  have leads : sampleMachine.disk.resolve true (Path.ofString "/opt/../opt/coder")
      (strictParts (Path.ofString "/opt/../opt/coder").letters) =
        .ok (.entry [['o', 'p', 't']] "coder".toList) := by
    rw [resolve_of_fromRoot (by decide +kernel) (by decide +kernel), parts]
    simp +decide [walk, find?_sampleDisk]
  exact nodeAt_of_find? leads (by decide +kernel)

theorem create_sampleDisk_slash (mode : UInt32) :
    sampleMachine.disk.create (Path.ofString "/opt/new/") mode =
      (.error (.system .isADirectory), sampleMachine.disk) := by
  have parts : parts (Path.ofString "/opt/new/").letters =
      [['o', 'p', 't'], ['n', 'e', 'w']] := by
    decide +kernel
  have open' : meansDirectory (Path.ofString "/opt/new/").letters = true := by
    decide +kernel
  rw [create, resolve_of_fromRoot (by decide +kernel) (by decide +kernel), parts, open']
  simp +decide [walk, find?_sampleDisk]

/-- A dot in the end is looked for in a directory that is still to be made. -/
theorem createDirectory_sampleDisk_dot :
    sampleMachine.disk.createDirectory (Path.ofString "/opt/new/.") =
      (.error (.system .notFound), sampleMachine.disk) := by
  have parts : parts (Path.ofString "/opt/new/.").letters =
      [['o', 'p', 't'], ['n', 'e', 'w'], ['.']] := by
    decide +kernel
  have refused : sampleMachine.disk.makeDirectory (Path.ofString "/opt/new/.") =
      (.error (.system .notFound), sampleMachine.disk) := by
    rw [makeDirectory, resolve_of_fromRoot (by decide +kernel) (by decide +kernel), parts]
    simp +decide [walk, find?_sampleDisk]
  have ancestors : (Path.ofString "/opt/new/.").ancestors =
      Path.ofString "/opt/new/." :: Path.ofString "/opt" :: [Path.ofString "/"] := by
    decide +kernel
  have notEmpty : (Path.ofString "/opt/new/.").isEmpty = false := by
    decide +kernel
  have isDirectory : sampleInventory [['o', 'p', 't']] = some .directory := by
    simp [sampleInventory, Inventory.put]
  have onward := createFirst_of_directory shows_sampleDisk isTree_sample plain_opt
    isDirectory [Path.ofString "/opt/new/."] [Path.ofString "/"]
  rw [createDirectory, ancestors, createFirst, notEmpty, refused]
  simp [Failure.kind, SystemFault.kind, onward, makeDirectories, refused]

end Spellings

/-- Not all spellings of absolute paths are read alike.  On a disk `..` goes up again, a slash
in the end is only for directories, a dot in the end needs the directory to be there, and
there is no path with a NUL character.  In memory nothing of this counts. -/
theorem not_alike_of_every_spelling :
    sampleMemory.Mirrors sampleMachine.disk ∧
      (sampleMachine.disk.contentAt (Path.ofString "/opt/../opt/coder") = .ok [79, 76, 68] ∧
        DiffersOnSample (.stat (Path.ofString "/opt/../opt/coder"))) ∧
      (sampleMemory.HasDirectory (Path.ofString "/opt/new/") ∧
        sampleMemory.tree.find? (Path.ofString "/opt/new/") = none ∧
        DiffersOnSample (.create (Path.ofString "/opt/new/") 0o644 [])) ∧
      (sampleMemory.NoFileAlong (Path.ofString "/opt/new/.") ∧
        DiffersOnSample (.createDirectory (Path.ofString "/opt/new/."))) ∧
      sampleMemory.NoFileAlong (Path.ofString "/opt/\x00") ∧
        DiffersOnSample (.createDirectory (Path.ofString "/opt/\x00")) := by
  have content : sampleMachine.disk.contentAt (Path.ofString "/opt/../opt/coder") =
      .ok [79, 76, 68] := by
    rw [Disk.contentAt, nodeAt_sampleDisk_up]
    rfl
  have known : sampleSite.handler sampleCommand (.stat (Path.ofString "/opt/../opt/coder"))
      sampleMachine = (some (.ok ⟨0o755⟩), sampleMachine) := by
    rw [Site.handler, Disk.stat, nodeAt_sampleDisk_up]
    rfl
  have notCreated : sampleSite.handler sampleCommand (.create (Path.ofString "/opt/new/") 0o644)
      sampleMachine = (some (.error (.system .isADirectory)), sampleMachine) := by
    simp [Site.handler, Machine.keep, create_sampleDisk_slash]
  have notMade : sampleSite.handler sampleCommand (.createDirectory (Path.ofString "/opt/new/."))
      sampleMachine = (some (.error (.system .notFound)), sampleMachine) := by
    simp [Site.handler, Machine.keep, createDirectory_sampleDisk_dot]
  refine ⟨mirrors_sample, ⟨content, ?_⟩, ⟨⟨Path.ofString "/opt", by decide, by decide⟩, by decide,
    ?_⟩, ⟨?_, ?_⟩, ?_, ?_⟩
  · have replies : ((FileCall.stat (Path.ofString "/opt/../opt/coder")).program.run
        (sampleCollaborators.handler sampleHost) sampleMemory).1 =
          some [.failed .notFound] := by
      decide +kernel
    exact differsOnSample_of_replies replies (FileCall.run_stat known) (by decide)
  · have replies : ((FileCall.create (Path.ofString "/opt/new/") 0o644 []).program.run
        (sampleCollaborators.handler sampleHost) sampleMemory).1 = some [.done] := by
      decide +kernel
    exact differsOnSample_of_replies replies (FileCall.run_create_failed notCreated) (by decide)
  · exact noFileAlong_of_read (by decide)
  · have replies : ((FileCall.createDirectory (Path.ofString "/opt/new/.")).program.run
        (sampleCollaborators.handler sampleHost) sampleMemory).1 = some [.done] := by
      decide +kernel
    exact differsOnSample_of_replies replies (FileCall.run_createDirectory notMade) (by decide)
  · exact noFileAlong_of_read (by decide)
  · have replies : ((FileCall.createDirectory (Path.ofString "/opt/\x00")).program.run
        (sampleCollaborators.handler sampleHost) sampleMemory).1 = some [.done] := by
      decide +kernel
    exact differsOnSample_of_replies replies (FileCall.run_createDirectory rfl) (by decide)

end Sample

end SelfUpdate
