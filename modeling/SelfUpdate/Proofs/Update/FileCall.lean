import SelfUpdate.CommandLine.Rehearsal
import SelfUpdate.Proofs.FileSystem.Disk.Operations
import SelfUpdate.Proofs.Update.Composition

/-!
# Calls on the file system

A call on the file system is complete with what is done to a file that it opens, which is
closed before the next call.  The caller learns the value that a call returns, or the kind
of its failure.  A call is a program, so it can be made on a file system in memory and on the
disk of a machine.

Both hold the same tree in the beginning, and they do so after every call that is permitted.
Which calls these are is told by what the memory holds at that moment.
-/

namespace SelfUpdate

open CommandLine Program

/-- What is done to an open file. -/
inductive WriterCall where
  | write (bytes : Bytes)
  | flush

/-- A call on the file system.  A file that it opens is used and closed. -/
inductive FileCall where
  | stat (path : Path)
  | create (path : Path) (mode : UInt32) (uses : List WriterCall)
  | createDirectory (path : Path)
  | rename (source target : Path)
  | removeAll (path : Path)

/-- What the caller learns of a result. -/
inductive FileReply where
  | done
  | stat (stat : FileStat)
  | written (count : Nat)
  | failed (kind : FailureKind)
  deriving DecidableEq, Repr

/-- What is learned from a result, if it is known what to tell of a value. -/
def FileReply.ofResult {α : Type} (tell : α → FileReply) : Except Failure α → FileReply
  | .ok value => tell value
  | .error failure => .failed failure.kind

section Programs

variable {Handle : Type}

def WriterCall.program (handle : Handle) : WriterCall → Program Handle FileReply
  | .write bytes => do return .ofResult .written (← request (.write handle bytes))
  | .flush => do return .ofResult (fun _ => .done) (← request (.flush handle))

def WriterCall.programAll (handle : Handle) : List WriterCall → Program Handle (List FileReply)
  | [] => return []
  | use :: rest => do
      let reply ← use.program handle
      return reply :: (← programAll handle rest)

def FileCall.program : FileCall → Program Handle (List FileReply)
  | .stat path => do return [.ofResult .stat (← request (.stat path))]
  | .create path mode uses => do
      match ← request (.create path mode) with
      | .ok handle => return .done :: (← WriterCall.programAll handle uses)
      | .error failure => return [.failed failure.kind]
  | .createDirectory path => do
      return [.ofResult (fun _ => .done) (← request (.createDirectory path))]
  | .rename source target => do
      return [.ofResult (fun _ => .done) (← request (.rename source target))]
  | .removeAll path => do
      return [.ofResult (fun _ => .done) (← request (.removeAll path))]

def FileCall.programAll : List FileCall → Program Handle (List (List FileReply))
  | [] => return []
  | call :: rest => do
      let replies ← call.program
      return replies :: (← programAll rest)

end Programs

/-- The path names a place, and the system accepts it. -/
def Path.IsPlain (path : Path) : Prop := ∃ place, path.Plain place

namespace Memory

/-- No file lies at a path or on the way to it. -/
def NoFileAlong (memory : Memory) (path : Path) : Prop :=
  ∀ ancestor ∈ path.ancestors, ∀ content mode,
    memory.tree.find? ancestor ≠ some (.file content mode)

/-- There is a directory in which the path would be. -/
def HasDirectory (memory : Memory) (path : Path) : Prop :=
  ∃ parent, path.parent = some parent ∧ memory.tree.find? parent = some .directory

def IsFile (memory : Memory) (path : Path) : Prop :=
  ∃ content mode, memory.tree.find? path = some (.file content mode)

/-- A file may be put at a path: it ends in a name, and there is a directory for it, and no
directory in its place. -/
structure HasRoom (memory : Memory) (path : Path) : Prop where
  plain : path.IsPlain
  noTail : path.tail = []
  inside : memory.HasDirectory path
  notDirectory : memory.tree.find? path ≠ some .directory

/-- The calls that a file system in memory answers as a disk would. -/
def Permits (memory : Memory) : FileCall → Prop
  | .stat path => path.IsPlain ∧
      (memory.IsFile path ∧ path.tail = [] ∨
        memory.tree.find? path = none ∧ memory.NoFileAlong path)
  | .create path mode _ => memory.HasRoom path ∧ mode ≤ 0o777
  | .createDirectory path => path.IsPlain ∧ memory.NoFileAlong path
  | .rename source target =>
      source.IsPlain ∧ source.tail = [] ∧ memory.IsFile source ∧ memory.HasRoom target
  | .removeAll path => path.IsPlain ∧
      (∃ parent, path.parent = some parent ∧ memory.NoFileAlong parent) ∧
        (memory.IsFile path → path.tail = [])

/-- A memory and a disk hold what an inventory says, and nothing makes the memory fail. -/
structure Agrees (memory : Memory) (inventory : Inventory) (disk : Disk) : Prop where
  isTree : inventory.IsTree
  inMemory : memory.Shows inventory
  onDisk : disk.Shows inventory
  writes : memory.failingWrites = none
  renames : memory.failingRenames = false

/-- A memory and a disk hold the same tree of files and directories. -/
def Mirrors (memory : Memory) (disk : Disk) : Prop :=
  ∃ inventory, memory.Agrees inventory disk

end Memory

/-- Two runs end with the same value, and then there is the same tree in memory and on the
machine. -/
def Alike {α : Type} (inMemory : Option α × Memory) (onDisk : Option α × Machine) : Prop :=
  ∃ value memory machine, inMemory = (some value, memory) ∧ onDisk = (some value, machine) ∧
    memory.Mirrors machine.disk

section Places

variable {memory : Memory} {inventory : Inventory} {path : Path} {place : Place}
  (shows' : memory.Shows inventory) (plain : path.Plain place)

include shows' plain

theorem noFileAlong_iff : memory.NoFileAlong path ↔ inventory.Clear place := by
  constructor
  · intro noFile above before content mode
    obtain ⟨ancestor, member, same⟩ := (plain.exists_ancestor_iff _).mpr ⟨above, before, rfl⟩
    have named : ancestor.place? = some above := Path.place?_eq_some_iff.mpr same.symm
    have notFile := noFile ancestor member content mode
    rwa [shows' ancestor, named, Option.bind_some] at notFile
  · intro clear ancestor member content mode
    obtain ⟨above, before, same⟩ := (plain.exists_ancestor_iff _).mp ⟨ancestor, member, rfl⟩
    have named : ancestor.place? = some above := Path.place?_eq_some_iff.mpr same
    rw [shows' ancestor, named, Option.bind_some]
    exact clear above before content mode

theorem hasDirectory_iff : memory.HasDirectory path ↔
    ∃ above name, place = above ++ [name] ∧ inventory above = some .directory := by
  rcases List.eq_nil_or_concat' place with rfl | ⟨above, name, rfl⟩
  · simp [Memory.HasDirectory, plain.root.1]
  · obtain ⟨parent, isParent, parentPlain, -⟩ := plain.above
    have same := shows'.find? parentPlain
    constructor
    · rintro ⟨other, isOther, isDirectory⟩
      obtain rfl : other = parent := by simpa [isParent] using isOther.symm
      exact ⟨above, name, rfl, same ▸ isDirectory⟩
    · rintro ⟨other, last, both, isDirectory⟩
      obtain ⟨rfl, -⟩ : above = other ∧ name = last := by simpa using both
      exact ⟨parent, isParent, same.trans isDirectory⟩

end Places

section Runs

variable {Handle σ : Type} {handler : Handler Handle σ} {state middle after : σ}

theorem run_tell {α : Type} {request : Request Handle} {answer : request.Answer}
    (answered : handler request state = (some answer, after)) (tell : request.Answer → α) :
    ((Program.request request).bind fun answer => .done (tell answer)).run handler state =
      (some (tell answer), after) := by
  simp only [Program.request, ask_bind, done_bind, run, answered]

theorem WriterCall.run_cons {handle : Handle} {use : WriterCall} {rest : List WriterCall}
    {reply : FileReply} {replies : List FileReply}
    (first : (use.program handle).run handler state = (some reply, middle))
    (others : (WriterCall.programAll handle rest).run handler middle = (some replies, after)) :
    (WriterCall.programAll handle (use :: rest)).run handler state =
      (some (reply :: replies), after) := by
  change (Program.bind _ fun reply => Program.bind _ fun replies => _).run _ _ = _
  rw [run_bind, first]
  dsimp only
  rw [run_bind, others]
  rfl

theorem FileCall.run_cons {call : FileCall} {rest : List FileCall} {reply : List FileReply}
    {replies : List (List FileReply)}
    (first : call.program.run handler state = (some reply, middle))
    (others : (FileCall.programAll rest).run handler middle = (some replies, after)) :
    (FileCall.programAll (call :: rest)).run handler state = (some (reply :: replies), after) := by
  change (Program.bind _ fun reply => Program.bind _ fun replies => _).run _ _ = _
  rw [run_bind, first]
  dsimp only
  rw [run_bind, others]
  rfl

theorem FileCall.run_create {path : Path} {mode : UInt32} {uses : List WriterCall} {handle : Handle}
    {replies : List FileReply}
    (creates : handler (.create path mode) state = (some (.ok handle), middle))
    (used : (WriterCall.programAll handle uses).run handler middle = (some replies, after)) :
    (FileCall.create path mode uses).program.run handler state =
      (some (.done :: replies), after) := by
  change (Program.bind (request _) _).run _ _ = _
  rw [request, ask_bind, run, creates]
  change (Program.bind (WriterCall.programAll handle uses) _).run _ _ = _
  rw [run_bind, used]
  rfl

theorem FileCall.run_create_failed {path : Path} {mode : UInt32} {uses : List WriterCall}
    {failure : Failure}
    (fails : handler (.create path mode) state = (some (.error failure), after)) :
    (FileCall.create path mode uses).program.run handler state =
      (some [.failed failure.kind], after) := by
  change (Program.bind (request _) _).run _ _ = _
  rw [request, ask_bind, run, fails]
  rfl

theorem FileCall.run_stat {path : Path} {result : Except Failure FileStat}
    (answered : handler (.stat path) state = (some result, after)) :
    (FileCall.stat path).program.run handler state =
      (some [FileReply.ofResult .stat result], after) :=
  run_tell answered fun result => [FileReply.ofResult .stat result]

theorem FileCall.run_createDirectory {path : Path} {result : Except Failure Unit}
    (answered : handler (.createDirectory path) state = (some result, after)) :
    (FileCall.createDirectory path).program.run handler state =
      (some [FileReply.ofResult (fun _ => .done) result], after) :=
  run_tell answered fun result => [FileReply.ofResult (fun _ => .done) result]

theorem FileCall.run_rename {source target : Path}
    (answered : handler (.rename source target) state = (some (.ok ()), after)) :
    (FileCall.rename source target).program.run handler state = (some [.done], after) :=
  run_tell answered fun result => [FileReply.ofResult (fun _ => .done) result]

theorem FileCall.run_removeAll {path : Path}
    (answered : handler (.removeAll path) state = (some (.ok ()), after)) :
    (FileCall.removeAll path).program.run handler state = (some [.done], after) :=
  run_tell answered fun result => [FileReply.ofResult (fun _ => .done) result]

end Runs

section Agreement

variable {memory : Memory} {inventory : Inventory} {disk after : Disk} {path : Path}
  {place : Place} {name : List Char}

theorem Memory.Agrees.put (agrees : memory.Agrees inventory disk)
    (plain : path.Plain (place ++ [name])) (inside : inventory place = some .directory)
    (notDirectory : inventory (place ++ [name]) ≠ some .directory) {content : Bytes}
    {mode : UInt32} (permissions : mode ≤ 0o777) (created : Nat)
    (onDisk : after.Shows (inventory.put (place ++ [name]) (.file content mode))) :
    Memory.Agrees
      { memory with tree := memory.tree.insert path (.file content mode), created := created }
      (inventory.put (place ++ [name]) (.file content mode)) after where
  isTree := agrees.isTree.put inside notDirectory permissions
  inMemory := agrees.inMemory.insert plain (.file content mode) created
  onDisk := onDisk
  writes := agrees.writes
  renames := agrees.renames

end Agreement

section Calls

variable {collaborators : Collaborators} {host : Host} {site : Site} {command : UpdateCommand}
  {memory : Memory} {machine : Machine} {inventory : Inventory}

section Writers

variable {path : Path} {place : Place} {name : List Char} {content : Bytes} {mode : UInt32}

/-- An open file takes all bytes that are written at once, in memory as on the disk. -/
theorem alike_write (plain : path.Plain (place ++ [name]))
    (isFile : inventory (place ++ [name]) = some (.file content mode))
    (agrees : memory.Agrees inventory machine.disk) (bytes : Bytes) :
    ∃ (grown : Memory) (grownMachine : Machine),
      (WriterCall.program ⟨path, false⟩ (.write bytes)).run (collaborators.handler host) memory =
        (some (.written bytes.length), grown) ∧
      (WriterCall.program ⟨place ++ [name]⟩ (.write bytes)).run (site.handler command) machine =
        (some (.written bytes.length), grownMachine) ∧
      grown.Agrees (inventory.put (place ++ [name]) (.file (content ++ bytes) mode))
        grownMachine.disk := by
  obtain ⟨disk, writes, shown⟩ := Disk.Shows.write agrees.onDisk agrees.isTree bytes isFile
  have answered : collaborators.handler host (.write ⟨path, false⟩ bytes) memory =
      (some (.ok bytes.length),
        { memory with tree := memory.tree.insert path (.file (content ++ bytes) mode) }) := by
    have found := (agrees.inMemory.find? plain).trans isFile
    simp [Collaborators.handler, Collaborators.answered, Memory.write, found]
  have answeredOnDisk : site.handler command (.write ⟨place ++ [name]⟩ bytes) machine =
      (some (.ok bytes.length), { machine with disk := disk }) := by
    simp [Site.handler, Machine.keep, writes]
  exact ⟨_, _, run_tell answered (FileReply.ofResult .written),
    run_tell answeredOnDisk (FileReply.ofResult .written),
    agrees.put plain (agrees.isTree.parents place name (by simp [isFile])) (by simp [isFile])
      (agrees.isTree.modes _ _ _ isFile) memory.created shown⟩

/-- An open file is used in the same way in memory and on the disk. -/
theorem alike_writers (plain : path.Plain (place ++ [name]))
    (isFile : inventory (place ++ [name]) = some (.file content mode))
    (agrees : memory.Agrees inventory machine.disk) (uses : List WriterCall) :
    Alike ((WriterCall.programAll ⟨path, false⟩ uses).run (collaborators.handler host) memory)
      ((WriterCall.programAll ⟨place ++ [name]⟩ uses).run (site.handler command) machine) := by
  -- The file stays open, and its content grows from write to write.
  induction uses generalizing memory machine inventory content with
  | nil => exact ⟨[], memory, machine, rfl, rfl, inventory, agrees⟩
  | cons use rest ih =>
      cases use with
      | flush =>
          obtain ⟨replies, memory', machine', inMemory, onDisk, mirrors⟩ := ih isFile agrees
          exact ⟨.done :: replies, memory', machine', WriterCall.run_cons rfl inMemory,
            WriterCall.run_cons rfl onDisk, mirrors⟩
      | write bytes =>
          obtain ⟨grown, grownMachine, written, writtenOnDisk, agreesGrown⟩ :=
            alike_write plain isFile agrees bytes
          have isFileGrown : inventory.put (place ++ [name]) (.file (content ++ bytes) mode)
              (place ++ [name]) = some (.file (content ++ bytes) mode) := Inventory.put_self _ _ _
          obtain ⟨replies, memory', machine', inMemory, onDisk, mirrors⟩ :=
            ih isFileGrown agreesGrown
          exact ⟨_, memory', machine', WriterCall.run_cons written inMemory,
            WriterCall.run_cons writtenOnDisk onDisk, mirrors⟩

end Writers

section Permitted

variable (collaborators host site command)
variable (agrees : memory.Agrees inventory machine.disk)

include agrees

theorem alike_stat {path : Path} (permits : memory.Permits (.stat path)) :
    Alike ((FileCall.stat path).program.run (collaborators.handler host) memory)
      ((FileCall.stat path).program.run (site.handler command) machine) := by
  obtain ⟨⟨place, plain⟩, ⟨⟨content, mode, found⟩, noTail⟩ | ⟨missing, noFile⟩⟩ := permits
  · have isFile := (agrees.inMemory.find? plain).symm.trans found
    have known : collaborators.handler host (.stat path) memory =
        (some (.ok ⟨mode⟩), memory) := by
      simp [Collaborators.handler, Memory.stat, found]
    have knownDisk : site.handler command (.stat path) machine =
        (some (.ok ⟨mode⟩), machine) := by
      simp [Site.handler, Disk.stat_file agrees.onDisk agrees.isTree plain isFile noTail]
    exact ⟨_, memory, machine, FileCall.run_stat known, FileCall.run_stat knownDisk, inventory,
      agrees⟩
  · have clear := (noFileAlong_iff agrees.inMemory plain).mp noFile
    have isMissing := (agrees.inMemory.find? plain).symm.trans missing
    have known : collaborators.handler host (.stat path) memory =
        (some (.error (.missing path)), memory) := by
      simp [Collaborators.handler, Memory.stat, missing]
    have knownDisk : site.handler command (.stat path) machine =
        (some (.error (.system .notFound)), machine) := by
      simp [Site.handler, Disk.stat_missing agrees.onDisk agrees.isTree plain clear isMissing]
    exact ⟨[.failed .notFound], memory, machine, FileCall.run_stat known,
      FileCall.run_stat knownDisk, inventory, agrees⟩

theorem alike_create {path : Path} {mode : UInt32} {uses : List WriterCall}
    (permits : memory.Permits (.create path mode uses)) :
    Alike ((FileCall.create path mode uses).program.run (collaborators.handler host) memory)
      ((FileCall.create path mode uses).program.run (site.handler command) machine) := by
  obtain ⟨⟨⟨place, plain⟩, noTail, inside, notDirectory⟩, permissions⟩ := permits
  obtain ⟨above, name, rfl, isDirectory⟩ := (hasDirectory_iff agrees.inMemory plain).mp inside
  obtain ⟨parent, isParent, found⟩ := inside
  rw [agrees.inMemory.find? plain] at notDirectory
  obtain ⟨disk, creates, shown⟩ := Disk.Shows.create agrees.onDisk agrees.isTree plain noTail
    isDirectory notDirectory permissions
  let opened : Memory :=
    { memory with
      tree := memory.tree.insert path (.file [] mode)
      created := memory.created + 1 }
  let openedMachine : Machine := { machine with disk := disk }
  have opens : collaborators.handler host (.create path mode) memory =
      (some (.ok ⟨path, false⟩), opened) := by
    simp [Collaborators.handler, Collaborators.answered, Memory.create, Memory.parentFault,
      isParent, found, agrees.writes, opened]
  have opensOnDisk : site.handler command (.create path mode) machine =
      (some (.ok ⟨above ++ [name]⟩), openedMachine) := by
    simp [Site.handler, Machine.keep, creates, openedMachine]
  have isFile : inventory.put (above ++ [name]) (.file [] mode) (above ++ [name]) =
      some (.file [] mode) := Inventory.put_self _ _ _
  have agreesOpened : opened.Agrees _ openedMachine.disk :=
    agrees.put plain isDirectory notDirectory permissions (memory.created + 1) shown
  obtain ⟨replies, memory', machine', used, usedOnDisk, mirrors⟩ :=
    alike_writers plain isFile agreesOpened uses
  exact ⟨_, memory', machine', FileCall.run_create opens used,
    FileCall.run_create opensOnDisk usedOnDisk, mirrors⟩

theorem alike_createDirectory {path : Path} (permits : memory.Permits (.createDirectory path)) :
    Alike ((FileCall.createDirectory path).program.run (collaborators.handler host) memory)
      ((FileCall.createDirectory path).program.run (site.handler command) machine) := by
  obtain ⟨⟨place, plain⟩, noFile⟩ := permits
  have clear := (noFileAlong_iff agrees.inMemory plain).mp noFile
  obtain ⟨disk, creates, shown⟩ :=
    Disk.Shows.createDirectory agrees.onDisk agrees.isTree plain clear
  have created : site.handler command (.createDirectory path) machine =
      (some (.ok ()), { machine with disk := disk }) := by
    simp [Site.handler, Machine.keep, creates]
  exact ⟨_, _, _, FileCall.run_createDirectory rfl, FileCall.run_createDirectory created,
    inventory.make place, agrees.isTree.make clear, agrees.inMemory.createDirectory plain, shown,
    agrees.writes, agrees.renames⟩

theorem alike_rename (oneVolume : host.separateTemporary = false) {source target : Path}
    (permits : memory.Permits (.rename source target)) :
    Alike ((FileCall.rename source target).program.run (collaborators.handler host) memory)
      ((FileCall.rename source target).program.run (site.handler command) machine) := by
  obtain ⟨⟨source', sourcePlain⟩, sourceTail, ⟨content, mode, found⟩, ⟨target', targetPlain⟩,
    targetTail, inside, notDirectory⟩ := permits
  obtain ⟨above, name, rfl, isDirectory⟩ :=
    (hasDirectory_iff agrees.inMemory targetPlain).mp inside
  have isFile := (agrees.inMemory.find? sourcePlain).symm.trans found
  rw [agrees.inMemory.find? targetPlain] at notDirectory
  obtain ⟨disk, renames, shown⟩ := Disk.Shows.rename agrees.onDisk agrees.isTree sourcePlain
    targetPlain sourceTail targetTail isFile isDirectory notDirectory
  have renamed : collaborators.handler host (.rename source target) memory =
      (some (.ok ()),
        { memory with
          tree := (memory.tree.erase source).insert target (.file content mode) }) := by
    simp [Collaborators.handler, Collaborators.answered, Memory.rename, Memory.crossesVolumes,
      oneVolume, agrees.renames, found]
  have renamedOnDisk : site.handler command (.rename source target) machine =
      (some (.ok ()), { machine with disk := disk }) := by
    simp [Site.handler, Machine.keep, renames]
  -- The parent of the target is a directory, so it is not what is moved.
  have stillInside : inventory.drop source' above = some .directory := by
    have apart : above ≠ source' := by
      rintro rfl
      simp [isDirectory] at isFile
    rw [Inventory.drop, if_neg apart, isDirectory]
  have stillNotDirectory : inventory.drop source' (above ++ [name]) ≠ some .directory := by
    rw [Inventory.drop]
    split
    · simp
    · exact notDirectory
  have dropped : (inventory.drop source').IsTree := agrees.isTree.drop (by simp [isFile])
  have moved : ((inventory.drop source').put (above ++ [name]) (.file content mode)).IsTree :=
    dropped.put stillInside stillNotDirectory
      (agrees.isTree.modes source' content mode isFile)
  exact ⟨_, _, _, FileCall.run_rename renamed, FileCall.run_rename renamedOnDisk, _, moved,
    (agrees.inMemory.erase sourcePlain).insert targetPlain _ memory.created, shown,
    agrees.writes, agrees.renames⟩

theorem alike_removeAll {path : Path} (permits : memory.Permits (.removeAll path)) :
    Alike ((FileCall.removeAll path).program.run (collaborators.handler host) memory)
      ((FileCall.removeAll path).program.run (site.handler command) machine) := by
  obtain ⟨⟨place, plain⟩, ⟨parent, isParent, noFile⟩, noSlash⟩ := permits
  rcases List.eq_nil_or_concat' place with rfl | ⟨above, name, rfl⟩
  · simp [plain.root.1] at isParent
  obtain ⟨other, isOther, parentPlain, -⟩ := plain.above
  obtain rfl : parent = other := by simpa [isParent] using isOther
  have clear := (noFileAlong_iff agrees.inMemory parentPlain).mp noFile
  have open' : path.tail = [] ∨
      ∀ content mode, inventory (above ++ [name]) ≠ some (.file content mode) := by
    by_cases isFile : memory.IsFile path
    · exact Or.inl (noSlash isFile)
    · refine Or.inr fun content mode found => isFile ⟨content, mode, ?_⟩
      rw [agrees.inMemory.find? plain, found]
  obtain ⟨disk, removes, shown⟩ :=
    Disk.Shows.removeAll agrees.onDisk agrees.isTree plain clear open'
  have removed : site.handler command (.removeAll path) machine =
      (some (.ok ()), { machine with disk := disk }) := by
    simp [Site.handler, Machine.keep, removes]
  exact ⟨_, _, _, FileCall.run_removeAll rfl, FileCall.run_removeAll removed, _,
    agrees.isTree.dropBelow (by simp), agrees.inMemory.removeAll plain, shown, agrees.writes,
    agrees.renames⟩

end Permitted

variable (collaborators site command)

/-- A permitted call has the same outcome in memory and on the disk. -/
theorem alike_of_permits (oneVolume : host.separateTemporary = false)
    (mirrors : memory.Mirrors machine.disk) {call : FileCall} (permits : memory.Permits call) :
    Alike (call.program.run (collaborators.handler host) memory)
      (call.program.run (site.handler command) machine) := by
  obtain ⟨inventory, agrees⟩ := mirrors
  cases call with
  | stat path => exact alike_stat collaborators host site command agrees permits
  | create path mode uses => exact alike_create collaborators host site command agrees permits
  | createDirectory path =>
      exact alike_createDirectory collaborators host site command agrees permits
  | rename source target =>
      exact alike_rename collaborators host site command agrees oneVolume permits
  | removeAll path => exact alike_removeAll collaborators host site command agrees permits

/-- Each call is permitted when its turn has come. -/
def Collaborators.Permits (collaborators : Collaborators) (host : Host) (memory : Memory) :
    List FileCall → Prop
  | [] => True
  | call :: rest => memory.Permits call ∧
      collaborators.Permits host (call.program.run (collaborators.handler host) memory).2 rest

theorem alike_of_permits_all (oneVolume : host.separateTemporary = false)
    (mirrors : memory.Mirrors machine.disk) {calls : List FileCall}
    (permits : collaborators.Permits host memory calls) :
    Alike ((FileCall.programAll calls).run (collaborators.handler host) memory)
      ((FileCall.programAll calls).run (site.handler command) machine) := by
  induction calls generalizing memory machine with
  | nil => exact ⟨[], memory, machine, rfl, rfl, mirrors⟩
  | cons call rest ih =>
      obtain ⟨first, later⟩ := permits
      obtain ⟨reply, middle, middle', inMemory, onDisk, mirrors⟩ :=
        alike_of_permits collaborators site command oneVolume mirrors first
      rw [inMemory] at later
      obtain ⟨replies, after, after', restInMemory, restOnDisk, mirrors⟩ := ih mirrors later
      exact ⟨_, after, after', FileCall.run_cons inMemory restInMemory,
        FileCall.run_cons onDisk restOnDisk, mirrors⟩

end Calls

end SelfUpdate
