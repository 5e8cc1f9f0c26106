import Mathlib.Data.List.Forall2
import SelfUpdate.Proofs.FileSystem.Session
import SelfUpdate.Proofs.Path.Respelling

/-!
# The spelling of paths does not matter to files in memory

What is left of a path without its spelling is bare: its components and nothing else.  A file
system in memory takes bare paths for what they are.  Every operation on it commutes with
taking the spelling away, from the paths that it is given, from the entries and the open files,
and from the paths that failures name.  So does a call on a session, and by induction every
sequence of calls.

Two sequences of calls that differ in nothing but the spelling of their paths are the same when
it is taken away, and so are their replies and the trees that they lead to.
-/

namespace SelfUpdate

section Bare

/-- The path with the same components, and without any other letter. -/
def Path.bare (path : Path) : Path :=
  ⟨path.components.map fun component => ⟨[], component⟩, []⟩

def Entry.bare (entry : Entry) : Entry :=
  { entry with path := entry.path.bare }

def Tree.bare (tree : Tree) : Tree :=
  ⟨tree.entries.map Entry.bare⟩

def Memory.bare (memory : Memory) : Memory :=
  { memory with
    tree := memory.tree.bare
    failingWrites := memory.failingWrites.map Path.bare }

def Writer.bare (writer : Writer) : Writer :=
  { writer with path := writer.path.bare }

def Failure.bare : Failure → Failure
  | .missing path => .missing path.bare
  | failure => failure

/-- The result of an operation on a memory, without spelling. -/
def bareResult {α β : Type} (value : α → β) (result : Except Failure α × Memory) :
    Except Failure β × Memory :=
  ((result.1.map value).mapError Failure.bare, result.2.bare)

end Bare

namespace Path

variable (path other : Path)

@[simp]
theorem components_bare : path.bare.components = path.components := by
  simp [bare, components]

theorem bare_eq_iff : path.bare = other.bare ↔ path.components = other.components := by
  constructor
  · intro same
    rw [← components_bare path, same, components_bare]
  · intro same
    rw [bare, bare, same]

@[simp]
theorem sameAs_bare : path.bare.sameAs other.bare = path.sameAs other := by
  simp [sameAs]

@[simp]
theorem liesIn_bare : path.bare.liesIn other.bare = path.liesIn other := by
  simp [liesIn]

@[simp]
theorem order_bare : path.bare.order other.bare = path.order other := by
  simp [order]

@[simp]
theorem isEmpty_bare : path.bare.isEmpty = path.isEmpty := by
  simp [isEmpty, bare, components]

private theorem ancestorsOfReversed_bare (reversed : List Step) :
    ancestorsOfReversed (reversed.map fun step => ⟨[], step.component⟩) =
      (ancestorsOfReversed reversed).map bare := by
  induction reversed with
  | nil => rfl
  | cons step rest ih =>
      obtain ⟨gap, component⟩ := step
      cases component <;> simp [ancestorsOfReversed, ih, bare, components]

theorem steps_bare : path.bare.steps = path.steps.map fun step => ⟨[], step.component⟩ := by
  simp [bare, components]

theorem ancestors_bare : path.bare.ancestors = path.ancestors.map bare := by
  rw [ancestors, ancestors, steps_bare, ← List.map_reverse, ancestorsOfReversed_bare, List.map_cons]

theorem parent_bare : path.bare.parent = path.parent.map bare := by
  rw [parent, parent, steps_bare, ← List.map_reverse]
  rcases path.steps.reverse with _ | ⟨⟨gap, _ | _ | _ | _⟩, rest⟩ <;> simp [bare, components]

end Path

namespace Tree

variable (tree : Tree) (path : Path) (node : Node)

@[simp]
theorem find?_bare : tree.bare.find? path.bare = tree.find? path := by
  have sameTest : ((fun entry : Entry => entry.path.sameAs path.bare) ∘ Entry.bare) =
      fun entry => entry.path.sameAs path := by
    funext entry
    simp [Entry.bare]
  simp only [find?, bare, List.find?_map, sameTest, Option.map_map]
  rfl

private theorem insertEntry_bare (entries : List Entry) :
    insertEntry path.bare node (entries.map Entry.bare) =
      (insertEntry path node entries).map Entry.bare := by
  induction entries with
  | nil => rfl
  | cons entry rest ih =>
      simp only [List.map_cons, insertEntry, ih, Entry.bare, Path.sameAs_bare, Path.order_bare]
      split
      · rfl
      · split <;> rfl

theorem insert_bare : tree.bare.insert path.bare node = (tree.insert path node).bare :=
  congrArg Tree.mk (insertEntry_bare path node tree.entries)

private theorem filter_bare {test testBare : Entry → Bool} (entries : List Entry)
    (same : ∀ entry, testBare entry.bare = test entry) :
    (entries.map Entry.bare).filter testBare = (entries.filter test).map Entry.bare := by
  rw [List.filter_map]
  exact congrArg _ (List.filter_congr fun entry _ => same entry)

theorem erase_bare : tree.bare.erase path.bare = (tree.erase path).bare :=
  congrArg Tree.mk (filter_bare tree.entries fun entry => by simp [Entry.bare])

theorem eraseBelow_bare : tree.bare.eraseBelow path.bare = (tree.eraseBelow path).bare :=
  congrArg Tree.mk (filter_bare tree.entries fun entry => by simp [Entry.bare])

theorem ensureDirectory_bare :
    tree.bare.ensureDirectory path.bare = (tree.ensureDirectory path).bare := by
  unfold ensureDirectory
  rw [find?_bare]
  split
  · rfl
  · exact tree.insert_bare path .directory

theorem foldl_ensureDirectory_bare (paths : List Path) :
    (paths.map Path.bare).foldl ensureDirectory tree.bare =
      (paths.foldl ensureDirectory tree).bare := by
  induction paths generalizing tree with
  | nil => rfl
  | cons path paths ih => simp only [List.map_cons, List.foldl_cons, ensureDirectory_bare, ih]

end Tree

namespace Memory

variable (memory : Memory) (host : Host) (path source target : Path) (mode : UInt32)

theorem createDirectory_bare :
    memory.bare.createDirectory path.bare = (memory.createDirectory path).bare := by
  have kept : (path.bare.ancestors.filter fun ancestor => !ancestor.isEmpty) =
      (path.ancestors.filter fun ancestor => !ancestor.isEmpty).map Path.bare := by
    rw [Path.ancestors_bare, List.filter_map]
    exact congrArg _ (List.filter_congr fun ancestor _ => by simp)
  simp only [createDirectory, kept]
  exact congrArg (fun tree => { memory.bare with tree := tree })
    (memory.tree.foldl_ensureDirectory_bare _)

theorem addFile_bare (content : Bytes) :
    memory.bare.addFile path.bare content mode = (memory.addFile path content mode).bare := by
  unfold addFile
  rw [Path.parent_bare]
  cases path.parent with
  | none => simp [bare, Tree.insert_bare]
  | some parent =>
      simp only [Option.map_some, createDirectory_bare]
      simp [bare, Tree.insert_bare]

@[simp]
theorem find?_tree_bare : memory.bare.tree.find? path.bare = memory.tree.find? path :=
  memory.tree.find?_bare path

theorem read_bare : memory.bare.read path.bare = memory.read path := by
  simp [read]

theorem mode_bare : memory.bare.mode path.bare = memory.mode path := by
  simp [Memory.mode]

theorem stat_bare :
    memory.bare.stat path.bare = (memory.stat path).mapError Failure.bare := by
  unfold stat
  rw [find?_tree_bare]
  rcases memory.tree.find? path with _ | _ | _ <;> rfl

theorem parentFault_bare :
    memory.bare.parentFault path.bare = (memory.parentFault path).map Failure.bare := by
  unfold parentFault
  rw [Path.parent_bare]
  cases path.parent with
  | none => rfl
  | some parent =>
      simp only [Option.map_some, find?_tree_bare]
      rcases memory.tree.find? parent with _ | _ | _ <;> rfl

theorem create_bare :
    memory.bare.create path.bare mode = bareResult Writer.bare (memory.create path mode) := by
  unfold create
  rw [parentFault_bare]
  cases memory.parentFault path with
  | some failure => rfl
  | none =>
      have refused : (memory.failingWrites.map Path.bare).any path.bare.liesIn =
          memory.failingWrites.any path.liesIn := by
        cases memory.failingWrites <;> simp
      simp only [Option.map_none, bareResult, bare, Tree.insert_bare, refused]
      rfl

theorem write_bare (writer : Writer) (bytes : Bytes) :
    memory.bare.write writer.bare bytes = bareResult id (memory.write writer bytes) := by
  unfold write
  obtain ⟨path, fails⟩ := writer
  cases fails with
  | true => rfl
  | false =>
      simp only [Writer.bare, find?_tree_bare]
      rcases memory.tree.find? path with _ | _ | _
      · rfl
      · simp only [bareResult, bare, Tree.insert_bare]
        rfl
      · rfl

theorem crossesVolumes_bare :
    crossesVolumes host source.bare target.bare = crossesVolumes host source target := by
  simp [crossesVolumes, Path.liesIn]

theorem rename_bare :
    memory.bare.rename host source.bare target.bare =
      bareResult id (memory.rename host source target) := by
  unfold rename
  rw [crossesVolumes_bare, find?_tree_bare]
  cases crossesVolumes host source target with
  | true => rfl
  | false =>
      cases refused : memory.failingRenames with
      | true => simp [bareResult, bare, refused, Except.map, Except.mapError, Failure.bare]
      | false =>
          cases memory.tree.find? source with
          | none => simp [bareResult, bare, refused, Except.map, Except.mapError, Failure.bare]
          | some node =>
              simp [bareResult, bare, refused, Except.map, Except.mapError, Tree.erase_bare,
                Tree.insert_bare]

theorem removeAll_bare : memory.bare.removeAll path.bare = (memory.removeAll path).bare := by
  simp only [removeAll, bare, Tree.eraseBelow_bare]

end Memory

def SessionCall.bare : SessionCall → SessionCall
  | .addFile path content permissions => .addFile path.bare content permissions
  | .failWrites directory => .failWrites directory.bare
  | .stat path => .stat path.bare
  | .read path => .read path.bare
  | .mode path => .mode path.bare
  | .create path permissions name => .create path.bare permissions name
  | .createDirectory path => .createDirectory path.bare
  | .rename source target => .rename source.bare target.bare
  | .removeAll path => .removeAll path.bare
  | call => call

def SessionReply.bare : SessionReply → SessionReply
  | .failed failure => .failed failure.bare
  | reply => reply

namespace Session

def bare (session : Session) : Session :=
  { session with
    memory := session.memory.bare
    writers := session.writers.map fun opened => (opened.1, opened.2.bare) }

variable (session : Session) (hostName : String)

theorem lookup_writers_bare (name : String) (writers : List (String × Writer)) :
    (writers.map fun opened => (opened.1, opened.2.bare)).lookup name =
      (writers.lookup name).map Writer.bare := by
  induction writers with
  | nil => rfl
  | cons opened older ih =>
      simp only [List.map_cons, List.lookup_cons, ih]
      rw [List.lookup_cons]
      cases name == opened.1 <;> rfl

theorem step_bare (call : SessionCall) :
    session.bare.step hostName call.bare =
      ((session.step hostName call).1.bare, (session.step hostName call).2.bare) := by
  cases known : session.hosts.lookup hostName with
  | none => simp [step, bare, known, SessionReply.bare]
  | some host =>
      have knownBare : session.bare.hosts.lookup hostName = some host := known
      cases call
      all_goals simp only [SessionCall.bare, step, known, knownBare]
      case addFile => simp only [bare, Memory.addFile_bare, SessionReply.bare]
      case createDirectory => simp only [bare, Memory.createDirectory_bare, SessionReply.bare]
      case removeAll => simp only [bare, Memory.removeAll_bare, SessionReply.bare]
      case read => simp only [bare, Memory.read_bare, SessionReply.bare]
      case mode => simp only [bare, Memory.mode_bare, SessionReply.bare]
      case stat path =>
          simp only [bare, Memory.stat_bare]
          cases session.memory.stat path <;> rfl
      case create path mode name =>
          simp only [bare, Memory.create_bare, bareResult]
          rcases session.memory.create path mode with ⟨_ | _, after⟩ <;> rfl
      case write name bytes =>
          simp only [bare, lookup_writers_bare]
          cases session.writers.lookup name with
          | none => rfl
          | some writer =>
              simp only [Option.map_some, Memory.write_bare, bareResult]
              rcases session.memory.write writer bytes with ⟨_ | _, after⟩ <;> rfl
      case flush name =>
          simp only [bare, lookup_writers_bare]
          cases session.writers.lookup name <;> rfl
      case rename source target =>
          simp only [bare, Memory.rename_bare, bareResult]
          rcases session.memory.rename host source target with ⟨_ | _, after⟩ <;> rfl
      all_goals rfl

theorem run_bare (calls : List (String × SessionCall)) :
    session.bare.run (calls.map fun made => (made.1, made.2.bare)) =
      ((session.run calls).1.map SessionReply.bare, (session.run calls).2.bare) := by
  induction calls generalizing session with
  | nil => rfl
  | cons made calls ih =>
      simp only [List.map_cons, run, step_bare, ih]

end Session

section Respelled

/-- Two calls are the same but for the spelling of their paths. -/
inductive SessionCall.Respells : SessionCall → SessionCall → Prop
  | same (call : SessionCall) : Respells call call
  | addFile {path other : Path} (same : path.components = other.components) (content : Bytes)
      (permissions : UInt32) :
      Respells (.addFile path content permissions) (.addFile other content permissions)
  | failWrites {path other : Path} (same : path.components = other.components) :
      Respells (.failWrites path) (.failWrites other)
  | stat {path other : Path} (same : path.components = other.components) :
      Respells (.stat path) (.stat other)
  | read {path other : Path} (same : path.components = other.components) :
      Respells (.read path) (.read other)
  | mode {path other : Path} (same : path.components = other.components) :
      Respells (.mode path) (.mode other)
  | create {path other : Path} (same : path.components = other.components)
      (permissions : UInt32) (writer : String) :
      Respells (.create path permissions writer) (.create other permissions writer)
  | createDirectory {path other : Path} (same : path.components = other.components) :
      Respells (.createDirectory path) (.createDirectory other)
  | rename {source target otherSource otherTarget : Path}
      (sameSource : source.components = otherSource.components)
      (sameTarget : target.components = otherTarget.components) :
      Respells (.rename source target) (.rename otherSource otherTarget)
  | removeAll {path other : Path} (same : path.components = other.components) :
      Respells (.removeAll path) (.removeAll other)

/-- What a caller learns from a reply: its value, or the kind of the failure. -/
def SessionReply.told : SessionReply → Except FailureKind SessionReply
  | .failed failure => .error failure.kind
  | reply => .ok reply

/-- The nodes of a file system in path order, each with the components of its path. -/
def Memory.nodes (memory : Memory) : List (List Component × Node) :=
  memory.tree.entries.map fun entry => (entry.path.components, entry.node)

theorem SessionCall.Respells.bare_eq {call other : SessionCall} (respells : call.Respells other) :
    call.bare = other.bare := by
  cases respells <;> simp_all [SessionCall.bare, Path.bare_eq_iff]

theorem Failure.kind_bare (failure : Failure) : failure.bare.kind = failure.kind := by
  cases failure <;> rfl

theorem SessionReply.told_bare (reply : SessionReply) : reply.bare.told = reply.told := by
  cases reply with
  | failed failure => exact congrArg Except.error failure.kind_bare
  | _ => rfl

theorem Memory.nodes_bare (memory : Memory) : memory.bare.nodes = memory.nodes := by
  simp only [nodes, bare, Tree.bare, List.map_map]
  exact List.map_congr_left fun entry _ => by simp [Entry.bare]

variable (session : Session)

/-- Sequences of calls that differ in the spelling of paths alone have the same outcome: each
call returns the same value or fails in the same way, and the same nodes are left, however
their paths are spelled.  Texts spell the same path if they differ in repeated and trailing
slashes and in inner and trailing dots, and only then. -/
theorem Session.run_of_respelled {calls others : List (String × SessionCall)}
    (respelled : List.Forall₂ (fun made other => made.1 = other.1 ∧ made.2.Respells other.2)
      calls others) :
    let after := session.run calls
    let afterOthers := session.run others
    (∀ left right : String,
        (Path.ofString left).components = (Path.ofString right).components ↔
          Relation.EqvGen Path.Shortens left.toList right.toList) ∧
      after.1.map SessionReply.told = afterOthers.1.map SessionReply.told ∧
      after.2.memory.nodes = afterOthers.2.memory.nodes ∧
      after.2.memory.created = afterOthers.2.memory.created := by
  intro after afterOthers
  have sameCalls : (calls.map fun made => (made.1, made.2.bare)) =
      others.map fun made => (made.1, made.2.bare) := by
    rw [← List.forall₂_eq_eq_eq, List.forall₂_map_left_iff, List.forall₂_map_right_iff]
    exact respelled.imp fun _ _ same => Prod.ext same.1 same.2.bare_eq
  have sameRuns : (after.1.map SessionReply.bare, after.2.bare) =
      (afterOthers.1.map SessionReply.bare, afterOthers.2.bare) := by
    rw [← session.run_bare calls, sameCalls, session.run_bare others]
  obtain ⟨sameReplies, sameSession⟩ := Prod.mk.inj sameRuns
  have sameMemory : after.2.memory.bare = afterOthers.2.memory.bare :=
    congrArg Session.memory sameSession
  have toldBare (replies : List SessionReply) :
      (replies.map SessionReply.bare).map SessionReply.told = replies.map SessionReply.told := by
    simp only [List.map_map]
    exact List.map_congr_left fun reply _ => reply.told_bare
  -- What is told and counted is the same without the spelling, and without it the runs meet.
  refine ⟨fun left right => Path.components_eq_iff, ?_, ?_, ?_⟩
  · rw [← toldBare after.1, sameReplies, toldBare]
  · rw [← after.2.memory.nodes_bare, sameMemory, afterOthers.2.memory.nodes_bare]
  · have sameCreated : after.2.memory.bare.created = afterOthers.2.memory.bare.created :=
      congrArg Memory.created sameMemory
    exact sameCreated

/-- A file is made in a directory and moved next to it, and the directory is removed. -/
def sampleRound (work file neighbour : String) : List (String × SessionCall) :=
  [("main", .createDirectory (.ofString work)),
    ("main", .create (.ofString file) 0o644 "open"),
    ("main", .write "open" [1, 2]),
    ("main", .rename (.ofString file) (.ofString neighbour)),
    ("main", .stat (.ofString file)),
    ("main", .removeAll (.ofString work)),
    ("main", .read (.ofString neighbour))]

theorem Session.run_of_respelledRound :
    let start := Session.start "main" (Host.ofExecutable (.ofString "/opt/coder"))
    let calls := sampleRound "/tmp/work" "/tmp/work/a" "/tmp/workshop"
    let others := sampleRound "/tmp/.//work/." "//tmp/work/./a" "/tmp/workshop/"
    List.Forall₂ (fun made other => made.1 = other.1 ∧ made.2.Respells other.2) calls others ∧
      (start.run calls).1.map SessionReply.told = (start.run others).1.map SessionReply.told ∧
      (start.run calls).2.memory.nodes = (start.run others).2.memory.nodes ∧
      (start.run calls).2.memory.created = (start.run others).2.memory.created := by
  intro start calls others
  have work : (Path.ofString "/tmp/work").components =
      (Path.ofString "/tmp/.//work/.").components := by
    decide
  have file : (Path.ofString "/tmp/work/a").components =
      (Path.ofString "//tmp/work/./a").components := by
    decide
  have neighbour : (Path.ofString "/tmp/workshop").components =
      (Path.ofString "/tmp/workshop/").components := by
    decide
  have respelled : List.Forall₂ (fun made other => made.1 = other.1 ∧ made.2.Respells other.2)
      calls others := by
    refine .cons ⟨rfl, .createDirectory work⟩ <| .cons ⟨rfl, .create file _ _⟩ <|
      .cons ⟨rfl, .same _⟩ <| .cons ⟨rfl, .rename file neighbour⟩ <| .cons ⟨rfl, .stat file⟩ <|
      .cons ⟨rfl, .removeAll work⟩ <| .cons ⟨rfl, .read neighbour⟩ .nil
  obtain ⟨-, same⟩ := start.run_of_respelled respelled
  exact ⟨respelled, same⟩

end Respelled

end SelfUpdate
