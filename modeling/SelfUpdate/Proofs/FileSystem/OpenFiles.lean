import SelfUpdate.Proofs.FileSystem.Lookup
import SelfUpdate.Proofs.FileSystem.Session

/-!
# Files that are being written

A writer names its file by the path, and looks the file up again at each write.  So what is
written arrives as long as the path is left to the writer: no call puts something else there or
takes the file away, and no writer that was opened there before writes.  Then the file holds
what was written through the writer, one piece after the other, whatever happens at other
paths.

Writers are told apart by their numbers, because a name may be given to another writer later,
and two writers of one path are alike in all they hold.
-/

namespace SelfUpdate.Session

/-- The first writer of a name, with its number: how many stand behind it. -/
def numbered (name : String) : List (String × Writer) → Option (Nat × Writer)
  | [] => none
  | (other, writer) :: older =>
      if name == other then some (older.length, writer) else numbered name older

/-- The writer that a name stands for, with its number: how many were opened before it. -/
def writer? (session : Session) (name : String) : Option (Nat × Writer) :=
  numbered name session.writers

/-- Whether a call of `write` is one through the writer of a number: there is a host to make it,
and the name stands for that writer. -/
def reaches (session : Session) (number : Nat) (hostName name : String) : Bool :=
  (session.hosts.lookup hostName).isSome && (session.writer? name).any (·.1 == number)

/-- What a call writes through the writer of a number. -/
def bytesThrough (session : Session) (number : Nat) (hostName : String) : SessionCall → Bytes
  | .write name bytes => if session.reaches number hostName name then bytes else []
  | _ => []

/-- What a sequence of calls writes through the writer of a number, one piece after the other. -/
def writtenThrough (session : Session) (number : Nat) : List (String × SessionCall) → Bytes
  | [] => []
  | (hostName, call) :: calls =>
      session.bytesThrough number hostName call ++
        (session.step hostName call).2.writtenThrough number calls

/-- Whether a call leaves a path to the writer of a number: it puts nothing there, takes nothing
away from there, and does not write through a writer that was opened there before. -/
def spares (session : Session) (path : Path) (number : Nat) : SessionCall → Bool
  | .addFile other _ _ => !other.sameAs path
  | .create other _ _ => !other.sameAs path
  | .rename source target => !source.sameAs path && !target.sameAs path
  | .removeAll other => !path.liesIn other
  | .write name _ =>
      (session.writer? name).all fun opened =>
        decide (number ≤ opened.1) || !opened.2.path.sameAs path
  | _ => true

/-- Whether all calls of a sequence leave a path to the writer of a number. -/
def sparesAll (session : Session) (path : Path) (number : Nat) :
    List (String × SessionCall) → Bool
  | [] => true
  | (hostName, call) :: calls =>
      session.spares path number call &&
        (session.step hostName call).2.sparesAll path number calls

section Writers

variable {session : Session} {name : String}

theorem lookup_eq_map_numbered (writers : List (String × Writer)) :
    writers.lookup name = (numbered name writers).map Prod.snd := by
  induction writers with
  | nil => rfl
  | cons opened older ih =>
      obtain ⟨other, writer⟩ := opened
      rw [List.lookup_cons, numbered]
      cases name == other with
      | true => rfl
      | false => exact ih

theorem lt_length_of_numbered {writers : List (String × Writer)} {number : Nat} {writer : Writer}
    (stands : numbered name writers = some (number, writer)) : number < writers.length := by
  induction writers with
  | nil => simp [numbered] at stands
  | cons opened older ih =>
      rw [numbered] at stands
      split at stands
      · obtain rfl : older.length = number := congrArg Prod.fst (Option.some.inj stands)
        exact Nat.lt_succ_self _
      · exact Nat.lt_succ_of_lt (ih stands)

theorem lookup_writers : session.writers.lookup name = (session.writer? name).map Prod.snd :=
  lookup_eq_map_numbered session.writers

theorem lookup_of_stands {number : Nat} {writer : Writer}
    (stands : session.writer? name = some (number, writer)) :
    session.writers.lookup name = some writer := by
  rw [lookup_writers, stands, Option.map_some]

end Writers

/-- While a path is left to the writer of a number, the file there holds what was written, the
writer's writes are not refused, and all later writers are of other paths. -/
structure Keeps (session : Session) (path : Path) (mode : UInt32) (number : Nat)
    (content : Bytes) : Prop where
  file : session.memory.tree.find? path = some (.file content mode)
  opened : number < session.writers.length
  writer : ∀ name writer, session.writer? name = some (number, writer) → writer = ⟨path, false⟩
  later : ∀ name other writer, session.writer? name = some (other, writer) → number < other →
    path.components ≠ writer.path.components

namespace Keeps

variable {session : Session} {path : Path} {mode : UInt32} {number : Nat} {content : Bytes}
  {hostName : String} {host : Host} (keeps : session.Keeps path mode number content)

include keeps

theorem withMemory {after : Memory} {further : Bytes}
    (found : after.tree.find? path = some (.file further mode)) :
    ({ session with memory := after } : Session).Keeps path mode number further :=
  ⟨found, keeps.opened, keeps.writer, keeps.later⟩

theorem withHost (name : String) (other : Host) :
    (session.setHost name other).Keeps path mode number content :=
  ⟨keeps.file, keeps.opened, keeps.writer, keeps.later⟩

/-- A writer of another path may be opened, also under the name of the one that is kept. -/
theorem withWriter (name : String) {opened : Writer}
    (apart : path.components ≠ opened.path.components) :
    ({ session with writers := (name, opened) :: session.writers } : Session).Keeps
      path mode number content where
  file := keeps.file
  opened := Nat.lt_succ_of_lt keeps.opened
  writer other writer stands := by
    rw [writer?, numbered] at stands
    split at stands
    · have newest : session.writers.length = number := congrArg Prod.fst (Option.some.inj stands)
      exact absurd keeps.opened (by omega)
    · exact keeps.writer other writer stands
  later other place writer stands after := by
    rw [writer?, numbered] at stands
    split at stands
    · obtain rfl : opened = writer := congrArg Prod.snd (Option.some.inj stands)
      exact apart
    · exact keeps.later other place writer stands after

theorem step_create {name : String} {other : Path} {otherMode : UInt32}
    (known : session.hosts.lookup hostName = some host)
    (apart : path.components ≠ other.components) :
    (session.step hostName (.create other otherMode name)).2.Keeps path mode number content := by
  have found : (session.memory.create other otherMode).2.tree.find? path =
      some (.file content mode) :=
    (Memory.find?_create_of_ne apart).trans keeps.file
  cases made : (session.memory.create other otherMode).1 with
  | error failure =>
      rw [step_create_of_error known made]
      exact keeps.withMemory found
  | ok writer =>
      obtain ⟨rfl, -⟩ := Memory.opened_of_create made
      rw [step_create_of_ok known made]
      exact (keeps.withMemory found).withWriter name apart

/-- What is written through the writer is appended, and other writers write elsewhere. -/
theorem step_write {name : String} {bytes : Bytes}
    (known : session.hosts.lookup hostName = some host)
    (spared : session.spares path number (.write name bytes) = true) :
    (session.step hostName (.write name bytes)).2.Keeps path mode number
      (content ++ session.bytesThrough number hostName (.write name bytes)) := by
  cases stands : session.writer? name with
  | none =>
      have unopened : session.writers.lookup name = none := by simp [lookup_writers, stands]
      simpa [step, known, unopened, bytesThrough, reaches, stands] using keeps
  | some opened =>
      obtain ⟨place, writer⟩ := opened
      rw [Session.step_write known (lookup_of_stands stands)]
      by_cases own : place = number
      · subst own
        obtain rfl := keeps.writer name writer stands
        have reached : session.reaches place hostName name = true := by
          simp [reaches, known, stands]
        rw [bytesThrough, if_pos reached, Memory.write_of_found keeps.file]
        exact keeps.withMemory (by simp [Tree.find?_insert])
      · have unreached : session.reaches number hostName name = false := by
          simp [reaches, stands, own]
        have apart : path.components ≠ writer.path.components := by
          by_cases before : place < number
          · intro same
            have after : number ≤ place := by
              simpa [spares, stands, Path.sameAs, same] using spared
            omega
          · exact keeps.later name place writer stands (by omega)
        rw [bytesThrough, unreached, if_neg (by decide), List.append_nil]
        exact keeps.withMemory ((Memory.find?_write_of_ne apart).trans keeps.file)

/-- One call of which the path is spared. -/
theorem step {call : SessionCall} (spared : session.spares path number call = true) :
    (session.step hostName call).2.Keeps path mode number
      (content ++ session.bytesThrough number hostName call) := by
  cases known : session.hosts.lookup hostName with
  | none =>
      have nothing : session.bytesThrough number hostName call = [] := by
        cases call <;> simp [bytesThrough, reaches, known]
      simpa [Session.step, known, nothing] using keeps
  | some host =>
      cases call
      case write name bytes => exact keeps.step_write known spared
      -- No other call writes anything.
      all_goals simp only [bytesThrough, List.append_nil]
      case create other otherMode name =>
        exact keeps.step_create known (Path.components_ne_of_not_sameAs spared)
      all_goals simp only [Session.step, known]
      case addFile other added addedMode =>
        have apart := Path.components_ne_of_not_sameAs spared
        exact keeps.withMemory (Memory.find?_addFile_of_ne apart keeps.file)
      case createDirectory other =>
        exact keeps.withMemory (Memory.find?_createDirectory_of_some keeps.file)
      case rename source target =>
        obtain ⟨notSource, notTarget⟩ := Bool.and_eq_true_iff.mp spared
        have fromElsewhere := Path.components_ne_of_not_sameAs notSource
        have toElsewhere := Path.components_ne_of_not_sameAs notTarget
        exact keeps.withMemory
          ((Memory.find?_rename_of_ne fromElsewhere toElsewhere).trans keeps.file)
      case removeAll other =>
        have outside : ¬path.liesIn other = true := by
          simpa only [spares, Bool.not_eq_true', Bool.not_eq_true] using spared
        exact keeps.withMemory ((Memory.find?_removeAll_of_outside outside).trans keeps.file)
      case failWrites | failRenames => exact keeps.withMemory keeps.file
      case separateTemporary | duplicate => exact keeps.withHost _ _
      case stat | flush => split <;> exact keeps
      all_goals exact keeps

theorem run {calls : List (String × SessionCall)}
    (spared : session.sparesAll path number calls = true) :
    (session.run calls).2.Keeps path mode number
      (content ++ session.writtenThrough number calls) := by
  induction calls generalizing session content with
  | nil => simpa [Session.run, writtenThrough] using keeps
  | cons made calls ih =>
      obtain ⟨hostName, call⟩ := made
      obtain ⟨first, others⟩ := Bool.and_eq_true_iff.mp spared
      rw [writtenThrough, ← List.append_assoc]
      exact ih (keeps.step first) others

/-- A write through the writer succeeds. -/
theorem written {name : String} (bytes : Bytes)
    (reached : session.reaches number hostName name = true) :
    (session.step hostName (.write name bytes)).1 = .written bytes.length := by
  obtain ⟨made, named⟩ := Bool.and_eq_true_iff.mp reached
  obtain ⟨host, known⟩ := Option.isSome_iff_exists.mp made
  obtain ⟨⟨place, writer⟩, stands, same⟩ := (Option.any_eq_true _ _).mp named
  obtain rfl : place = number := by simpa using same
  obtain rfl := keeps.writer name writer stands
  rw [Session.step_write known (lookup_of_stands stands), Memory.write_of_found keeps.file]
  rfl

end Keeps

section Opening

variable {session : Session} {hostName name : String} {path : Path} {mode : UInt32}

theorem sparesAll_of_append {number : Nat} {earlier later : List (String × SessionCall)}
    (spared : session.sparesAll path number (earlier ++ later) = true) :
    session.sparesAll path number earlier = true := by
  induction earlier generalizing session with
  | nil => rfl
  | cons made earlier ih =>
      obtain ⟨first, others⟩ := Bool.and_eq_true_iff.mp spared
      exact Bool.and_eq_true_iff.mpr ⟨first, ih others⟩

/-- A file that was just opened, where writes are not refused, is empty and its writer is the
last one. -/
theorem keeps_of_opened (made : (session.step hostName (.create path mode name)).1 = .done)
    (permitted : session.memory.failingWrites.any path.liesIn = false) :
    (session.step hostName (.create path mode name)).2.Keeps path mode
        session.writers.length [] ∧
      (session.step hostName (.create path mode name)).2.writer? name =
        some (session.writers.length, ⟨path, false⟩) := by
  cases known : session.hosts.lookup hostName with
  | none => simp [step, known] at made
  | some host =>
      cases created : (session.memory.create path mode).1 with
      | error failure => simp [step_create_of_error known created] at made
      | ok writer =>
          obtain ⟨rfl, found⟩ := Memory.opened_of_create created
          rw [step_create_of_ok known created, permitted]
          refine ⟨⟨found, Nat.lt_succ_self _, ?_, ?_⟩, ?_⟩
          · intro other writer stands
            rw [writer?, numbered] at stands
            split at stands
            · exact (congrArg Prod.snd (Option.some.inj stands)).symm
            · exact absurd (lt_length_of_numbered stands) (lt_irrefl _)
          · intro other place writer stands after
            have least : place < session.writers.length + 1 := lt_length_of_numbered stands
            omega
          · simp [writer?, numbered]

/-- No write is lost, and none goes to another place.  From a file that was opened where writes
are not refused and is left to its writer, each write through the writer succeeds, and at each
moment the file holds what was written until then, one piece after the other, and has the mode
it was opened with. -/
theorem written_of_spared (made : (session.step hostName (.create path mode name)).1 = .done)
    (permitted : session.memory.failingWrites.any path.liesIn = false)
    {calls : List (String × SessionCall)}
    (spared : (session.step hostName (.create path mode name)).2.sparesAll path
      session.writers.length calls = true) :
    let start := (session.step hostName (.create path mode name)).2
    let number := session.writers.length
    start.writer? name = some (number, ⟨path, false⟩) ∧
      ∀ earlier, earlier <+: calls →
        let now := (start.run earlier).2
        now.memory.tree.find? path = some (.file (start.writtenThrough number earlier) mode) ∧
          ∀ hostName name bytes, now.reaches number hostName name = true →
            (now.step hostName (.write name bytes)).1 = .written bytes.length := by
  obtain ⟨keeps, stands⟩ := keeps_of_opened made permitted
  refine ⟨stands, ?_⟩
  rintro earlier ⟨later, rfl⟩
  have kept := keeps.run (sparesAll_of_append spared)
  exact ⟨kept.file, fun hostName name bytes reached => kept.written bytes reached⟩

end Opening

section SampleWriting

/-- A session of two hosts in which a file was opened before. -/
def sampleSession : Session :=
  ((Session.start "main" (Host.ofExecutable (Path.ofString "/opt/coder"))).run
    [("main", .addFile (Path.ofString "/opt/coder") [0] 0o755),
      ("main", .duplicate "copy"),
      ("main", .create (Path.ofString "/tmp/coder") 0o600 "first")]).2

/-- Pieces are written through both hosts, among calls at neighbouring paths, after writes were
told to fail, and until the name is given to another writer. -/
def sampleCalls : List (String × SessionCall) :=
  [("copy", .write "staged" [1, 2]),
    ("copy", .failWrites (Path.ofString "/")),
    ("main", .create (Path.ofString "/tmp/coder.new") 0o600 "other"),
    ("main", .write "other" [9]),
    ("copy", .removeAll (Path.ofString "/tmp/code")),
    ("main", .createDirectory (Path.ofString "/tmp/coder/below")),
    ("copy", .rename (Path.ofString "/opt/coder") (Path.ofString "/tmp/coder.old")),
    ("main", .write "staged" [3]),
    ("main", .create (Path.ofString "/tmp/coder.new") 0o600 "staged"),
    ("main", .write "staged" [8])]

theorem written_of_sampleCalls :
    let opened := sampleSession.step "main" (.create (Path.ofString "/tmp/coder") 0o755 "staged")
    opened.1 = .done ∧
      sampleSession.memory.failingWrites.any (Path.ofString "/tmp/coder").liesIn = false ∧
      opened.2.sparesAll (Path.ofString "/tmp/coder") 1 sampleCalls = true ∧
      (opened.2.run sampleCalls).2.memory.tree.find? (Path.ofString "/tmp/coder") =
        some (.file [1, 2, 3] 0o755) := by
  have made : (sampleSession.step "main"
      (.create (Path.ofString "/tmp/coder") 0o755 "staged")).1 = .done := by
    decide +kernel
  have spared : (sampleSession.step "main"
      (.create (Path.ofString "/tmp/coder") 0o755 "staged")).2.sparesAll
        (Path.ofString "/tmp/coder") 1 sampleCalls = true := by
    decide +kernel
  have pieces : (sampleSession.step "main"
      (.create (Path.ofString "/tmp/coder") 0o755 "staged")).2.writtenThrough 1 sampleCalls =
        [1, 2, 3] := by
    decide +kernel
  have permitted :
      sampleSession.memory.failingWrites.any (Path.ofString "/tmp/coder").liesIn = false := by
    decide +kernel
  obtain ⟨-, holds⟩ := written_of_spared made permitted spared
  refine ⟨made, permitted, spared, ?_⟩
  rw [(holds sampleCalls List.prefix_rfl).1]
  exact congrArg (fun content => some (Node.file content 0o755)) pieces

end SampleWriting

end SelfUpdate.Session
