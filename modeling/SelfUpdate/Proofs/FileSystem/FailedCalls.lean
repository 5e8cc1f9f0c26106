import SelfUpdate.Proofs.FileSystem.Session

/-!
# Calls that fail leave no trace

An operation on a file system in memory that fails gives back the memory that it was given, and
so a call that fails leaves a session as it is.  By induction on the calls, those that fail can
be left out of a sequence: the others are answered as before and lead to the same session, with
its nodes, their spelling, the count of created files, the hosts and the open files.
-/

namespace SelfUpdate

namespace Memory

/-- An operation that failed gave back the memory it was given. -/
def LeavesNoTrace {α : Type} (memory : Memory) (outcome : Except Failure α × Memory) : Prop :=
  ∀ failure, outcome.1 = .error failure → outcome.2 = memory

variable (memory : Memory)

theorem leavesNoTrace_create (path : Path) (mode : UInt32) :
    memory.LeavesNoTrace (memory.create path mode) := by
  unfold create
  split
  · exact fun _ _ => rfl
  · simp [LeavesNoTrace]

/-- A write fails if its writer was opened where writes are refused, and if the file is gone. -/
theorem leavesNoTrace_write (writer : Writer) (bytes : Bytes) :
    memory.LeavesNoTrace (memory.write writer bytes) := by
  unfold write
  split
  · exact fun _ _ => rfl
  · split
    · simp [LeavesNoTrace]
    · exact fun _ _ => rfl

/-- The node is taken from its place only when nothing can fail any more. -/
theorem leavesNoTrace_rename (host : Host) (source target : Path) :
    memory.LeavesNoTrace (memory.rename host source target) := by
  unfold rename
  split
  · exact fun _ _ => rfl
  · split
    · exact fun _ _ => rfl
    · split
      · exact fun _ _ => rfl
      · simp [LeavesNoTrace]

end Memory

/-- Whether a call returned an error. -/
def SessionReply.isFailure : SessionReply → Bool
  | .failed _ => true
  | _ => false

namespace Session

section Step

variable {session : Session} {hostName : String} {call : SessionCall}

/-- A call that fails changes nothing in a session. -/
theorem step_of_isFailure (failed : (session.step hostName call).1.isFailure = true) :
    (session.step hostName call).2 = session := by
  cases known : session.hosts.lookup hostName with
  | none => simp [step, known]
  | some host =>
      cases call with
      | stat path =>
          simp only [step, known]
          split <;> rfl
      | create path mode name =>
          cases made : (session.memory.create path mode).1 with
          | error failure =>
              rw [step_create_of_error known made,
                session.memory.leavesNoTrace_create path mode failure made]
          | ok writer => simp [step_create_of_ok known made, SessionReply.isFailure] at failed
      | write name bytes =>
          cases opened : session.writers.lookup name with
          | none => simp [step, known, opened]
          | some writer =>
              rw [step_write known opened] at failed ⊢
              cases made : (session.memory.write writer bytes).1 with
              | error failure =>
                  rw [session.memory.leavesNoTrace_write writer bytes failure made]
              | ok count => simp [made, replyToWrite, SessionReply.isFailure] at failed
      | rename source target =>
          simp only [step, known] at failed ⊢
          cases made : (session.memory.rename host source target).1 with
          | error failure =>
              rw [session.memory.leavesNoTrace_rename host source target failure made]
          | ok _ => simp [made, replyTo, SessionReply.isFailure] at failed
      | flush name =>
          simp only [step, known]
          split <;> rfl
      | _ => simp [step, known, SessionReply.isFailure] at failed

end Step

variable (session : Session)

/-- The calls of a sequence that do not fail when it is run. -/
def succeeding (calls : List (String × SessionCall)) : List (String × SessionCall) :=
  ((calls.zip (session.run calls).1).filter fun answered => !answered.2.isFailure).map Prod.fst

theorem succeeding_cons (hostName : String) (call : SessionCall)
    (calls : List (String × SessionCall)) :
    session.succeeding ((hostName, call) :: calls) =
      if (session.step hostName call).1.isFailure then
        (session.step hostName call).2.succeeding calls
      else (hostName, call) :: (session.step hostName call).2.succeeding calls := by
  cases failed : (session.step hostName call).1.isFailure <;>
    simp [succeeding, run, failed]

/-- Calls that fail can be left out of a sequence.  The others are answered as before, and lead
to the same session. -/
theorem run_succeeding (calls : List (String × SessionCall)) :
    session.run (session.succeeding calls) =
      ((session.run calls).1.filter fun reply => !reply.isFailure, (session.run calls).2) := by
  induction calls generalizing session with
  | nil => rfl
  | cons made calls ih =>
      obtain ⟨hostName, call⟩ := made
      rw [succeeding_cons]
      cases failed : (session.step hostName call).1.isFailure with
      | true =>
          rw [step_of_isFailure failed, if_pos rfl, ih]
          simp [run, failed, step_of_isFailure failed]
      | false =>
          simp [run, failed, ih]

end Session

end SelfUpdate
