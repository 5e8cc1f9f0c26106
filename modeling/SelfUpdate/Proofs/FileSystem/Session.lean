import SelfUpdate.FileSystem.Session

/-!
# What a call does to a session

A call that can fail changes a session as the operation on its memory says, and answers with
the result of that operation.  A file that is opened becomes the last of the open files.
-/

namespace SelfUpdate.Session

variable {session : Session} {hostName name : String} {host : Host} {writer : Writer}

section Opening

variable {path : Path} {mode : UInt32} (known : session.hosts.lookup hostName = some host)

include known

theorem step_create_of_ok (made : (session.memory.create path mode).1 = .ok writer) :
    session.step hostName (.create path mode name) =
      (.done, { session with
        memory := (session.memory.create path mode).2
        writers := (name, writer) :: session.writers }) := by
  simp only [step, known]
  rcases created : session.memory.create path mode with ⟨failure | opened, after⟩
  · simp [created] at made
  · obtain rfl : opened = writer := by simpa [created] using made
    rfl

theorem step_create_of_error {failure : Failure}
    (made : (session.memory.create path mode).1 = .error failure) :
    session.step hostName (.create path mode name) =
      (.failed failure, { session with memory := (session.memory.create path mode).2 }) := by
  simp only [step, known]
  rcases created : session.memory.create path mode with ⟨reason | opened, after⟩
  · obtain rfl : reason = failure := by simpa [created] using made
    rfl
  · simp [created] at made

end Opening

def replyToWrite : Except Failure Nat → SessionReply
  | .ok count => .written count
  | .error failure => .failed failure

/-- A write goes to the file of the writer that the name stands for. -/
theorem step_write {bytes : Bytes} (known : session.hosts.lookup hostName = some host)
    (opened : session.writers.lookup name = some writer) :
    session.step hostName (.write name bytes) =
      (replyToWrite (session.memory.write writer bytes).1,
        { session with memory := (session.memory.write writer bytes).2 }) := by
  simp only [step, known, opened]
  rcases session.memory.write writer bytes with ⟨_ | _, after⟩ <;> rfl

end SelfUpdate.Session
