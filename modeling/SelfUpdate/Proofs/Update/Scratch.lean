import SelfUpdate.Proofs.FileSystem.Removal
import SelfUpdate.Proofs.Update.Fallback

/-!
# Work in a scratch directory

A program that works in a directory of its own leaves nothing there when the directory is
removed in the end.  It may make directories, write files, move and remove them as long as it
stays in that directory, and it does not matter which of these requests fail.  What is outside of
the directory is the same after each of them, so by induction it is the same after all.

What remains is the tree that there was before, with those directories above the scratch
directory that had been missing.
-/

namespace SelfUpdate

open Program

/-- Whether a request is for a file operation at a path or below it. -/
def Request.staysIn (path : Path) : Request Writer → Bool
  | .createDirectory place => place.liesIn path
  | .create place _ => place.liesIn path
  | .write writer _ => writer.path.liesIn path
  | .flush writer => writer.path.liesIn path
  | .rename source target => source.liesIn path && target.liesIn path
  | .removeAll place => place.liesIn path
  | _ => false

/-- Make a directory, work, and remove the directory however the work ended. -/
def inScratch {Handle α : Type} (path : Path) (work : Program Handle α) : Program Handle α :=
  (request (.createDirectory path)).bind fun _ => cleaningUp path work

namespace Collaborators

variable (collaborators : Collaborators) (host : Host) {memory : Memory} {path : Path}

/-- A request that stays in a directory is answered, and outside of it nothing changes. -/
theorem handler_of_staysIn {request : Request Writer} (above : memory.HoldsAbove path)
    (stays : request.staysIn path = true) :
    ∃ answer after, collaborators.handler host request memory = (some answer, after) ∧
      after.tree.eraseBelow path = memory.tree.eraseBelow path := by
  cases request with
  | createDirectory place => exact ⟨_, _, rfl, Memory.eraseBelow_createDirectory above stays⟩
  | create place mode => exact ⟨_, _, rfl, Memory.eraseBelow_create stays⟩
  | write writer bytes => exact ⟨_, _, rfl, Memory.eraseBelow_write stays⟩
  | flush writer => exact ⟨_, _, rfl, rfl⟩
  | rename source target =>
      obtain ⟨sourceWithin, targetWithin⟩ : source.liesIn path ∧ target.liesIn path := by
        simpa [Request.staysIn] using stays
      exact ⟨_, _, rfl, Memory.eraseBelow_rename sourceWithin targetWithin⟩
  | removeAll place => exact ⟨_, _, rfl, memory.tree.eraseBelow_eraseBelow stays⟩
  | _ => simp [Request.staysIn] at stays

theorem run_of_staysIn {α : Type} {work : Program Writer α} (above : memory.HoldsAbove path)
    (stays : ∀ exchange ∈ work.exchanges (collaborators.handler host) memory,
      exchange.request.staysIn path = true) :
    ∃ value after, work.run (collaborators.handler host) memory = (some value, after) ∧
      after.tree.eraseBelow path = memory.tree.eraseBelow path := by
  -- What is above the path stays there, since it is outside of it.
  induction work generalizing memory with
  | done value => exact ⟨value, memory, rfl, rfl⟩
  | ask request next ih =>
      have first : request.staysIn path = true := by
        rcases answered : collaborators.handler host request memory with ⟨_ | answer, after⟩
        · exact stays ⟨request, none⟩ (by simp [exchanges, answered])
        · exact stays ⟨request, some answer⟩ (by simp [exchanges, answered])
      obtain ⟨answer, between, answered, same⟩ :=
        collaborators.handler_of_staysIn host above first
      obtain ⟨value, after, ended, sameLater⟩ := ih answer (above.congr same) fun exchange later =>
        stays exchange (by simp [exchanges, answered, later])
      exact ⟨value, after, by simp only [run, answered, ended], sameLater.trans same⟩

end Collaborators

section Scratch

variable {α : Type}

/-- Work in a directory that was not there leaves the tree as it was, with the missing
directories above it.  Removing a directory takes away what is at its place and below, nothing
beside it, in any order and any number of times. -/
theorem tree_of_inScratch (text : String) (work : Program Writer α)
    (collaborators : Collaborators) (host : Host) (memory : Memory)
    (vacant : ∀ other, other.liesIn (.ofString text) = true → memory.tree.find? other = none)
    (stays : ∀ exchange ∈ work.exchanges (collaborators.handler host)
      (memory.createDirectory (.ofString text)),
      exchange.request.staysIn (.ofString text) = true) :
    let path := Path.ofString text
    let ran := (inScratch path work).run (collaborators.handler host) memory
    ran.1.isSome ∧
      ran.2.tree = (memory.createAbove path).tree ∧
      (∀ other, ran.2.tree.find? other =
        if (other.components <+: path.components ∧ other.components ≠ [] ∧
          other.components ≠ path.components) ∧ memory.tree.find? other = none then
          some .directory
        else memory.tree.find? other) ∧
      (∀ (anyMemory : Memory) (place : Path),
        anyMemory.removeAll place = { anyMemory with
            tree := ⟨anyMemory.tree.entries.filter fun entry =>
              ¬place.components <+: entry.path.components⟩ } ∧
          (anyMemory.removeAll place).removeAll place = anyMemory.removeAll place ∧
          ∀ other, (anyMemory.removeAll place).removeAll other =
            (anyMemory.removeAll other).removeAll place) ∧
      ∀ (anyMemory : Memory) (letters ending : List Char) (neighbour : Path),
        Path.EndsInComponent letters → '/' ∉ ending → ending ≠ [] →
          neighbour.liesIn (.ofChars (letters ++ ending)) = true →
            (anyMemory.removeAll (.ofChars letters)).tree.find? neighbour =
              anyMemory.tree.find? neighbour := by
  intro path ran
  have rooted : path.RootInFront := Path.rootInFront_ofChars text.toList
  obtain ⟨value, after, ended, same⟩ :=
    collaborators.run_of_staysIn host (Memory.holdsAbove_createDirectory rooted) stays
  have ranEq : ran = (some value, after.removeAll path) := by
    change ((Program.request _).bind _).run _ _ = _
    rw [run_bind]
    exact Collaborators.run_cleaningUp ended
  have restored : ran.2.tree = (memory.createAbove path).tree := by
    rw [ranEq, ← Memory.removeAll_createDirectory vacant]
    exact same
  refine ⟨?_, restored, ?_, ?_, ?_⟩
  · rw [ranEq]
    rfl
  · intro other
    rw [restored, Memory.find?_createAbove rooted]
  · intro anyMemory place
    exact ⟨anyMemory.removeAll_eq_filter place, anyMemory.removeAll_removeAll place,
      anyMemory.removeAll_comm place⟩
  · intro anyMemory letters ending neighbour
    exact anyMemory.find?_removeAll_of_neighbour neighbour

/-- A file is written in a directory for it and moved out of there, which fails the first
time. -/
def sampleWork (path : Path) : Program Writer (Except Failure Unit) := do
  let inner := path.child "new".toList
  let staged := inner.child binaryName.toList
  let _ ← request (.rename staged (path.child binaryName.toList))
  let _ ← request (.createDirectory inner)
  match ← request (.create staged 0o755) with
  | .ok writer =>
      let _ ← request (.write writer [78, 69, 87])
      request (.rename staged (path.child binaryName.toList))
  | .error failure => return .error failure

def sampleScratch : String := "/var/work/now"

/-- A file lies next to the place for scratch directories, under a longer name. -/
def neighbourMemory : Memory :=
  sampleMemory.addFile (.ofString "/var/workshop") [1] 0o644

theorem staysIn_sampleWork :
    ∀ exchange ∈ (sampleWork (.ofString sampleScratch)).exchanges
      (sampleCollaborators.handler (Host.running "/opt/coder" true))
      (neighbourMemory.createDirectory (.ofString sampleScratch)),
      exchange.request.staysIn (.ofString sampleScratch) = true := by
  decide

theorem tree_of_sampleWork :
    (∀ other, other.liesIn (.ofString sampleScratch) = true →
        neighbourMemory.tree.find? other = none) ∧
      ((inScratch (.ofString sampleScratch) (sampleWork (.ofString sampleScratch))).run
          (sampleCollaborators.handler (Host.running "/opt/coder" true)) neighbourMemory).2.tree =
        neighbourMemory.tree.insert (.ofString "/var/work") .directory := by
  have vacant : ∀ other, other.liesIn (.ofString sampleScratch) = true →
      neighbourMemory.tree.find? other = none :=
    fun _ => neighbourMemory.tree.find?_eq_none_of_entries (by decide)
  obtain ⟨-, restored, -⟩ := tree_of_inScratch sampleScratch
    (sampleWork (.ofString sampleScratch)) sampleCollaborators
    (Host.running "/opt/coder" true) neighbourMemory vacant staysIn_sampleWork
  have above : (neighbourMemory.createAbove (.ofString sampleScratch)).tree =
      neighbourMemory.tree.insert (.ofString "/var/work") .directory := by
    decide
  exact ⟨vacant, restored.trans above⟩

end Scratch

end SelfUpdate
