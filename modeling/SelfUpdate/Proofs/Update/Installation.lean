import SelfUpdate.Proofs.FileSystem.Lookup
import SelfUpdate.Proofs.Update.Progress
import SelfUpdate.Update.Collaborators
import SelfUpdate.Update.Pipeline

/-!
# Installing a binary in memory

The new binary is written to a scratch directory that did not exist before, and from
there it is renamed over the executable.  If that would cross volumes, it is written
once more next to the executable.  Whatever was made on the way is removed again, with
all that lies below.

Followed step by step, the executable is replaced in one step or not at all.  In the
end the scratch directory is gone.  So is whatever lay next to the executable at the
place where the binary is staged there, whoever put it there.
-/

namespace SelfUpdate

open Program

/-- In one step a path keeps what is there, or passes from one node to another. -/
def Memory.Switches (path : Path) (old new : Option Node) (before after : Memory) : Prop :=
  after.tree.find? path = before.tree.find? path ∨
    before.tree.find? path = old ∧ after.tree.find? path = new

namespace Collaborators

def scratch (collaborators : Collaborators) (host : Host) : Path :=
  scratchPath host.temporary collaborators.name

/-- The place in the scratch directory where a run writes the new binary. -/
def staged (collaborators : Collaborators) (host : Host) : Path :=
  (collaborators.scratch host).child binaryName.toList

/-- The binary is written, but then cannot be renamed out of its volume. -/
def FallsBack (collaborators : Collaborators) (host : Host) (memory : Memory)
    (executable : Path) (binary : Bytes) : Prop :=
  Memory.crossesVolumes host (collaborators.staged host) executable = true ∧
    (binary = [] ∨ memory.failingWrites.any (collaborators.staged host).liesIn = false)

instance (collaborators : Collaborators) (host : Host) (memory : Memory) (executable : Path)
    (binary : Bytes) : Decidable (collaborators.FallsBack host memory executable binary) :=
  inferInstanceAs (Decidable (_ ∧ _))

variable {collaborators : Collaborators} {host : Host} {memory : Memory}

/-- A file in memory takes all bytes at once, or none. -/
theorem proceeds_writeAll {writer : Writer} {mode : UInt32} (bytes : Bytes)
    (opened : memory.tree.find? writer.path = some (.file [] mode)) :
    (writeAll writer bytes).Proceeds (collaborators.handler host)
      (Memory.OnlyAt writer.path)
      (fun result after => Memory.OnlyAt writer.path memory after ∧
        (result = .ok () ↔ bytes = [] ∨ writer.fails = false) ∧
        (result = .ok () → after.tree.find? writer.path = some (.file bytes mode)))
      memory := by
  by_cases empty : bytes = []
  · subst empty
    unfold writeAll
    exact ⟨.refl writer.path memory, by simp, fun _ => opened⟩
  obtain ⟨count, length⟩ : ∃ count, bytes.length = count + 1 :=
    Nat.exists_eq_add_one.mpr (List.length_pos_iff.mpr empty)
  have nothingLeft : bytes.drop (count + 1) = [] := by
    rw [← length, List.drop_length]
  unfold writeAll
  rw [if_neg empty]
  cases fails : writer.fails
  · have grown := memory.onlyAt_insert writer.path (.file bytes mode) memory.created
    have answered : collaborators.handler host (.write writer bytes) memory =
        (some (.ok (count + 1)),
          { memory with tree := memory.tree.insert writer.path (.file bytes mode) }) := by
      simp [handler, Collaborators.answered, Memory.write, fails, opened, length]
    apply Proceeds.ask answered grown
    dsimp only
    rw [nothingLeft, writeAll, if_pos rfl]
    refine ⟨grown, by simp, fun _ => ?_⟩
    rw [Memory.tree, Tree.find?_insert, if_pos rfl]
  · have answered : collaborators.handler host (.write writer bytes) memory =
        (some (.error .volumeFull), memory) := by
      simp [handler, Collaborators.answered, Memory.write, fails]
    apply Proceeds.ask answered (.refl writer.path memory)
    exact ⟨.refl writer.path memory, by simp [empty], by simp⟩

/-- Staging changes nothing but the staged file.  If it succeeds, the file is complete; it
succeeds unless the file cannot be created or its writes are refused. -/
theorem proceeds_writeStaged (path : Path) (binary : Bytes) (mode : UInt32) :
    (writeStaged path binary mode).Proceeds (collaborators.handler host) (Memory.OnlyAt path)
      (fun result after => Memory.OnlyAt path memory after ∧
        (result = .ok () → after.tree.find? path = some (.file binary mode)) ∧
        (memory.parentFault path = none →
          (result = .ok () ↔ binary = [] ∨ memory.failingWrites.any path.liesIn = false)))
      memory := by
  apply Proceeds.orElse
  cases fault : memory.parentFault path with
  | some failure =>
      have answered : collaborators.handler host (.create path mode) memory =
          (some (.error failure), memory) := by
        simp [handler, Collaborators.answered, Memory.create, fault]
      apply Proceeds.ask answered (.refl path memory)
      exact ⟨.refl path memory, by simp, by simp⟩
  | none =>
      let opened : Memory :=
        { memory with
          tree := memory.tree.insert path (.file [] mode)
          created := memory.created + 1 }
      let writer : Writer := ⟨path, memory.failingWrites.any path.liesIn⟩
      have created : Memory.OnlyAt path memory opened :=
        memory.onlyAt_insert path (.file [] mode) (memory.created + 1)
      have answered : collaborators.handler host (.create path mode) memory =
          (some (.ok writer), opened) := by
        simp [handler, Collaborators.answered, Memory.create, fault, opened, writer]
      have empty : opened.tree.find? writer.path = some (.file [] mode) := by
        simp only [opened, writer, Tree.find?_insert, if_true]
      apply Proceeds.ask answered created
      apply (proceeds_writeAll binary empty).andThen
      · rintro failure after ⟨written, succeeds, -⟩
        refine ⟨created.trans written, by simp, fun _ => ?_⟩
        simpa using succeeds
      · rintro ⟨⟩ after ⟨written, succeeds, complete⟩
        apply Proceeds.request rfl (.refl path after)
        refine ⟨created.trans written, fun _ => complete rfl, fun _ => ?_⟩
        simpa using succeeds

theorem proceeds_cleaningUp {α : Type} {program : Program Writer α} {path : Path}
    {step : Memory → Memory → Prop} {middle post : α → Memory → Prop}
    (inner : program.Proceeds (collaborators.handler host) step middle memory)
    (removes : ∀ after : Memory, step after (after.removeAll path))
    (ends : ∀ value after, middle value after → post value (after.removeAll path)) :
    (cleaningUp path program).Proceeds (collaborators.handler host) step post memory := by
  apply inner.bind
  intro value after ended
  exact Proceeds.ask rfl (removes after) (ends value after ended)

section Replacing

variable {slot : ExecutableSlot} {binary : Bytes} {old : Option Node}
  (outside : ¬slot.path.liesIn (siblingPath slot.path))
  (staysOnVolume : Memory.crossesVolumes host (siblingPath slot.path) slot.path = false)

/-- After success the executable is the new file, and after a failure it is what it was. -/
def Replaced (slot : ExecutableSlot) (binary : Bytes) (old : Option Node)
    (result : Except InstallError Unit) (after : Memory) : Prop :=
  after.tree.find? slot.path =
    match result with
    | .ok () => some (.file binary slot.mode)
    | .error _ => old

theorem switches_of_onlyAt {path : Path} {new : Option Node} {before after : Memory}
    (apart : slot.path.components ≠ path.components) (only : Memory.OnlyAt path before after) :
    Memory.Switches slot.path old new before after :=
  Or.inl (only.elsewhere slot.path apart)

theorem handler_rename {source target : Path} {result : Except Failure Unit} {after : Memory}
    (renamed : memory.rename host source target = (result, after)) :
    collaborators.handler host (.rename source target) memory = (some result, after) := by
  simp [handler, answered, renamed]

include outside staysOnVolume

theorem proceeds_replaceFromSibling (before : memory.tree.find? slot.path = old) :
    (replaceFromSibling slot binary).Proceeds (collaborators.handler host)
      (Memory.Switches slot.path old (some (.file binary slot.mode)))
      (fun result after => Replaced slot binary old result after ∧
        ∀ other, other.components ≠ slot.path.components → after.tree.find? other =
          if other.liesIn (siblingPath slot.path) then none else memory.tree.find? other)
      memory := by
  have apart : slot.path.components ≠ (siblingPath slot.path).components :=
    fun same => outside (Path.liesIn_of_components_eq same)
  -- Before the sibling is removed, nothing else can have changed.
  have inner : ((writeStaged (siblingPath slot.path) binary slot.mode).andThen fun _ =>
      (request (.rename (siblingPath slot.path) slot.path)).orElse
        (.rename (siblingPath slot.path) slot.path)).Proceeds (collaborators.handler host)
      (Memory.Switches slot.path old (some (.file binary slot.mode)))
      (fun result after => Replaced slot binary old result after ∧
        ∀ other, other.components ≠ slot.path.components →
          other.components ≠ (siblingPath slot.path).components →
          after.tree.find? other = memory.tree.find? other)
      memory := by
    apply ((proceeds_writeStaged (siblingPath slot.path) binary slot.mode).mono
      (fun _ _ => switches_of_onlyAt apart) fun _ _ ended => ended).andThen
    · rintro error after ⟨written, -, -⟩
      exact ⟨(written.elsewhere _ apart).trans before, fun other _ => written.elsewhere other⟩
    · rintro ⟨⟩ after ⟨written, complete, -⟩
      have unchanged : after.tree.find? slot.path = old :=
        (written.elsewhere _ apart).trans before
      apply Proceeds.orElse
      rcases Memory.rename_cases staysOnVolume (complete rfl) with
        refused | ⟨last, moved, found, same⟩
      · apply Proceeds.request (handler_rename refused) (Or.inl rfl)
        exact ⟨unchanged, fun other _ => written.elsewhere other⟩
      · apply Proceeds.request (handler_rename moved) (Or.inr ⟨unchanged, found⟩)
        exact ⟨found, fun other notSlot notSibling =>
          (same other notSlot notSibling).trans (written.elsewhere other notSibling)⟩
  apply proceeds_cleaningUp inner
  · intro after
    exact Or.inl (Memory.find?_removeAll_of_outside outside)
  · rintro result after ⟨replaced, same⟩
    refine ⟨(Memory.find?_removeAll_of_outside outside).trans replaced, fun other notSlot => ?_⟩
    rw [Memory.find?_removeAll]
    split
    · rfl
    · next elsewhere =>
        exact same other notSlot fun sibling => elsewhere (Path.liesIn_of_components_eq sibling)

/-- Renaming the staged binary over the executable, or starting over next to it. -/
theorem proceeds_replace {scratch staged : Path}
    (complete : memory.tree.find? staged = some (.file binary slot.mode))
    (before : memory.tree.find? slot.path = old) :
    (replace scratch staged slot binary).Proceeds (collaborators.handler host)
      (Memory.Switches slot.path old (some (.file binary slot.mode)))
      (fun result after => Replaced slot binary old result after ∧
        ∀ other, other.components ≠ slot.path.components →
          other.components ≠ staged.components → after.tree.find? other =
            if Memory.crossesVolumes host staged slot.path = true ∧
                other.liesIn (siblingPath slot.path) then none
            else memory.tree.find? other)
      memory := by
  cases crosses : Memory.crossesVolumes host staged slot.path
  · rcases Memory.rename_cases crosses complete with refused | ⟨after, moved, found, same⟩
    · apply Proceeds.ask (handler_rename refused) (Or.inl rfl)
      exact ⟨before, fun other _ _ => by simp⟩
    · apply Proceeds.ask (handler_rename moved) (Or.inr ⟨before, found⟩)
      exact ⟨found, fun other notSlot notStaged => by simp [same other notSlot notStaged]⟩
  · have refused : memory.rename host staged slot.path = (.error .acrossVolumes, memory) := by
      simp [Memory.rename, crosses]
    apply Proceeds.ask (handler_rename refused) (Or.inl rfl)
    -- The failure is of the kind that is met by starting over, with a notice.
    have noted : collaborators.handler host
        (.notify (.stagingNextToExecutable scratch slot.path)) memory = (some (), memory) := rfl
    rw [done_bind]
    apply Proceeds.ask noted (Or.inl rfl)
    apply (proceeds_replaceFromSibling outside staysOnVolume before).mono fun _ _ isStep => isStep
    rintro result after ⟨replaced, elsewhere⟩
    refine ⟨replaced, fun other notSlot _ => ?_⟩
    simpa using elsewhere other notSlot

/-- Writing the binary in the scratch directory, and replacing the executable by it. -/
theorem proceeds_stageAndReplace (before : memory.tree.find? slot.path = old)
    (apart : slot.path.components ≠ (collaborators.staged host).components)
    (creatable : memory.parentFault (collaborators.staged host) = none) :
    ((writeStaged (collaborators.staged host) binary slot.mode).andThen fun _ =>
      replace (collaborators.scratch host) (collaborators.staged host) slot binary).Proceeds
      (collaborators.handler host)
      (Memory.Switches slot.path old (some (.file binary slot.mode)))
      (fun result after => Replaced slot binary old result after ∧
        ∀ other, other.components ≠ slot.path.components →
          other.components ≠ (collaborators.staged host).components → after.tree.find? other =
            if collaborators.FallsBack host memory slot.path binary ∧
                other.liesIn (siblingPath slot.path) then none
            else memory.tree.find? other)
      memory := by
  apply ((proceeds_writeStaged (collaborators.staged host) binary slot.mode).mono
    (fun _ _ => switches_of_onlyAt apart) fun _ _ ended => ended).andThen
  · rintro error after ⟨written, -, succeeds⟩
    have notWritten : ¬collaborators.FallsBack host memory slot.path binary := by
      intro fallsBack
      simpa using (succeeds creatable).mpr fallsBack.2
    refine ⟨(written.elsewhere _ apart).trans before, fun other _ notStaged => ?_⟩
    rw [if_neg fun both => notWritten both.1]
    exact written.elsewhere other notStaged
  · rintro ⟨⟩ after ⟨written, complete, succeeds⟩
    have unchanged : after.tree.find? slot.path = old :=
      (written.elsewhere _ apart).trans before
    have crossesIff : Memory.crossesVolumes host (collaborators.staged host) slot.path = true ↔
        collaborators.FallsBack host memory slot.path binary :=
      (and_iff_left ((succeeds creatable).mp rfl)).symm
    apply (proceeds_replace outside staysOnVolume (complete rfl) unchanged).mono
      fun _ _ isStep => isStep
    rintro result last ⟨replaced, elsewhere⟩
    refine ⟨replaced, fun other notSlot notStaged => ?_⟩
    simp only [elsewhere other notSlot notStaged, crossesIff, written.elsewhere other notStaged]

end Replacing

/-- No node lies at or below the scratch directory. -/
def Unused (collaborators : Collaborators) (host : Host) (memory : Memory) : Prop :=
  ∀ path, path.liesIn (collaborators.scratch host) = true → memory.tree.find? path = none

theorem unused_of_entries
    (vacant : ∀ entry ∈ memory.tree.entries,
      entry.path.liesIn (collaborators.scratch host) = false) :
    collaborators.Unused host memory :=
  fun _ => memory.tree.find?_eq_none_of_entries vacant

/-- Where nothing lies in the scratch directory, making and removing it is making the
directory for temporary files. -/
theorem find?_createDirectory_scratch (unused : collaborators.Unused host memory)
    (other : Path) :
    (memory.createDirectory host.temporary).tree.find? other =
      if other.liesIn (collaborators.scratch host) then none
      else (memory.createDirectory (collaborators.scratch host)).tree.find? other := by
  classical
  simp only [Memory.find?_createDirectory]
  by_cases within : other.liesIn (collaborators.scratch host) = true
  · have notAbove : ¬Memory.MadeAlong host.temporary other := by
      intro made
      have lengthLe := ((Path.liesIn_iff _ _).mp within).length_le.trans made.isPrefix.length_le
      simp only [scratch, scratchPath, Path.components_child, List.length_append,
        List.length_singleton] at lengthLe
      omega
    rw [if_pos within, if_neg fun both => notAbove both.1]
    exact unused other within
  · have notScratch : other.components ≠ (collaborators.scratch host).components :=
      fun same => within (Path.liesIn_of_components_eq same)
    have sameMade : Memory.MadeAlong (collaborators.scratch host) other ↔
        Memory.MadeAlong host.temporary other :=
      Memory.madeAlong_child.trans (or_iff_right notScratch)
    rw [if_neg within]
    simp only [sameMade]

theorem find?_scratch (unused : collaborators.Unused host memory) :
    (memory.createDirectory (collaborators.scratch host)).tree.find?
      (collaborators.scratch host) = some .directory := by
  classical
  have vacant := unused (collaborators.scratch host) (by simp)
  rw [Memory.find?_createDirectory, if_pos ⟨Memory.madeAlong_child.mpr (Or.inl rfl), vacant⟩]

theorem liesIn_scratch_of_staged {path : Path}
    (same : path.components = (collaborators.staged host).components) :
    path.liesIn (collaborators.scratch host) = true := by
  rw [Path.liesIn_iff, same, staged, Path.components_child]
  exact List.prefix_append _ _

/-- What an installation leaves. -/
structure Installed (collaborators : Collaborators) (host : Host) (before : Memory)
    (slot : ExecutableSlot) (binary : Bytes) (result : Except InstallError Unit)
    (after : Memory) : Prop where
  replaced : Replaced slot binary (before.tree.find? slot.path) result after
  elsewhere : ∀ other, other.components ≠ slot.path.components → after.tree.find? other =
    if collaborators.FallsBack host before slot.path binary ∧
        other.liesIn (siblingPath slot.path) then none
    else (before.createDirectory host.temporary).tree.find? other

theorem proceeds_install {slot : ExecutableSlot} {binary : Bytes}
    (outside : ¬slot.path.liesIn (siblingPath slot.path))
    (staysOnVolume : Memory.crossesVolumes host (siblingPath slot.path) slot.path = false)
    (unused : collaborators.Unused host memory)
    (present : memory.tree.find? slot.path ≠ none) :
    (install slot binary).Proceeds (collaborators.handler host)
      (Memory.Switches slot.path (memory.tree.find? slot.path) (some (.file binary slot.mode)))
      (collaborators.Installed host memory slot binary) memory := by
  have notInScratch : ¬slot.path.liesIn (collaborators.scratch host) :=
    fun within => present (unused _ within)
  have apart : slot.path.components ≠ (collaborators.staged host).components :=
    fun same => notInScratch (liesIn_scratch_of_staged same)
  have kept : (memory.createDirectory (collaborators.scratch host)).tree.find? slot.path =
      memory.tree.find? slot.path := by
    obtain ⟨node, found⟩ := Option.ne_none_iff_exists'.mp present
    rw [found]
    exact Memory.find?_createDirectory_of_some found
  have creatable : (memory.createDirectory (collaborators.scratch host)).parentFault
      (collaborators.staged host) = none :=
    Memory.parentFault_child (find?_scratch unused)
  have located : collaborators.handler host .temporaryDirectory memory =
      (some host.temporary, memory) := rfl
  have named : collaborators.handler host .freshName memory =
      (some collaborators.name, memory) := rfl
  have made : collaborators.handler host (.createDirectory (collaborators.scratch host)) memory =
      (some (.ok ()), memory.createDirectory (collaborators.scratch host)) := rfl
  apply Proceeds.ask located (Or.inl rfl)
  apply Proceeds.ask named (Or.inl rfl)
  apply Proceeds.ask made (Or.inl kept)
  apply proceeds_cleaningUp
    (proceeds_stageAndReplace outside staysOnVolume kept apart creatable)
  · intro after
    exact Or.inl (Memory.find?_removeAll_of_outside notInScratch)
  · rintro result after ⟨replaced, elsewhere⟩
    refine ⟨(Memory.find?_removeAll_of_outside notInScratch).trans replaced,
      fun other notSlot => ?_⟩
    change (after.removeAll (collaborators.scratch host)).tree.find? other = _
    rw [Memory.find?_removeAll, find?_createDirectory_scratch unused]
    by_cases within : other.liesIn (collaborators.scratch host) = true
    · simp only [if_pos within, ite_self]
    · simp only [if_neg within]
      exact elsewhere other notSlot fun same => within (liesIn_scratch_of_staged same)

end Collaborators

end SelfUpdate
