import SelfUpdate.Proofs.Version.Finalized
import SelfUpdate.Release.Target

/-!
# Addresses of archives

An address tells which archive it is of: the finalized version ends at the first slash behind
it, the system at the first hyphen, and the rest is the architecture with the ending that the
system has.  So archives with the same address are for the same platform and have the same
numbers, if no system has a hyphen in its name.

Slashes at the end of a base address make no difference.
-/

namespace SelfUpdate

namespace DownloadTarget

section Slashes

variable (base : String)

def slashes (count : Nat) : String :=
  String.ofList (List.replicate count '/')

theorem trimSlashes_append_slashes (count : Nat) :
    trimSlashes (base ++ slashes count) = trimSlashes base := by
  have allSlashes : ∀ character ∈ List.replicate count '/', (character == '/') = true := by
    simp
  simp only [trimSlashes, slashes, String.toList_append, String.toList_ofList,
    List.reverse_append, List.reverse_replicate, List.dropWhile_append_of_pos allSlashes]

theorem getLast?_trimSlashes : (trimSlashes base).toList.getLast? ≠ some '/' := by
  rw [trimSlashes, String.toList_ofList, List.getLast?_reverse]
  intro slash
  simpa using stops_dropWhile base.toList.reverse '/' slash

theorem exists_trimSlashes_append : ∃ count, base = trimSlashes base ++ slashes count := by
  obtain ⟨back, allSlashes, whole⟩ :=
    exists_append_dropWhile (· == '/') base.toList.reverse
  have isReplicate : back = List.replicate back.length '/' :=
    List.eq_replicate_iff.mpr ⟨rfl, fun character member => by simpa using allSlashes _ member⟩
  refine ⟨back.length, ?_⟩
  rw [← String.toList_inj, String.toList_append, trimSlashes, slashes, String.toList_ofList,
    String.toList_ofList, ← List.reverse_inj, List.reverse_append, List.reverse_reverse,
    List.reverse_replicate, ← isReplicate, ← whole]

end Slashes

section Addresses

variable {left right : DownloadTarget}

/-- An address in parts, each with what separates it from the next. -/
theorem toList_url (target : DownloadTarget) (base : String) :
    (target.url base).toList =
      (trimSlashes base ++ "/releases/download/v").toList ++ (target.version.core ++ '/' ::
        ("coder-cli-".toList ++ (target.platform.system.toList ++ '-' ::
          (target.platform.architecture ++ "." ++ target.fileExtension).toList))) := by
  simp [url, assetName, Version.finalized]

theorem fileExtension_congr (same : left.platform.system = right.platform.system) :
    left.fileExtension = right.fileExtension := by
  rw [fileExtension, fileExtension, same]

theorem url_eq_iff (base : String) (leftPlain : '-' ∉ left.platform.system.toList)
    (rightPlain : '-' ∉ right.platform.system.toList) :
    left.url base = right.url base ↔
      left.platform.system = right.platform.system ∧
        left.platform.architecture = right.platform.architecture ∧
        left.version.finalized = right.version.finalized := by
  constructor
  · intro same
    have letters := congrArg String.toList same
    rw [toList_url, toList_url, List.append_cancel_left_eq,
      append_separator_inj left.version.slash_not_mem_core right.version.slash_not_mem_core,
      List.append_cancel_left_eq, append_separator_inj leftPlain rightPlain] at letters
    obtain ⟨core, system, rest⟩ := letters
    rw [String.toList_inj] at system rest
    -- The architecture may hold anything, but what is behind it is the same as the system is.
    rw [fileExtension_congr system, String.append_left_inj, String.append_left_inj] at rest
    exact ⟨system, rest, congrArg String.ofList core⟩
  · rintro ⟨system, architecture, finalized⟩
    simp only [url, assetName, fileExtension, system, architecture, finalized]

/-- Behind a system with a hyphen the architecture could not be told apart. -/
example (version : Version) (base : String) :
    (⟨⟨"open-bsd", "arm"⟩, version⟩ : DownloadTarget).url base =
      (⟨⟨"open", "bsd-arm"⟩, version⟩ : DownloadTarget).url base :=
  rfl

/-- Archives for systems without a hyphen in their names have the same address exactly if they
are for the same platform and their versions have the same numbers.  The base address counts
up to the slashes at its end, and one slash stands behind it. -/
theorem url_identifies_target (base : String) :
    (∀ left right : DownloadTarget, '-' ∉ left.platform.system.toList →
      '-' ∉ right.platform.system.toList →
        (left.url base = right.url base ↔
          left.platform.system = right.platform.system ∧
            left.platform.architecture = right.platform.architecture ∧
            left.version.finalized = right.version.finalized)) ∧
      (∀ left right : Version, left.finalized = right.finalized ↔
        left.major = right.major ∧ left.minor = right.minor ∧ left.patch = right.patch) ∧
      (∀ (target : DownloadTarget) count, target.url (base ++ slashes count) = target.url base) ∧
      ∃ trimmed count, base = trimmed ++ slashes count ∧ trimmed.toList.getLast? ≠ some '/' ∧
        ∀ target : DownloadTarget, target.url base =
          trimmed ++ "/" ++ ("releases/download/v" ++ target.version.finalized ++ "/" ++
            target.assetName) := by
  refine ⟨fun left right => url_eq_iff base, fun left right => Version.finalized_inj, ?_, ?_⟩
  · intro target count
    rw [url, trimSlashes_append_slashes, url]
  · obtain ⟨count, whole⟩ := exists_trimSlashes_append base
    refine ⟨trimSlashes base, count, whole, getLast?_trimSlashes base, ?_⟩
    intro target
    simp only [url, String.append_assoc]
    rfl

end Addresses

section Sample

/-- The architecture looks like the end of an archive's name. -/
def sampleTarget : DownloadTarget :=
  ⟨⟨"linux", "amd64.tar.gz/linux-arm64"⟩, ⟨1, 14, 0, ["rc".toList], []⟩⟩

/-- Another build of the same version. -/
def rebuiltTarget : DownloadTarget :=
  { sampleTarget with version := ⟨1, 14, 0, [], ["7".toList]⟩ }

/-- The same characters, cut into numbers differently. -/
def earlierTarget : DownloadTarget :=
  { sampleTarget with version := ⟨11, 4, 0, [], []⟩ }

theorem url_identifies_sampleTarget :
    '-' ∉ sampleTarget.platform.system.toList ∧
      sampleTarget.url "https://releases.test//" = rebuiltTarget.url "https://releases.test//" ∧
      sampleTarget.url "https://releases.test//" ≠ earlierTarget.url "https://releases.test//" := by
  have plain : '-' ∉ "linux".toList := by decide
  obtain ⟨identifies, numbers, -⟩ := url_identifies_target "https://releases.test//"
  refine ⟨plain, ?_, ?_⟩
  · exact (identifies sampleTarget rebuiltTarget plain plain).mpr
      ⟨rfl, rfl, (numbers _ _).mpr ⟨rfl, rfl, rfl⟩⟩
  · intro same
    obtain ⟨-, -, finalized⟩ := (identifies sampleTarget earlierTarget plain plain).mp same
    exact absurd ((numbers _ _).mp finalized).1 (by decide)

end Sample

end DownloadTarget

end SelfUpdate
