import SelfUpdate.Proofs.Version.Spelling
import SelfUpdate.Release.Resolution
import SelfUpdate.Release.Target

/-!
# Versions of the same release

Neither of two versions precedes the other exactly if they differ in nothing but their build
metadata.  Digits are compared by their value, and since they have no leading zeros, equal
values are equal digits.

So versions name the same release if their texts are the same up to the first plus sign, and
then their archives have the same addresses.
-/

namespace SelfUpdate.Version

section Precedence

variable {left right : Identifier} {lefts rights : List Identifier}

theorem numericValue_inj (leftNumeric : isNumeric left = true)
    (rightNumeric : isNumeric right = true) (leftPermitted : IsPreReleaseIdentifier left)
    (rightPermitted : IsPreReleaseIdentifier right) :
    numericValue left = numericValue right ↔ left = right := by
  have digits {identifier : Identifier} (numeric : isNumeric identifier = true)
      (permitted : IsPreReleaseIdentifier identifier) :
      Nat.toDigits 10 (numericValue identifier) = identifier := by
    obtain ⟨isIdentifier, noZero⟩ := isPreReleaseIdentifier_iff.mp permitted
    apply toDigits_ofDigitChars isIdentifier.1
    · exact fun digit member => isDigit_iff.mpr (isNumeric_iff.mp numeric digit member)
    · exact Bool.eq_false_iff.mpr fun zero => noZero ⟨numeric, zero⟩
  constructor
  · intro same
    rw [← digits leftNumeric leftPermitted, same, digits rightNumeric rightPermitted]
  · exact congrArg numericValue

theorem compareIdentifier_eq_eq_iff (leftPermitted : IsPreReleaseIdentifier left)
    (rightPermitted : IsPreReleaseIdentifier right) :
    compareIdentifier left right = .eq ↔ left = right := by
  have differ (kinds : isNumeric left ≠ isNumeric right) : left ≠ right :=
    fun same => kinds (congrArg isNumeric same)
  unfold compareIdentifier
  cases leftNumeric : isNumeric left <;> cases rightNumeric : isNumeric right
  · exact Std.compare_eq_iff_eq
  · simp [differ (by simp [leftNumeric, rightNumeric])]
  · simp [differ (by simp [leftNumeric, rightNumeric])]
  · exact Std.compare_eq_iff_eq.trans
      (numericValue_inj leftNumeric rightNumeric leftPermitted rightPermitted)

theorem compareIdentifiers_eq_eq_iff
    (leftPermitted : ∀ identifier ∈ lefts, IsPreReleaseIdentifier identifier)
    (rightPermitted : ∀ identifier ∈ rights, IsPreReleaseIdentifier identifier) :
    compareIdentifiers lefts rights = .eq ↔ lefts = rights := by
  induction lefts generalizing rights with
  | nil => cases rights <;> simp [compareIdentifiers]
  | cons left lefts ih =>
      cases rights with
      | nil => simp [compareIdentifiers]
      | cons right rights =>
          obtain ⟨leftFirst, leftOthers⟩ := List.forall_mem_cons.mp leftPermitted
          obtain ⟨rightFirst, rightOthers⟩ := List.forall_mem_cons.mp rightPermitted
          rw [compareIdentifiers, Ordering.then_eq_eq,
            compareIdentifier_eq_eq_iff leftFirst rightFirst, ih leftOthers rightOthers,
            List.cons.injEq]

theorem comparePreRelease_eq_eq_iff
    (leftPermitted : ∀ identifier ∈ lefts, IsPreReleaseIdentifier identifier)
    (rightPermitted : ∀ identifier ∈ rights, IsPreReleaseIdentifier identifier) :
    comparePreRelease lefts rights = .eq ↔ lefts = rights := by
  rw [← compareIdentifiers_eq_eq_iff leftPermitted rightPermitted]
  cases lefts <;> cases rights <;> simp [comparePreRelease, compareIdentifiers]

end Precedence

section Releases

variable {left right version : Version}

/-- The version without its build metadata. -/
def withoutBuild (version : Version) : Version :=
  { version with build := [] }

theorem WellFormed.withoutBuild (wellFormed : version.WellFormed) :
    version.withoutBuild.WellFormed :=
  ⟨wellFormed.preRelease, by simp [Version.withoutBuild]⟩

/-- Versions name the same release if they differ in nothing but their build metadata. -/
theorem sameRelease_iff_withoutBuild (leftFormed : left.WellFormed)
    (rightFormed : right.WellFormed) :
    sameRelease left right = true ↔ left.withoutBuild = right.withoutBuild := by
  simp only [sameRelease, precedence, beq_iff_eq, Ordering.then_eq_eq, Std.compare_eq_iff_eq,
    comparePreRelease_eq_eq_iff leftFormed.preRelease rightFormed.preRelease, withoutBuild,
    mk.injEq, and_true]

/-- A text up to its first plus sign. -/
def beforePlus (text : String) : String :=
  String.ofList (text.toList.takeWhile (· != '+'))

/-- The first plus sign of a text and what stands behind it are the build metadata. -/
theorem beforePlus_display (wellFormed : version.WellFormed) :
    beforePlus version.display = version.withoutBuild.display := by
  have inside : ∀ character ∈ version.core ++ suffix '-' version.preRelease,
      (character != '+') = true := by
    intro character member
    rw [bne_iff_ne]
    rintro rfl
    exact absurd (wellFormed.isDottedCharacter_of_mem member) (by decide)
  have stops : ∀ character ∈ (suffix '+' version.build).head?, (character != '+') = false := by
    intro character member
    rw [eq_of_mem_head?_suffix member]
    rfl
  rw [beforePlus, display, String.toList_ofList, render, takeWhile_append_of_stops inside stops,
    display, render]
  exact congrArg String.ofList (List.append_nil _).symm

theorem display_inj (leftFormed : left.WellFormed) (rightFormed : right.WellFormed) :
    left.display = right.display ↔ left = right := by
  constructor
  · intro same
    have readLeft := parse_eq_ok_iff.mpr ⟨leftFormed, same⟩
    have readRight := parse_eq_ok_iff.mpr ⟨rightFormed, rfl⟩
    exact Except.ok.inj (readLeft.symm.trans readRight)
  · exact congrArg display

/-- Versions name the same release if their texts are the same up to the first plus sign. -/
theorem sameRelease_iff_beforePlus (leftFormed : left.WellFormed)
    (rightFormed : right.WellFormed) :
    sameRelease left right = true ↔ beforePlus left.display = beforePlus right.display := by
  rw [sameRelease_iff_withoutBuild leftFormed rightFormed, beforePlus_display leftFormed,
    beforePlus_display rightFormed, display_inj leftFormed.withoutBuild rightFormed.withoutBuild]

theorem finalized_withoutBuild (version : Version) :
    version.withoutBuild.finalized = version.finalized :=
  rfl

/-- The address of an archive does not depend on build metadata. -/
theorem url_congr (finalized : left.finalized = right.finalized) (platform : Platform)
    (base : String) :
    (DownloadTarget.mk platform left).url base = (DownloadTarget.mk platform right).url base := by
  simp [DownloadTarget.url, DownloadTarget.assetName, DownloadTarget.fileExtension, finalized]

/-- A version that some text is read as. -/
abbrev Readable : Type :=
  {version : Version // ∃ text, parse text = .ok version}

theorem Readable.wellFormed (version : Readable) : version.val.WellFormed := by
  obtain ⟨text, parsed⟩ := version.property
  exact (parse_eq_ok_iff.mp parsed).1

theorem equivalence_sameRelease :
    Equivalence fun left right : Readable => sameRelease left.val right.val = true where
  refl version := (sameRelease_iff_withoutBuild version.wellFormed version.wellFormed).mpr rfl
  symm {left right} same := by
    rw [sameRelease_iff_withoutBuild left.wellFormed right.wellFormed] at same
    exact (sameRelease_iff_withoutBuild right.wellFormed left.wellFormed).mpr same.symm
  trans {left middle right} first second := by
    rw [sameRelease_iff_withoutBuild left.wellFormed middle.wellFormed] at first
    rw [sameRelease_iff_withoutBuild middle.wellFormed right.wellFormed] at second
    exact (sameRelease_iff_withoutBuild left.wellFormed right.wellFormed).mpr (first.trans second)

/-- Versions of the same release are downloaded from the same addresses. -/
theorem url_of_sameRelease (leftFormed : left.WellFormed) (rightFormed : right.WellFormed)
    (same : sameRelease left right = true) :
    left.finalized = right.finalized ∧ ∀ platform base,
      (DownloadTarget.mk platform left).url base =
        (DownloadTarget.mk platform right).url base := by
  rw [sameRelease_iff_withoutBuild leftFormed rightFormed] at same
  have finalized : left.finalized = right.finalized := by
    rw [← finalized_withoutBuild left, same, finalized_withoutBuild]
  exact ⟨finalized, url_congr finalized⟩

end Releases

end SelfUpdate.Version

namespace SelfUpdate.Resolution

open Version (Readable beforePlus sameRelease)

variable {explicit : Option String} {report : Except (List String) String} {running : String}
  {desired version : Version}

/-- The running version is of the same release as another. -/
def Runs (running : String) (version : Version) : Prop :=
  ∃ current, Version.parse running = .ok current ∧ current.sameRelease version = true

theorem decide_of_runs (runs : Runs running desired) :
    decide desired running = .upToDate desired := by
  obtain ⟨current, parsed, same⟩ := runs
  simp [decide, parsed, Except.toOption, same]

theorem decide_of_not_runs (other : ¬Runs running desired) :
    decide desired running = .update (Version.parse running).toOption desired := by
  unfold decide
  cases parsed : Version.parse running with
  | error reason => rfl
  | ok current =>
      have different : current.sameRelease desired = false :=
        Bool.eq_false_iff.mpr fun same => other ⟨current, parsed, same⟩
      simp [Except.toOption, different]

theorem decide_eq_upToDate_iff :
    decide desired running = .upToDate version ↔ desired = version ∧ Runs running version := by
  by_cases runs : Runs running desired
  · rw [decide_of_runs runs, upToDate.injEq]
    exact ⟨fun same => ⟨same, same ▸ runs⟩, And.left⟩
  · rw [decide_of_not_runs runs]
    simp only [reduceCtorEq, false_iff]
    rintro ⟨rfl, same⟩
    exact runs same

theorem decide_eq_update_iff {current : Option Version} :
    decide desired running = .update current version ↔ desired = version ∧
      ¬Runs running version ∧ current = (Version.parse running).toOption := by
  by_cases runs : Runs running desired
  · rw [decide_of_runs runs]
    simp only [reduceCtorEq, false_iff]
    rintro ⟨rfl, other, -⟩
    exact other runs
  · rw [decide_of_not_runs runs, update.injEq]
    constructor
    · rintro ⟨rfl, rfl⟩
      exact ⟨rfl, runs, rfl⟩
    · rintro ⟨rfl, -, rfl⟩
      exact ⟨rfl, rfl⟩

theorem wellFormed_of_ofArgument {text : String} (read : ofArgument text = .ok version) :
    version.WellFormed :=
  (Version.parse_eq_ok_iff.mp (mapError_eq_ok.mp read)).1

theorem wellFormed_of_ofReport (read : ofReport report = .ok version) : version.WellFormed := by
  cases report with
  | error reason => simp [ofReport] at read
  | ok tag => exact (Version.ofChars_eq_ok_iff.mp (mapError_eq_ok.mp read)).1

/-- Whoever is up to date runs a version of the desired release. -/
theorem of_resolve_upToDate (resolved : resolve explicit report running = .ok (.upToDate version)) :
    version.WellFormed ∧ Runs running version := by
  have of_decide {desired : Version} (formed : desired.WellFormed)
      (decided : decide desired running = .upToDate version) :
      version.WellFormed ∧ Runs running version := by
    obtain ⟨rfl, runs⟩ := decide_eq_upToDate_iff.mp decided
    exact ⟨formed, runs⟩
  unfold resolve at resolved
  split at resolved
  · obtain ⟨desired, read, decided⟩ := map_eq_ok_iff.mp resolved
    exact of_decide (wellFormed_of_ofArgument read) decided
  · obtain ⟨desired, read, decided⟩ := map_eq_ok_iff.mp resolved
    exact of_decide (wellFormed_of_ofReport read) decided

/-- Versions are of the same release exactly if their texts are the same up to the first plus
sign.  Such versions share the addresses of their archives, so whoever is up to date has
what would be downloaded. -/
theorem sameRelease_of_readable :
    (∀ left right : Readable,
      (sameRelease left.val right.val = true ↔
        beforePlus left.val.display = beforePlus right.val.display) ∧
      (left = right → sameRelease left.val right.val = true) ∧
      (sameRelease left.val right.val = true → left.val.finalized = right.val.finalized ∧
        ∀ platform base, (DownloadTarget.mk platform left.val).url base =
          (DownloadTarget.mk platform right.val).url base)) ∧
    (Equivalence fun left right : Readable => sameRelease left.val right.val = true) ∧
    ∀ explicit report running version,
      resolve explicit report running = .ok (.upToDate version) →
        ∃ current, Version.parse running = .ok current ∧ ∀ platform base,
          (DownloadTarget.mk platform current).url base =
            (DownloadTarget.mk platform version).url base := by
  refine ⟨fun left right => ⟨?_, ?_, ?_⟩, Version.equivalence_sameRelease, ?_⟩
  · exact Version.sameRelease_iff_beforePlus left.wellFormed right.wellFormed
  · rintro rfl
    exact Version.equivalence_sameRelease.refl left
  · exact Version.url_of_sameRelease left.wellFormed right.wellFormed
  · intro explicit report running version resolved
    obtain ⟨formed, current, parsed, same⟩ := of_resolve_upToDate resolved
    have currentFormed := (Version.parse_eq_ok_iff.mp parsed).1
    exact ⟨current, parsed, (Version.url_of_sameRelease currentFormed formed same).2⟩

section Sample

/-- Texts of one release, with a pre-release number too long for a machine word. -/
def runningText : String := "1.4.0-rc.99999999999999999999+linux"

def requestedText : String := "1.4.0-rc.99999999999999999999+mac.01"

def runningVersion : Version :=
  ⟨1, 4, 0, ["rc".toList, "99999999999999999999".toList], ["linux".toList]⟩

def requestedVersion : Version :=
  ⟨1, 4, 0, ["rc".toList, "99999999999999999999".toList], ["mac".toList, "01".toList]⟩

theorem parse_runningText : Version.parse runningText = .ok runningVersion := by
  decide +kernel

theorem parse_requestedText : Version.parse requestedText = .ok requestedVersion := by
  decide +kernel

theorem resolve_sampleTexts (same : sameRelease runningVersion requestedVersion = true) :
    resolve (some requestedText) (.error []) runningText = .ok (.upToDate requestedVersion) := by
  have runs : Runs runningText requestedVersion := ⟨runningVersion, parse_runningText, same⟩
  change (ofArgument requestedText).map (decide · runningText) = _
  rw [ofArgument, parse_requestedText]
  exact congrArg Except.ok (decide_of_runs runs)

theorem sameRelease_of_sampleTexts :
    sameRelease runningVersion requestedVersion = true ∧
      resolve (some requestedText) (.error []) runningText = .ok (.upToDate requestedVersion) ∧
      runningVersion.finalized = requestedVersion.finalized ∧
      ∃ current, Version.parse runningText = .ok current ∧ ∀ platform base,
        (DownloadTarget.mk platform current).url base =
          (DownloadTarget.mk platform requestedVersion).url base := by
  let running : Readable := ⟨runningVersion, runningText, parse_runningText⟩
  let requested : Readable := ⟨requestedVersion, requestedText, parse_requestedText⟩
  obtain ⟨compared, -, delivered⟩ := sameRelease_of_readable
  obtain ⟨texts, -, shared⟩ := compared running requested
  have same : sameRelease runningVersion requestedVersion = true := by
    rw [texts, Version.beforePlus_display running.wellFormed,
      Version.beforePlus_display requested.wellFormed]
    rfl
  have upToDate := resolve_sampleTexts same
  exact ⟨same, upToDate, (shared same).1, delivered _ _ _ _ upToDate⟩

end Sample

end SelfUpdate.Resolution
