import SelfUpdate.Proofs.Settings.Document
import SelfUpdate.Proofs.Text.Ascii
import SelfUpdate.Proofs.Text.Numeral
import SelfUpdate.Settings.Layers

/-!
# How the layers of settings come together

The user's file and the environment variables are two layers on top of the defaults.  Each
setting is the one of the highest layer that tells it, whatever the layers tell of the other
settings.  Without a file the document in the program is read instead, which tells just the
defaults.

Loading fails if the file or a variable cannot be understood.  The file comes first, and of
the variables the one for requests.
-/

namespace SelfUpdate

section Seconds

/-- A text spells a number of seconds: in decimal digits, which may follow a plus sign. -/
def SpellsSeconds (text : String) (seconds : UInt64) : Prop :=
  ∃ digits : List Nat, digits ≠ [] ∧ (∀ digit ∈ digits, digit < 10) ∧
    (text.toList = digits.map Nat.digitChar ∨ text.toList = '+' :: digits.map Nat.digitChar) ∧
    Nat.ofDigits 10 digits.reverse = seconds.toNat

theorem dropPlus_eq_iff {characters : List Char} {digits : List Nat} (filled : digits ≠ [])
    (small : ∀ digit ∈ digits, digit < 10) :
    dropPlus characters = digits.map Nat.digitChar ↔
      characters = digits.map Nat.digitChar ∨ characters = '+' :: digits.map Nat.digitChar := by
  unfold dropPlus
  split
  · next rest =>
    -- No digit is a plus sign.
    have notPlus : '+' :: rest ≠ digits.map Nat.digitChar := by
      intro same
      cases digits with
      | nil => exact filled rfl
      | cons digit digits =>
          have each : ∀ digit < 10, '+' ≠ Nat.digitChar digit := by decide
          exact each digit (small digit List.mem_cons_self) (List.cons.inj same).1
    simp [notPlus]
  · next other =>
    exact (or_iff_left fun same => other _ same).symm

theorem digitsNumber_eq_some_iff {base : Nat} {digits : List Char} {number : UInt64} :
    digitsNumber base digits = some number ↔ Text.numeral? base digits = some number.toNat := by
  constructor
  · intro done
    obtain ⟨value, isValue, done⟩ := Option.bind_eq_some_iff.mp done
    obtain ⟨fits, same⟩ := Option.ite_none_right_eq_some.mp done
    rw [isValue, ← Option.some.inj same, UInt64.toNat_ofNat_of_lt' fits]
  · intro isValue
    refine Option.bind_eq_some_iff.mpr ⟨_, isValue, ?_⟩
    rw [if_pos number.toNat_lt_size, UInt64.ofNat_toNat]

theorem readSeconds_eq_some_iff {text : String} {seconds : UInt64} :
    Settings.readSeconds text = some seconds ↔ SpellsSeconds text seconds := by
  rw [Settings.readSeconds, digitsNumber_eq_some_iff, Text.numeral?_ten_eq_some_iff]
  refine exists_congr fun digits => and_congr_right fun filled => and_congr_right fun small => ?_
  rw [dropPlus_eq_iff filled small]

end Seconds

namespace Variables

variable {α : Type} {environment : Variables} {name text : String}

/-- A variable is set to a text.  What is not the bytes of any text does not count. -/
def IsSet (environment : Variables) (name text : String) : Prop :=
  environment.lookup name = some (Bytes.ofString text)

/-- What a variable tells: nothing if it is not set, and else what its text spells. -/
inductive Sets (environment : Variables) (name : String) (spells : String → α → Prop) :
    Option α → Prop where
  | unset (isUnset : ∀ text, ¬environment.IsSet name text) : Sets environment name spells none
  | set {text : String} {value : α} (isSet : environment.IsSet name text)
      (spelled : spells text value) : Sets environment name spells (some value)

/-- A variable is set to a text that spells no number of seconds. -/
def Misspells (environment : Variables) (name : String) : Prop :=
  ∃ text, environment.IsSet name text ∧ ∀ seconds, ¬SpellsSeconds text seconds

/-- What the environment variables tell of the settings. -/
structure Gives (environment : Variables) (layer : SettingsLayer) : Prop where
  httpTimeout :
    environment.Sets "CODER_HTTP_TIMEOUT_SECS" SpellsSeconds layer.network.httpTimeout
  downloadTimeout :
    environment.Sets "CODER_DOWNLOAD_TIMEOUT_SECS" SpellsSeconds layer.network.downloadTimeout
  userAgent : layer.network.userAgent = none
  downloadUrl : environment.Sets "CODER_RELEASE_URL" Eq layer.release.downloadUrl
  apiUrl : environment.Sets "CODER_RELEASE_API_URL" Eq layer.release.apiUrl
  repositoryOwner :
    environment.Sets "CODER_RELEASE_REPO_OWNER" Eq layer.release.repositoryOwner
  repositoryName : environment.Sets "CODER_RELEASE_REPO_NAME" Eq layer.release.repositoryName

theorem text?_eq_some_iff : environment.text? name = some text ↔ environment.IsSet name text := by
  rw [text?, Option.bind_eq_some_iff, IsSet]
  constructor
  · rintro ⟨bytes, found, decoded⟩
    rwa [← Text.decodeUtf8?_eq_some_iff.mp decoded]
  · intro found
    exact ⟨_, found, Text.decodeUtf8?_ofString text⟩

theorem text?_eq_none_iff :
    environment.text? name = none ↔ ∀ text, ¬environment.IsSet name text := by
  simp only [Option.eq_none_iff_forall_ne_some, ne_eq, text?_eq_some_iff]

theorem sets_text? (environment : Variables) (name : String) :
    environment.Sets name Eq (environment.text? name) := by
  cases found : environment.text? name with
  | none => exact .unset (text?_eq_none_iff.mp found)
  | some text => exact .set (text?_eq_some_iff.mp found) rfl

theorem Sets.eq_text? {value : Option String} (sets : environment.Sets name Eq value) :
    value = environment.text? name := by
  cases sets with
  | unset isUnset => exact (text?_eq_none_iff.mpr isUnset).symm
  | set isSet same => exact same ▸ (text?_eq_some_iff.mpr isSet).symm

theorem secondsFrom_of_sets {told : Option UInt64}
    (sets : environment.Sets name SpellsSeconds told) :
    Settings.secondsFrom environment name = .ok told := by
  unfold Settings.secondsFrom
  cases sets with
  | unset isUnset => rw [text?_eq_none_iff.mpr isUnset]
  | set isSet spelled =>
      rw [text?_eq_some_iff.mpr isSet]
      dsimp only
      rw [readSeconds_eq_some_iff.mpr spelled]

theorem secondsFrom_of_misspells (misspells : environment.Misspells name) :
    Settings.secondsFrom environment name =
      .error (.invalid (name ++ " must be a valid number")) := by
  obtain ⟨text, isSet, misspelled⟩ := misspells
  have unread : Settings.readSeconds text = none :=
    Option.eq_none_iff_forall_ne_some.mpr fun seconds read =>
      misspelled seconds (readSeconds_eq_some_iff.mp read)
  rw [Settings.secondsFrom, text?_eq_some_iff.mpr isSet]
  dsimp only
  rw [unread]

theorem sets_or_misspells (environment : Variables) (name : String) :
    (∃ told, environment.Sets name SpellsSeconds told) ∨ environment.Misspells name := by
  cases found : environment.text? name with
  | none => exact Or.inl ⟨none, .unset (text?_eq_none_iff.mp found)⟩
  | some text =>
      have isSet := text?_eq_some_iff.mp found
      by_cases spelled : ∃ seconds, SpellsSeconds text seconds
      · obtain ⟨seconds, spelled⟩ := spelled
        exact Or.inl ⟨some seconds, .set isSet spelled⟩
      · exact Or.inr ⟨text, isSet, not_exists.mp spelled⟩

/-- The layer that variables give, with what they tell of the two numbers. -/
def layer (environment : Variables) (httpTimeout downloadTimeout : Option UInt64) :
    SettingsLayer where
  network := ⟨httpTimeout, downloadTimeout, none⟩
  release :=
    ⟨environment.text? "CODER_RELEASE_URL", environment.text? "CODER_RELEASE_API_URL",
      environment.text? "CODER_RELEASE_REPO_OWNER", environment.text? "CODER_RELEASE_REPO_NAME"⟩

theorem gives_layer {httpTimeout downloadTimeout : Option UInt64}
    (setsHttp : environment.Sets "CODER_HTTP_TIMEOUT_SECS" SpellsSeconds httpTimeout)
    (setsDownload :
      environment.Sets "CODER_DOWNLOAD_TIMEOUT_SECS" SpellsSeconds downloadTimeout) :
    environment.Gives (environment.layer httpTimeout downloadTimeout) where
  httpTimeout := setsHttp
  downloadTimeout := setsDownload
  userAgent := rfl
  downloadUrl := environment.sets_text? _
  apiUrl := environment.sets_text? _
  repositoryOwner := environment.sets_text? _
  repositoryName := environment.sets_text? _

/-- Variables give no other layer. -/
theorem Gives.eq_layer {upper : SettingsLayer} (gives : environment.Gives upper) :
    upper = environment.layer upper.network.httpTimeout upper.network.downloadTimeout := by
  obtain ⟨⟨http, download, agent⟩, ⟨url, api, owner, repository⟩⟩ := upper
  rw [layer, ← gives.downloadUrl.eq_text?, ← gives.apiUrl.eq_text?,
    ← gives.repositoryOwner.eq_text?, ← gives.repositoryName.eq_text?, ← gives.userAgent]

theorem override_of_gives {upper : SettingsLayer} (gives : environment.Gives upper)
    (settings : Settings) : settings.override environment = .ok (upper.over settings) := by
  rw [Settings.override, secondsFrom_of_sets gives.httpTimeout,
    secondsFrom_of_sets gives.downloadTimeout, gives.eq_layer]
  rfl

theorem override_of_misspells_http
    (misspells : environment.Misspells "CODER_HTTP_TIMEOUT_SECS") (settings : Settings) :
    settings.override environment =
      .error (.invalid ("CODER_HTTP_TIMEOUT_SECS" ++ " must be a valid number")) := by
  rw [Settings.override, secondsFrom_of_misspells misspells]
  rfl

theorem override_of_misspells_download {told : Option UInt64}
    (sets : environment.Sets "CODER_HTTP_TIMEOUT_SECS" SpellsSeconds told)
    (misspells : environment.Misspells "CODER_DOWNLOAD_TIMEOUT_SECS") (settings : Settings) :
    settings.override environment =
      .error (.invalid ("CODER_DOWNLOAD_TIMEOUT_SECS" ++ " must be a valid number")) := by
  rw [Settings.override, secondsFrom_of_sets sets, secondsFrom_of_misspells misspells]
  rfl

/-- Of the variables only those matter that are set to a text. -/
theorem override_congr {other : Variables}
    (same : ∀ name, environment.text? name = other.text? name) (settings : Settings) :
    settings.override environment = settings.override other := by
  simp only [Settings.override, Settings.secondsFrom, same]

/-- Leaving out a variable that is set to no text makes no difference to any text. -/
theorem text?_filter {bytes : Bytes} (found : environment.lookup name = some bytes)
    (isNoText : ∀ text, bytes ≠ Bytes.ofString text) (other : String) :
    environment.text? other = text? (environment.filter (·.1 != name)) other := by
  by_cases same : other = name
  · subst same
    have absent : (environment.filter (·.1 != other)).lookup other = none := by
      simpa [List.lookup_eq_none_iff] using fun _ _ _ different => Ne.symm different
    rw [text?, text?, found, absent, Option.bind_some, Option.bind_none]
    exact Text.decodeUtf8?_eq_none_iff.mpr isNoText
  · have kept : (environment.filter (·.1 != name)).lookup other = environment.lookup other := by
      clear found
      induction environment with
      | nil => rfl
      | cons first environment ih =>
          obtain ⟨key, value⟩ := first
          rw [List.filter_cons]
          split
          · rw [List.lookup_cons, List.lookup_cons, ih]
          · next isName =>
            have other : (other == key) = false := by simp_all
            rw [List.lookup_cons, other, ih]
    rw [text?, text?, kept]

end Variables

section File

variable {directory : Path} {file : UserFile} {environment : Variables}

/-- What the user's file tells of the settings. -/
inductive UserFile.Gives : UserFile → SettingsLayer → Prop where
  | missing : Gives .missing .nothing
  | content {text : String} {layer : SettingsLayer} (describes : Settings.Describes text layer) :
      Gives (.content (Bytes.ofString text)) layer

/-- The user's file is a mapping without entries. -/
def UserFile.IsEmptyMapping (file : UserFile) : Prop :=
  ∃ text tokens, file = .content (Bytes.ofString text) ∧ Yaml.Token.scan text = some tokens ∧
    Yaml.Node.ofTokens? tokens = some (some (.mapping []))

theorem UserFile.IsEmptyMapping.gives (isEmpty : file.IsEmptyMapping) : file.Gives .nothing := by
  obtain ⟨text, tokens, rfl, isScanned, isRoot⟩ := isEmpty
  exact .content ⟨tokens, _, isScanned, isRoot, [], none, none, .mapping rfl .nil, .unsaid rfl,
    .unsaid rfl, rfl⟩

/-- The document in the program tells what the defaults are. -/
theorem ofText?_builtinDocument : Settings.ofText? builtinDocument = some Settings.default := by
  -- Taken from the bytes at once, the characters are found much faster than one by one.
  have characters : builtinDocument.toList = _ := Text.toList_of_bytes (by decide +kernel)
  rw [Settings.ofText?, Yaml.Token.scan, characters]
  decide +kernel

theorem ofFile_of_gives {lower : SettingsLayer} (gives : file.Gives lower) (path : Path) :
    Settings.ofFile path file = .ok (lower.over .default) := by
  unfold Settings.ofFile
  rw [ofText?_builtinDocument]
  cases gives with
  | missing => rfl
  | content describes =>
      dsimp only
      rw [Text.decodeUtf8?_ofString]
      dsimp only
      rw [Settings.ofText?_eq_some_iff.mpr ⟨lower, describes, rfl⟩]

/-- Why the settings cannot be loaded.  What is wrong with the file comes before what is wrong
with variables. -/
inductive LoadFault (directory : Path) : UserFile → Variables → SettingsError → Prop where
  | unreadable {reason : Failure} {environment : Variables} :
      LoadFault directory (.unreadable reason) environment (.unreadable reason)
  | notText {bytes : Bytes} {environment : Variables}
      (isNoText : ∀ text, bytes ≠ Bytes.ofString text) :
      LoadFault directory (.content bytes) environment (.unreadable .notUnicode)
  | undecodable {text : String} {environment : Variables}
      (tellsNothing : ∀ layer, ¬Settings.Describes text layer) :
      LoadFault directory (.content (Bytes.ofString text)) environment
        (.invalid ("Failed to parse " ++ (settingsFile directory).text))
  | httpTimeout {file : UserFile} {lower : SettingsLayer} {environment : Variables}
      (gives : file.Gives lower) (misspells : environment.Misspells "CODER_HTTP_TIMEOUT_SECS") :
      LoadFault directory file environment
        (.invalid ("CODER_HTTP_TIMEOUT_SECS" ++ " must be a valid number"))
  | downloadTimeout {file : UserFile} {lower : SettingsLayer} {environment : Variables}
      {told : Option UInt64} (gives : file.Gives lower)
      (sets : environment.Sets "CODER_HTTP_TIMEOUT_SECS" SpellsSeconds told)
      (misspells : environment.Misspells "CODER_DOWNLOAD_TIMEOUT_SECS") :
      LoadFault directory file environment
        (.invalid ("CODER_DOWNLOAD_TIMEOUT_SECS" ++ " must be a valid number"))

theorem load_eq (directory : Path) {lower : SettingsLayer} (gives : file.Gives lower) :
    Settings.load directory file environment = (lower.over .default).override environment := by
  rw [Settings.load, ofFile_of_gives gives]
  rfl

theorem ofFile_of_notText {bytes : Bytes} (isNoText : ∀ text, bytes ≠ Bytes.ofString text)
    (path : Path) : Settings.ofFile path (.content bytes) = .error (.unreadable .notUnicode) := by
  unfold Settings.ofFile
  dsimp only
  rw [Text.decodeUtf8?_eq_none_iff.mpr isNoText]

theorem ofFile_of_undecodable {text : String}
    (tellsNothing : ∀ layer, ¬Settings.Describes text layer) (path : Path) :
    Settings.ofFile path (.content (Bytes.ofString text)) =
      .error (.invalid ("Failed to parse " ++ path.text)) := by
  have unread : Settings.ofText? text = none :=
    Option.eq_none_iff_forall_ne_some.mpr fun settings read => by
      obtain ⟨layer, describes, -⟩ := Settings.ofText?_eq_some_iff.mp read
      exact tellsNothing layer describes
  unfold Settings.ofFile
  dsimp only
  rw [Text.decodeUtf8?_ofString]
  dsimp only
  rw [unread]

theorem load_of_fault {error : SettingsError}
    (fault : LoadFault directory file environment error) :
    Settings.load directory file environment = .error error := by
  cases fault with
  | unreadable => rfl
  | notText isNoText =>
      rw [Settings.load, ofFile_of_notText isNoText]
      rfl
  | undecodable tellsNothing =>
      rw [Settings.load, ofFile_of_undecodable tellsNothing]
      rfl
  | httpTimeout gives misspells =>
      rw [load_eq directory gives, Variables.override_of_misspells_http misspells]
  | downloadTimeout gives sets misspells =>
      rw [load_eq directory gives, Variables.override_of_misspells_download sets misspells]

theorem UserFile.gives_or_fault (directory : Path) (file : UserFile) (environment : Variables) :
    (∃ lower, file.Gives lower) ∨ ∃ error, LoadFault directory file environment error := by
  cases file with
  | missing => exact Or.inl ⟨_, .missing⟩
  | unreadable reason => exact Or.inr ⟨_, .unreadable⟩
  | content bytes =>
      by_cases isText : ∃ text, bytes = Bytes.ofString text
      · obtain ⟨text, rfl⟩ := isText
        by_cases tells : ∃ layer, Settings.Describes text layer
        · obtain ⟨layer, describes⟩ := tells
          exact Or.inl ⟨layer, .content describes⟩
        · exact Or.inr ⟨_, .undecodable (not_exists.mp tells)⟩
      · exact Or.inr ⟨_, .notText (not_exists.mp isText)⟩

/-- Both layers can be told, or there is a reason why not. -/
theorem gives_or_fault (directory : Path) (file : UserFile) (environment : Variables) :
    (∃ lower upper, file.Gives lower ∧ environment.Gives upper) ∨
      ∃ error, LoadFault directory file environment error := by
  rcases file.gives_or_fault directory environment with ⟨lower, gives⟩ | fault
  · rcases environment.sets_or_misspells "CODER_HTTP_TIMEOUT_SECS" with ⟨http, setsHttp⟩ | missed
    · rcases environment.sets_or_misspells "CODER_DOWNLOAD_TIMEOUT_SECS" with
        ⟨download, setsDownload⟩ | missed
      · exact Or.inl ⟨lower, _, gives, Variables.gives_layer setsHttp setsDownload⟩
      · exact Or.inr ⟨_, .downloadTimeout gives setsHttp missed⟩
    · exact Or.inr ⟨_, .httpTimeout gives missed⟩
  · exact Or.inr fault

theorem load_of_gives {lower upper : SettingsLayer} (gives : file.Gives lower)
    (sets : environment.Gives upper) :
    Settings.load directory file environment = .ok (upper.over (lower.over .default)) := by
  rw [load_eq directory gives, Variables.override_of_gives sets]

/-- Each setting is that of its variable, if it is set, and else that of the user's file, if it
has the key, and else the default; loading fails just for the reasons there are.  An empty
mapping is as good as no file, and a variable that is set to no text is as good as unset. -/
theorem load_of_layers (directory : Path) (file : UserFile) (environment : Variables) :
    (∀ settings, Settings.load directory file environment = .ok settings ↔
      ∃ lower upper, file.Gives lower ∧ environment.Gives upper ∧
        settings = upper.over (lower.over .default)) ∧
    (∀ error, Settings.load directory file environment = .error error ↔
      LoadFault directory file environment error) ∧
    (file.IsEmptyMapping →
      Settings.load directory file environment = Settings.load directory .missing environment) ∧
    ∀ name bytes, environment.lookup name = some bytes → (∀ text, bytes ≠ Bytes.ofString text) →
      Settings.load directory file environment =
        Settings.load directory file (environment.filter (·.1 != name)) := by
  refine ⟨fun settings => ⟨fun loaded => ?_, ?_⟩, fun error => ⟨fun failed => ?_, load_of_fault⟩,
    fun isEmpty => ?_, fun name bytes found isNoText => ?_⟩
  · rcases gives_or_fault directory file environment with ⟨lower, upper, gives, sets⟩ | ⟨_, fault⟩
    · rw [load_of_gives gives sets] at loaded
      exact ⟨lower, upper, gives, sets, (Except.ok.inj loaded).symm⟩
    · simp [load_of_fault fault] at loaded
  · rintro ⟨lower, upper, gives, sets, rfl⟩
    exact load_of_gives gives sets
  · rcases gives_or_fault directory file environment with ⟨_, _, gives, sets⟩ | ⟨_, fault⟩
    · simp [load_of_gives gives sets] at failed
    · rw [load_of_fault fault] at failed
      exact Except.error.inj failed ▸ fault
  · rw [load_eq directory isEmpty.gives, load_eq directory .missing]
  · simp only [Settings.load]
    congr 1
    funext settings
    exact Variables.override_congr (Variables.text?_filter found isNoText) settings

end File

section Example

/-- A file with a setting that is known and one that is not. -/
def sampleUserFile : UserFile :=
  .content "network: {user-agent: x, other: 1}".toByteArray.data.toList

/-- A number with a sign, an empty text, and bytes that are no text. -/
def sampleVariables : Variables :=
  [("CODER_HTTP_TIMEOUT_SECS", [0x2b, 0x37]), ("CODER_RELEASE_URL", []),
    ("CODER_RELEASE_API_URL", [0xff])]

/-- The first two layers tell a setting each, the third variable tells nothing, and neither
does a file of two braces. -/
theorem load_of_sampleLayers :
    (∃ lower upper, sampleUserFile.Gives lower ∧ sampleVariables.Gives upper ∧
      upper.over (lower.over .default) =
        ⟨⟨7, 10, "x"⟩, ⟨"", "https://api.github.com", "cdr", "coder-cli"⟩⟩) ∧
    Settings.load (Path.ofString "/") sampleUserFile sampleVariables =
      Settings.load (Path.ofString "/") sampleUserFile
        [("CODER_HTTP_TIMEOUT_SECS", [0x2b, 0x37]), ("CODER_RELEASE_URL", [])] ∧
    Settings.load (Path.ofString "/") (.content (Bytes.ofString "\x7b\x7d")) sampleVariables =
      Settings.load (Path.ofString "/") .missing sampleVariables := by
  have loaded : Settings.load (Path.ofString "/") sampleUserFile sampleVariables =
      .ok ⟨⟨7, 10, "x"⟩, ⟨"", "https://api.github.com", "cdr", "coder-cli"⟩⟩ := by
    decide +kernel
  have isScanned : Yaml.Token.scan "\x7b\x7d" = some [.flowMappingStart, .flowMappingEnd] := by
    decide +kernel
  have isNoText : ∀ text, ([0xff] : Bytes) ≠ Bytes.ofString text :=
    Text.decodeUtf8?_eq_none_iff.mp (by decide +kernel)
  refine ⟨?_, ?_, ?_⟩
  · obtain ⟨lower, upper, gives, sets, same⟩ := ((load_of_layers _ _ _).1 _).mp loaded
    exact ⟨lower, upper, gives, sets, same.symm⟩
  · exact (load_of_layers _ _ _).2.2.2 "CODER_RELEASE_API_URL" [0xff] rfl isNoText
  · exact (load_of_layers _ _ _).2.2.1 ⟨_, _, rfl, isScanned, by rfl⟩

end Example

end SelfUpdate
