import Mathlib.Data.List.Count
import Mathlib.Data.List.Nodup
import SelfUpdate.Settings.Document

/-!
# What a settings document says

A document is a layer of settings: of each setting it says something, or leaves it open.
What it says of a setting is what it says under its key, in the section of the setting; keys
that are not known say nothing.  Reading a document gives the defaults with what the document
says on top of them, and fails if there is no telling what it says.
-/

namespace SelfUpdate

/-- What is said of exchanges over the network. -/
structure NetworkLayer where
  httpTimeout : Option UInt64
  downloadTimeout : Option UInt64
  userAgent : Option String
  deriving DecidableEq

/-- What is said of where releases are published. -/
structure ReleaseLayer where
  downloadUrl : Option String
  apiUrl : Option String
  repositoryOwner : Option String
  repositoryName : Option String
  deriving DecidableEq

/-- What is said of the settings.  All that is not said is left open. -/
structure SettingsLayer where
  network : NetworkLayer
  release : ReleaseLayer
  deriving DecidableEq

def NetworkLayer.nothing : NetworkLayer := ⟨none, none, none⟩

def ReleaseLayer.nothing : ReleaseLayer := ⟨none, none, none, none⟩

def SettingsLayer.nothing : SettingsLayer := ⟨.nothing, .nothing⟩

def NetworkLayer.over (layer : NetworkLayer) (settings : NetworkSettings) : NetworkSettings where
  httpTimeout := layer.httpTimeout.getD settings.httpTimeout
  downloadTimeout := layer.downloadTimeout.getD settings.downloadTimeout
  userAgent := layer.userAgent.getD settings.userAgent

def ReleaseLayer.over (layer : ReleaseLayer) (settings : ReleaseSettings) : ReleaseSettings where
  downloadUrl := layer.downloadUrl.getD settings.downloadUrl
  apiUrl := layer.apiUrl.getD settings.apiUrl
  repositoryOwner := layer.repositoryOwner.getD settings.repositoryOwner
  repositoryName := layer.repositoryName.getD settings.repositoryName

theorem NetworkLayer.over_getD (layer : Option NetworkLayer) (settings : NetworkSettings) :
    (layer.getD .nothing).over settings = (layer.map (·.over settings)).getD settings := by
  cases layer <;> rfl

theorem ReleaseLayer.over_getD (layer : Option ReleaseLayer) (settings : ReleaseSettings) :
    (layer.getD .nothing).over settings = (layer.map (·.over settings)).getD settings := by
  cases layer <;> rfl

/-- The settings with a layer on top of them: what it leaves open stays as it was. -/
def SettingsLayer.over (layer : SettingsLayer) (settings : Settings) : Settings :=
  ⟨layer.network.over settings.network, layer.release.over settings.release⟩

namespace SettingsDocument

variable {α β γ : Type} {document : SettingsDocument} {node : Yaml.Node} {keys : List String}
  {key : String} {pairs : List (String × Yaml.Node)}

/-- A node is a mapping whose keys are texts, or is not written at all. -/
inductive Lists (document : SettingsDocument) (node : Yaml.Node) :
    List (String × Yaml.Node) → Prop where
  | mapping {entries : List (Yaml.Node × Yaml.Node)} {pairs : List (String × Yaml.Node)}
      (isMapping : node.target document.anchors = some (.mapping entries))
      (keyed : List.Forall₂ (fun entry pair => document.text entry.1 = some pair.1 ∧
        entry.2 = pair.2) entries pairs) :
      Lists document node pairs
  | absent (isAbsent : node.target document.anchors = some .absent) : Lists document node []

/-- What a mapping says under a key: nothing without the key, and else what the value of its
only entry with the key is read as. -/
inductive Tells (pairs : List (String × Yaml.Node)) (key : String)
    (reads : Yaml.Node → α → Prop) : Option α → Prop where
  | unsaid (absent : pairs.filter (·.1 == key) = []) : Tells pairs key reads none
  | said {node : Yaml.Node} {value : α} (once : pairs.filter (·.1 == key) = [(key, node)])
      (isRead : reads node value) : Tells pairs key reads (some value)

/-- A key does not occur twice. -/
def IsSingle (pairs : List (String × Yaml.Node)) (key : String) : Prop :=
  (pairs.filter (·.1 == key)).length ≤ 1

theorem Tells.isSingle {reads : Yaml.Node → α → Prop} {value : Option α}
    (tells : Tells pairs key reads value) : IsSingle pairs key := by
  cases tells with
  | unsaid absent => simp [IsSingle, absent]
  | said once _ => simp [IsSingle, once]

/-- The entries of a mapping under known keys. -/
def known (keys : List String) (pairs : List (String × Yaml.Node)) : List (String × Yaml.Node) :=
  pairs.filter (keys.contains ·.1)

theorem mapM_text_eq_some_iff {entries : List (Yaml.Node × Yaml.Node)} :
    (entries.mapM fun entry => (document.text entry.1).bind fun key => some (key, entry.2)) =
        some pairs ↔
      List.Forall₂ (fun entry pair => document.text entry.1 = some pair.1 ∧ entry.2 = pair.2)
        entries pairs := by
  induction entries generalizing pairs with
  | nil => simp [eq_comm]
  | cons entry entries ih =>
      rw [List.mapM_cons]
      constructor
      · intro done
        obtain ⟨pair, isPair, done⟩ := Option.bind_eq_some_iff.mp done
        obtain ⟨key, isKey, same⟩ := Option.bind_eq_some_iff.mp isPair
        obtain ⟨rest, isRest, done⟩ := Option.bind_eq_some_iff.mp done
        obtain rfl := Option.some.inj same
        obtain rfl := Option.some.inj done
        exact .cons ⟨isKey, rfl⟩ (ih.mp isRest)
      · intro keyed
        cases keyed with
        | cons first later => simp [first.1, first.2, ih.mpr later]

theorem entries_eq_some_iff {entries : List (Yaml.Node × Yaml.Node)} :
    document.entries node = some entries ↔
      node.target document.anchors = some (.mapping entries) ∨
        node.target document.anchors = some .absent ∧ entries = [] := by
  rw [SettingsDocument.entries]
  cases target : node.target document.anchors with
  | none => simp
  | some found =>
      rw [Option.bind_eq_bind, Option.bind_some]
      split
      · simp [Yaml.Node.absent]
      · simp [Yaml.Node.absent, eq_comm]
      · next notMapping notAbsent =>
        simp only [reduceCtorEq, Option.some.injEq, false_iff, not_or]
        exact ⟨fun same => notMapping _ same, fun absent => notAbsent absent.1⟩

theorem lookup_known (member : key ∈ keys) :
    (known keys pairs).lookup key = (pairs.filter (·.1 == key)).head?.map Prod.snd := by
  induction pairs with
  | nil => rfl
  | cons pair pairs ih =>
      obtain ⟨first, value⟩ := pair
      rw [known] at ih ⊢
      by_cases same : first = key
      · subst same
        simp [member]
      · have other : (first == key) = false := beq_eq_false_iff_ne.mpr same
        have otherWay : (key == first) = false := beq_eq_false_iff_ne.mpr (Ne.symm same)
        rw [List.filter_cons, List.filter_cons, other, if_neg Bool.false_ne_true, ← ih]
        split
        · rw [List.lookup_cons, otherWay]
        · rfl

theorem nodup_known_iff :
    ((known keys pairs).map Prod.fst).Nodup ↔ ∀ key ∈ keys, IsSingle pairs key := by
  rw [List.nodup_iff_count_le_one]
  have count (key : String) : ((known keys pairs).map Prod.fst).count key =
      if key ∈ keys then (pairs.filter (·.1 == key)).length else 0 := by
    rw [List.count_eq_length_filter, List.filter_map, List.length_map, known, List.filter_filter]
    split
    · next member =>
      congr 2
      funext pair
      by_cases same : pair.1 = key <;> simp [same, member]
    · next unknown =>
      rw [List.length_eq_zero_iff, List.filter_eq_nil_iff]
      rintro ⟨first, value⟩ -
      simpa using fun same : first = key => same ▸ unknown
  constructor
  · intro single key member
    have least := single key
    rwa [count, if_pos member] at least
  · intro single key
    rw [count]
    split
    · next member => exact single key member
    · exact Nat.zero_le 1

theorem fields_eq_some_iff {fields : List (String × Yaml.Node)} :
    document.fields keys node = some fields ↔
      ∃ pairs, document.Lists node pairs ∧ (∀ key ∈ keys, IsSingle pairs key) ∧
        fields = known keys pairs := by
  constructor
  · intro done
    obtain ⟨entries, isEntries, done⟩ := Option.bind_eq_some_iff.mp done
    obtain ⟨pairs, isPairs, done⟩ := Option.bind_eq_some_iff.mp done
    obtain ⟨single, same⟩ := Option.ite_none_right_eq_some.mp done
    refine ⟨pairs, ?_, nodup_known_iff.mp single, (Option.some.inj same).symm⟩
    rcases entries_eq_some_iff.mp isEntries with isMapping | ⟨isAbsent, rfl⟩
    · exact .mapping isMapping (mapM_text_eq_some_iff.mp isPairs)
    · obtain rfl : [] = pairs := by simpa using isPairs
      exact .absent isAbsent
  · rintro ⟨pairs, lists, single, rfl⟩
    have nodup : (if ((known keys pairs).map Prod.fst).Nodup then some (known keys pairs)
        else none) = some (known keys pairs) := if_pos (nodup_known_iff.mpr single)
    cases lists with
    | mapping isMapping keyed =>
        refine Option.bind_eq_some_iff.mpr ⟨_, entries_eq_some_iff.mpr (Or.inl isMapping), ?_⟩
        exact Option.bind_eq_some_iff.mpr ⟨_, mapM_text_eq_some_iff.mpr keyed, nodup⟩
    | absent isAbsent =>
        exact Option.bind_eq_some_iff.mpr
          ⟨_, entries_eq_some_iff.mpr (Or.inr ⟨isAbsent, rfl⟩), rfl⟩

section Field

variable {read : Yaml.Node → Option α} {reads : Yaml.Node → β → Prop} {apply : β → α}
  {default : α}
  (isRead : ∀ node value, read node = some value ↔ ∃ told, reads node told ∧ value = apply told)
  (member : key ∈ keys)

include isRead member

theorem exists_tells_of_field {rest : α → Option γ} {result : γ} (single : IsSingle pairs key)
    (done : (field (known keys pairs) key read default).bind rest = some result) :
    ∃ told, Tells pairs key reads told ∧ rest ((told.map apply).getD default) = some result := by
  obtain ⟨value, done, isRest⟩ := Option.bind_eq_some_iff.mp done
  rw [field, lookup_known member] at done
  cases isFilter : pairs.filter (·.1 == key) with
  | nil =>
      rw [isFilter] at done
      obtain rfl : default = value := Option.some.inj done
      exact ⟨none, .unsaid isFilter, isRest⟩
  | cons pair others =>
      -- There is no other entry with the key.
      obtain rfl : others = [] := by simpa [IsSingle, isFilter] using single
      have same : pair.1 = key := by
        have first : pair ∈ pairs.filter (·.1 == key) := by simp [isFilter]
        simpa using (List.mem_filter.mp first).2
      rw [isFilter] at done
      obtain ⟨told, reads, rfl⟩ := (isRead pair.2 value).mp done
      exact ⟨some told, .said (by rw [isFilter, ← same]) reads, isRest⟩

theorem field_of_tells {told : Option β} (tells : Tells pairs key reads told) :
    field (known keys pairs) key read default = some ((told.map apply).getD default) := by
  rw [field, lookup_known member]
  cases tells with
  | unsaid absent =>
      rw [absent]
      rfl
  | said once reads =>
      rw [once]
      exact (isRead _ _).mpr ⟨_, reads, rfl⟩

end Field

section Setting

variable {read : Yaml.Node → Option α} {default : α} (member : key ∈ keys)

theorem reads_self (read : Yaml.Node → Option α) (node : Yaml.Node) (value : α) :
    read node = some value ↔ ∃ told, read node = some told ∧ value = id told := by
  simp

include member

theorem exists_tells_of_setting {rest : α → Option γ} {result : γ} (single : IsSingle pairs key)
    (done : (field (known keys pairs) key read default).bind rest = some result) :
    ∃ told, Tells pairs key (read · = some ·) told ∧ rest (told.getD default) = some result := by
  obtain ⟨told, tells, isRest⟩ := exists_tells_of_field (reads_self read) member single done
  exact ⟨told, tells, by rwa [Option.map_id_apply] at isRest⟩

theorem field_of_setting {told : Option α} (tells : Tells pairs key (read · = some ·) told) :
    field (known keys pairs) key read default = some (told.getD default) := by
  rw [field_of_tells (reads_self read) member tells, Option.map_id_apply]

end Setting

/-- What a node tells of exchanges over the network. -/
def TellsNetwork (document : SettingsDocument) (node : Yaml.Node) (layer : NetworkLayer) : Prop :=
  ∃ pairs, document.Lists node pairs ∧
    Tells pairs "http-timeout-secs" (document.number · = some ·) layer.httpTimeout ∧
    Tells pairs "download-timeout-secs" (document.number · = some ·) layer.downloadTimeout ∧
    Tells pairs "user-agent" (document.text · = some ·) layer.userAgent

/-- What a node tells of where releases are published. -/
def TellsRelease (document : SettingsDocument) (node : Yaml.Node) (layer : ReleaseLayer) : Prop :=
  ∃ pairs, document.Lists node pairs ∧
    Tells pairs "download-url" (document.text · = some ·) layer.downloadUrl ∧
    Tells pairs "api-url" (document.text · = some ·) layer.apiUrl ∧
    Tells pairs "repo-owner" (document.text · = some ·) layer.repositoryOwner ∧
    Tells pairs "repo-name" (document.text · = some ·) layer.repositoryName

/-- What a document tells.  A section that is left out tells nothing. -/
def Gives (document : SettingsDocument) (layer : SettingsLayer) : Prop :=
  ∃ pairs network release, document.Lists document.root pairs ∧
    Tells pairs "network" document.TellsNetwork network ∧
    Tells pairs "release" document.TellsRelease release ∧
    layer = ⟨network.getD .nothing, release.getD .nothing⟩

theorem network_eq_some_iff (node : Yaml.Node) (settings : NetworkSettings) :
    document.network node = some settings ↔
      ∃ layer, document.TellsNetwork node layer ∧ settings = layer.over .default := by
  constructor
  · intro done
    obtain ⟨fields, isFields, done⟩ := Option.bind_eq_some_iff.mp done
    obtain ⟨pairs, lists, single, rfl⟩ := fields_eq_some_iff.mp isFields
    obtain ⟨http, tellsHttp, done⟩ :=
      exists_tells_of_setting (by simp) (single _ (by simp)) done
    obtain ⟨download, tellsDownload, done⟩ :=
      exists_tells_of_setting (by simp) (single _ (by simp)) done
    obtain ⟨agent, tellsAgent, done⟩ :=
      exists_tells_of_setting (by simp) (single _ (by simp)) done
    exact ⟨⟨http, download, agent⟩, ⟨pairs, lists, tellsHttp, tellsDownload, tellsAgent⟩,
      (Option.some.inj done).symm⟩
  · rintro ⟨layer, ⟨pairs, lists, tellsHttp, tellsDownload, tellsAgent⟩, rfl⟩
    have isFields := fields_eq_some_iff.mpr ⟨pairs, lists, List.forall_mem_cons.mpr
      ⟨tellsHttp.isSingle, List.forall_mem_cons.mpr ⟨tellsDownload.isSingle,
        List.forall_mem_singleton.mpr tellsAgent.isSingle⟩⟩, rfl⟩
    refine Option.bind_eq_some_iff.mpr ⟨_, isFields, ?_⟩
    refine Option.bind_eq_some_iff.mpr ⟨_, field_of_setting (by simp) tellsHttp, ?_⟩
    refine Option.bind_eq_some_iff.mpr ⟨_, field_of_setting (by simp) tellsDownload, ?_⟩
    exact Option.bind_eq_some_iff.mpr ⟨_, field_of_setting (by simp) tellsAgent, rfl⟩

theorem release_eq_some_iff (node : Yaml.Node) (settings : ReleaseSettings) :
    document.release node = some settings ↔
      ∃ layer, document.TellsRelease node layer ∧ settings = layer.over .default := by
  constructor
  · intro done
    obtain ⟨fields, isFields, done⟩ := Option.bind_eq_some_iff.mp done
    obtain ⟨pairs, lists, single, rfl⟩ := fields_eq_some_iff.mp isFields
    obtain ⟨download, tellsDownload, done⟩ :=
      exists_tells_of_setting (by simp) (single _ (by simp)) done
    obtain ⟨api, tellsApi, done⟩ := exists_tells_of_setting (by simp) (single _ (by simp)) done
    obtain ⟨owner, tellsOwner, done⟩ :=
      exists_tells_of_setting (by simp) (single _ (by simp)) done
    obtain ⟨name, tellsName, done⟩ := exists_tells_of_setting (by simp) (single _ (by simp)) done
    exact ⟨⟨download, api, owner, name⟩,
      ⟨pairs, lists, tellsDownload, tellsApi, tellsOwner, tellsName⟩, (Option.some.inj done).symm⟩
  · rintro ⟨layer, ⟨pairs, lists, tellsDownload, tellsApi, tellsOwner, tellsName⟩, rfl⟩
    have isFields := fields_eq_some_iff.mpr ⟨pairs, lists, List.forall_mem_cons.mpr
      ⟨tellsDownload.isSingle, List.forall_mem_cons.mpr ⟨tellsApi.isSingle,
        List.forall_mem_cons.mpr ⟨tellsOwner.isSingle,
          List.forall_mem_singleton.mpr tellsName.isSingle⟩⟩⟩, rfl⟩
    refine Option.bind_eq_some_iff.mpr ⟨_, isFields, ?_⟩
    refine Option.bind_eq_some_iff.mpr ⟨_, field_of_setting (by simp) tellsDownload, ?_⟩
    refine Option.bind_eq_some_iff.mpr ⟨_, field_of_setting (by simp) tellsApi, ?_⟩
    refine Option.bind_eq_some_iff.mpr ⟨_, field_of_setting (by simp) tellsOwner, ?_⟩
    exact Option.bind_eq_some_iff.mpr ⟨_, field_of_setting (by simp) tellsName, rfl⟩

/-- Reading a document gives the defaults with what the document tells on top of them. -/
theorem settings_eq_some_iff {settings : Settings} :
    document.settings = some settings ↔
      ∃ layer, document.Gives layer ∧ settings = layer.over .default := by
  constructor
  · intro done
    obtain ⟨fields, isFields, done⟩ := Option.bind_eq_some_iff.mp done
    obtain ⟨pairs, lists, single, rfl⟩ := fields_eq_some_iff.mp isFields
    obtain ⟨network, tellsNetwork, done⟩ :=
      exists_tells_of_field network_eq_some_iff (by simp) (single _ (by simp)) done
    obtain ⟨release, tellsRelease, done⟩ :=
      exists_tells_of_field release_eq_some_iff (by simp) (single _ (by simp)) done
    refine ⟨⟨network.getD .nothing, release.getD .nothing⟩,
      ⟨pairs, network, release, lists, tellsNetwork, tellsRelease, rfl⟩, ?_⟩
    rw [← Option.some.inj done, SettingsLayer.over, NetworkLayer.over_getD, ReleaseLayer.over_getD]
    rfl
  · rintro ⟨_, ⟨pairs, network, release, lists, tellsNetwork, tellsRelease, rfl⟩, rfl⟩
    have isFields := fields_eq_some_iff.mpr ⟨pairs, lists, List.forall_mem_cons.mpr
      ⟨tellsNetwork.isSingle, List.forall_mem_singleton.mpr tellsRelease.isSingle⟩, rfl⟩
    refine Option.bind_eq_some_iff.mpr ⟨_, isFields, ?_⟩
    refine Option.bind_eq_some_iff.mpr
      ⟨_, field_of_tells network_eq_some_iff (by simp) tellsNetwork, ?_⟩
    refine Option.bind_eq_some_iff.mpr
      ⟨_, field_of_tells release_eq_some_iff (by simp) tellsRelease, ?_⟩
    rw [SettingsLayer.over, NetworkLayer.over_getD, ReleaseLayer.over_getD]
    rfl

end SettingsDocument

/-- A text is a document that tells something of the settings, or has no document in it and
tells nothing. -/
def Settings.Describes (text : String) (layer : SettingsLayer) : Prop :=
  ∃ tokens root, Yaml.Token.scan text = some tokens ∧ Yaml.Node.ofTokens? tokens = some root ∧
    (SettingsDocument.ofRoot (root.getD .absent)).Gives layer

theorem Settings.ofText?_eq_some_iff {text : String} {settings : Settings} :
    ofText? text = some settings ↔
      ∃ layer, Describes text layer ∧ settings = layer.over .default := by
  constructor
  · intro done
    obtain ⟨tokens, isScanned, done⟩ := Option.bind_eq_some_iff.mp done
    obtain ⟨root, isRoot, done⟩ := Option.bind_eq_some_iff.mp done
    obtain ⟨layer, gives, same⟩ := SettingsDocument.settings_eq_some_iff.mp done
    exact ⟨layer, ⟨tokens, root, isScanned, isRoot, gives⟩, same⟩
  · rintro ⟨layer, ⟨tokens, root, isScanned, isRoot, gives⟩, same⟩
    have done := SettingsDocument.settings_eq_some_iff.mpr ⟨layer, gives, same⟩
    exact Option.bind_eq_some_iff.mpr
      ⟨tokens, isScanned, Option.bind_eq_some_iff.mpr ⟨root, isRoot, done⟩⟩

end SelfUpdate
