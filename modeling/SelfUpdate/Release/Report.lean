import SelfUpdate.Http.Exchange
import SelfUpdate.Http.Status
import SelfUpdate.Json.Value
import SelfUpdate.Release.Target
import SelfUpdate.Settings.Basic

/-!
# Which release is the latest

The release host tells which release of a repository is the latest. It answers with
a JSON document: an object whose member `tag_name` is the tag of that release, or an
array of just the tag.
-/

namespace SelfUpdate

open Http (Response)

/-- The repository whose releases count, and the address of the host that knows them. -/
structure ReleaseHost where
  apiUrl : String
  owner : String
  repository : String
  deriving DecidableEq, Repr

/-- Why no tag was reported: there was no response, or it was no release, or it does not tell
a tag. -/
inductive ReportError where
  | transport
  | status (code : Nat)
  | unreadable
  deriving DecidableEq, Repr

/-- What is known to users about why no tag was reported. What the transport or a reader
found is not kept. -/
def ReportError.causes : ReportError → List String
  | .status code => ["Failed to fetch release: " ++ Http.statusText code]
  | _ => []

def tagKey : String := "tag_name"

/-- The tag that a JSON value tells. All keys of an object must be proper texts, and only
one may be that of the tag. -/
def tagOf : Json.Value → Option String
  | .array [.text tag] => Json.decodeText? tag
  | .object members => do
      let keys ← members.mapM fun member => Json.decodeText? member.1
      let values := (keys.zip (members.map Prod.snd)).filter fun (key, _) => key == tagKey
      match values.map Prod.snd with
      | [.text tag] => Json.decodeText? tag
      | _ => none
  | _ => none

/-- The tag that a response reports. -/
def tagIn (response : Response) : Except ReportError String :=
  if !Http.isSuccess response.status then .error (.status response.status)
  else
    match response.body?.bind Json.Value.ofBytes? |>.bind tagOf with
    | some tag => .ok tag
    | none => .error .unreadable

namespace ReleaseHost

def ofSettings (settings : ReleaseSettings) : ReleaseHost :=
  ⟨DownloadTarget.trimSlashes settings.apiUrl, settings.repositoryOwner,
    settings.repositoryName⟩

/-- The address that tells the latest release. -/
def latestUrl (host : ReleaseHost) : String :=
  host.apiUrl ++ "/repos/" ++ host.owner ++ "/" ++ host.repository ++ "/releases/latest"

def name (host : ReleaseHost) : String :=
  match Url.ofString? host.apiUrl with
  | some url => String.ofList url.host.letters
  | none => host.apiUrl

/-- Ask the host for the tag of the latest release. -/
def report {m : Type → Type} [Monad m] (host : ReleaseHost) (transport : Http.Transport m)
    (userAgent : String) : m (Except ReportError String) := do
  match ← Http.ask transport userAgent host.latestUrl with
  | none => return .error .transport
  | some response => return tagIn response

end ReleaseHost

end SelfUpdate
