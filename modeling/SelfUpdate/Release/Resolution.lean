import SelfUpdate.Version.Precedence

/-!
# Which release to install

The desired version is the one asked for, if any, and else the one the release
host reports. No update is needed if the running version is the same release; a
running version that cannot be read never stands in the way.
-/

namespace SelfUpdate

/-- Why no desired version was found. -/
inductive VersionError where
  | invalidArgument (version : String) (reason : Version.ParseError)
  | invalidReported (version : String) (reason : Version.ParseError)
  | report (reason : List String)
  deriving DecidableEq, Repr

/-- The outcome of comparing the desired with the running version, which is missing where it
cannot be read. -/
inductive Resolution where
  | upToDate (version : Version)
  | update (running : Option Version) (desired : Version)
  deriving DecidableEq, Repr

namespace Resolution

/-- The version a user asked for; an empty text asks for none. -/
def requested : Option String → Option String
  | some "" => none
  | request => request

def ofArgument (version : String) : Except VersionError Version :=
  (Version.parse version).mapError (.invalidArgument version)

/-- Read what the release host reported. -/
def ofReport : Except (List String) String → Except VersionError Version
  | .error reason => .error (.report reason)
  | .ok tag => (Version.fromTag tag).mapError (.invalidReported tag)

/-- Compare a desired version with the running one. -/
def decide (desired : Version) (running : String) : Resolution :=
  match (Version.parse running).toOption with
  | some current =>
      if current.sameRelease desired then .upToDate desired
      else .update (some current) desired
  | none => .update none desired

/-- Decide about an update. The release host's report is looked at only if no version
was asked for. -/
def resolve (explicit : Option String) (report : Except (List String) String)
    (running : String) : Except VersionError Resolution :=
  match requested explicit with
  | some version => (ofArgument version).map (decide · running)
  | none => (ofReport report).map (decide · running)

end Resolution

end SelfUpdate
