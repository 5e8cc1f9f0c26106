import SelfUpdate.Http.Exchange
import SelfUpdate.Update.Error

/-!
# Fetching a release archive

An archive is asked for once, and the client goes where servers send it on. Only a
response with status 200 has the archive. It may not be larger than a limit: neither
the announced size, nor what arrives piece by piece.

Room for the announced size is made before anything is read. If that is more than
any buffer can have, the whole program comes down, whatever would have arrived.
-/

namespace SelfUpdate

open Http (Response)

/-- How fetching an archive ends: with the archive, with a failure, or with the whole program
coming down. -/
inductive FetchOutcome where
  | fetched (archive : Bytes)
  | failed (error : NetworkError)
  | aborted
  deriving DecidableEq, Repr

/-- The result with which the program goes on, if it does. -/
def FetchOutcome.result? : FetchOutcome → Option (Except NetworkError Bytes)
  | .fetched archive => some (.ok archive)
  | .failed error => some (.error error)
  | .aborted => none

/-- What has arrived once all pieces are there, or nothing if the limit is passed on the
way. -/
def gather (limit : Nat) : (arrived : Bytes) → (pieces : List Bytes) → Option Bytes
  | arrived, [] => some arrived
  | arrived, piece :: pieces =>
      if limit < arrived.length + piece.length then none
      else gather limit (arrived ++ piece) pieces

/-- The most bytes that a buffer can have room for: addresses are told apart by numbers
with a sign. -/
def maxBufferSize : Nat := UInt64.size / 2 - 1

/-- The archive in a response to a request for it. -/
def archiveIn (url : String) (limit : UInt64) (response : Response) : FetchOutcome :=
  if response.status ≠ 200 then .failed (.status url response.status)
  else if response.contentLength.any (limit.toNat < ·) then .failed (.tooLarge url limit)
  else if response.contentLength.any (maxBufferSize < ·) then .aborted
  else
    match gather limit.toNat [] response.chunks with
    | none => .failed (.tooLarge url limit)
    | some archive => if response.isWhole then .fetched archive else .failed (.transport url)

/-- Fetch the archive at an address. -/
def fetchArchive {m : Type → Type} [Monad m] (transport : Http.Transport m)
    (userAgent url : String) (limit : UInt64) : m FetchOutcome := do
  match ← Http.ask transport userAgent url with
  | none => return .failed (.transport url)
  | some response => return archiveIn url limit response

end SelfUpdate
