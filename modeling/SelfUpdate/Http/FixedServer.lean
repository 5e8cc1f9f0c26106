import SelfUpdate.Http.Exchange

/-!
# Servers with fixed answers

A server with fixed answers is described by what it answers at each path. It runs
on the client's own machine, at every port, and keeps a record of what it was
asked. It may also interrupt the client instead of answering.
-/

namespace SelfUpdate.Http

/-- How the end of a body is announced: by its true size, by closing the connection, by an empty
last piece, or by a size that may be wrong. -/
inductive Framing where
  | exact
  | untilClose
  | chunked
  | declared (size : Nat)
  deriving DecidableEq, Repr

/-- A fixed answer, or an interruption of the client in its place. -/
structure FixedAnswer where
  status : Nat
  headers : List (String × String)
  body : Bytes
  framing : Framing
  interrupts : Bool
  deriving DecidableEq, Repr

/-- The answer at a path for which there is none. -/
def FixedAnswer.notFound : FixedAnswer :=
  ⟨404, [], [], .exact, false⟩

/-- What a client has received once the server has answered and closed the connection. -/
structure Delivery where
  contentLength : Option Nat
  body : Bytes
  isWhole : Bool
  deriving DecidableEq, Repr

def maxDeclaredSize : Nat := UInt64.size - 3

/-- Whether a status code announces a response that is still to come, or is none. -/
def isNoFinalStatus (code : Nat) : Bool :=
  (code < 200 && code != 101) || 999 < code

/-- Whether responses with a status code have no body. -/
def hasNoBody (code : Nat) : Bool :=
  code == 101 || code == 204 || code == 304

namespace FixedAnswer

/-- What arrives of the body. -/
def delivery (answer : FixedAnswer) : Delivery :=
  if hasNoBody answer.status then ⟨some 0, [], true⟩
  else
    match answer.framing with
    | .exact => ⟨some answer.body.length, answer.body, true⟩
    | .untilClose | .chunked => ⟨none, answer.body, true⟩
    | .declared size =>
        ⟨some size, answer.body.take size, decide (size ≤ answer.body.length)⟩

/-- The response that arrives, if any does. -/
def response? (answer : FixedAnswer) : Option Response :=
  let isReadable :=
    match answer.framing with
    | .declared size => decide (size ≤ maxDeclaredSize)
    | _ => true
  if isNoFinalStatus answer.status || !isReadable then none
  else
    let delivery := answer.delivery
    some ⟨answer.status, answer.headers, delivery.contentLength, [delivery.body],
      delivery.isWhole⟩

end FixedAnswer

/-- A server with fixed answers by path and query; the path `*` stands for all others. One
without a list of answers refuses connections. -/
structure FixedServer where
  answers : Option (List (String × FixedAnswer))
  deriving DecidableEq, Repr

/-- What a server remembers of its clients: what it was asked, the latest first, and whether it
has interrupted one. -/
structure ServerRecord where
  requests : List String
  interrupted : Bool
  deriving DecidableEq, Repr

def ServerRecord.empty : ServerRecord := ⟨[], false⟩

/-- Whether a character is a space or tab, which do not count at the ends of a header. -/
def isHeaderPadding (character : Char) : Bool :=
  character == ' ' || character == '\t'

/-- A header without padding at its ends. -/
def trimHeader (text : String) : String :=
  let letters := text.toList.dropWhile isHeaderPadding
  String.ofList (letters.reverse.dropWhile isHeaderPadding).reverse

/-- How a request is remembered. -/
def Request.text (request : Request) : String :=
  "GET " ++ String.ofList request.address.target ++ " [" ++ trimHeader request.userAgent ++ "]"

namespace FixedServer

/-- The answer for a path and query. -/
def answerAt (answers : List (String × FixedAnswer)) (target : String) : FixedAnswer :=
  ((answers.lookup target).orElse fun _ => answers.lookup "*").getD .notFound

/-- Whether a request arrives at the server. -/
def isReached (request : Request) : Bool :=
  !request.address.secure && request.address.host == .loopback

/-- What a client receives after a request, and what the server remembers then. -/
def answer (server : FixedServer) (request : Request) (record : ServerRecord) :
    Option Response × ServerRecord :=
  match server.answers with
  | none => (none, record)
  | some answers =>
      if !isReached request then (none, record)
      else
        let record := { record with requests := request.text :: record.requests }
        let answer := answerAt answers (String.ofList request.address.target)
        if answer.interrupts then (none, { record with interrupted := true })
        else
          let headers := answer.headers.map fun header => (header.1, trimHeader header.2)
          (({ answer with headers := headers } : FixedAnswer).response?, record)

/-- The server as something that requests can be brought to. -/
def transport (server : FixedServer) : Transport (StateM ServerRecord) :=
  fun request => server.answer request

end FixedServer

end SelfUpdate.Http
