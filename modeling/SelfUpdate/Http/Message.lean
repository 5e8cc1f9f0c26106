import SelfUpdate.Http.Exchange
import SelfUpdate.Text.Blank

/-!
# Messages of an exchange

A request is a text of lines, and so is the head of a response. An empty line ends
the head, and the body follows. The body ends as the head says: after so many
bytes, after an empty piece if it comes in pieces, or else with the connection. A
server may send heads of provisional responses first.
-/

namespace SelfUpdate.Http

def lineEnding : String := "\r\n"

/-- The bytes of a request, after which the server should close the connection. -/
def Request.message (request : Request) : Bytes :=
  Bytes.ofString <| String.join <| List.map (· ++ lineEnding)
    ["GET " ++ String.ofList request.address.target ++ " HTTP/1.1",
      "user-agent: " ++ request.userAgent,
      "accept: */*",
      "host: " ++ String.ofList (Url.afterLast '@' request.address.authority),
      "connection: close",
      ""]

/-- Split off a line and its ending. -/
def splitLine? (bytes : Bytes) : Option (Bytes × Bytes) :=
  let (line, rest) := bytes.span (· != 0x0a)
  match rest with
  | [] => none
  | _ :: rest => some (if line.getLast? = some 0x0d then line.dropLast else line, rest)

def maxHeaders : Nat := 100

def header? (line : Bytes) : Option (String × String) := do
  let (name, value) := (Text.decodeLossy line).toList.span (· != ':')
  if name.isEmpty || value.isEmpty then none
  else some (String.ofList name, String.ofList (Text.trim (value.drop 1)))

/-- Split off at most so many headers and the empty line after them. -/
def splitHeaders? : (limit : Nat) → Bytes → Option (List (String × String) × Bytes)
  | limit, bytes => do
      let (line, rest) ← splitLine? bytes
      if line.isEmpty then return ([], rest)
      else
        match limit with
        | 0 => none
        | limit + 1 =>
            let (headers, rest) ← splitHeaders? limit rest
            return ((← header? line) :: headers, rest)

/-- The status code in the first line of a response. -/
def statusCode? (line : Bytes) : Option Nat :=
  match (Text.decodeLossy line).splitOn " " with
  | version :: code :: _ =>
      if version.startsWith "HTTP/1." && code.length == 3 then Text.numeral? 10 code.toList
      else none
  | _ => none

/-- Split off the pieces of a body that comes in pieces, at most so many. The second value
tells whether the empty piece was reached. -/
def splitPieces : (limit : Nat) → Bytes → List Bytes × Bool
  | 0, _ => ([], false)
  | limit + 1, bytes =>
      match splitLine? bytes with
      | none => ([], false)
      | some (line, rest) =>
          let digits := (Text.decodeLossy line).toList.takeWhile (· != ';')
          match Text.numeral? 16 (Text.trim digits) with
          | none => ([], false)
          | some 0 => ([], true)
          | some size =>
              let piece := rest.take size
              if piece.length < size then ([piece], false)
              else
                let (pieces, isWhole) := splitPieces limit (rest.drop (size + 2))
                (piece :: pieces, isWhole)

/-- A response, given its head and all that follows until the connection is closed. -/
def Response.ofParts (status : Nat) (headers : List (String × String)) (rest : Bytes) :
    Response :=
  let response : Response := ⟨status, headers, none, [rest], true⟩
  if (response.header? "transfer-encoding").isSome then
    let (pieces, isWhole) := splitPieces rest.length rest
    { response with chunks := pieces, isWhole := isWhole }
  else
    match (response.header? "content-length").bind (Text.numeral? 10 ·.toList) with
    | none => response
    | some size =>
        { response with
          contentLength := some size
          chunks := [rest.take size]
          isWhole := decide (size ≤ rest.length) }

/-- How many provisional responses may come before the response. -/
def maxProvisional : Nat := 16

/-- The response in all that a server sends, after at most so many provisional ones. -/
def Response.find? : (limit : Nat) → Bytes → Option Response
  | 0, _ => none
  | limit + 1, bytes => do
      let (line, rest) ← splitLine? bytes
      let status ← statusCode? line
      let (headers, rest) ← splitHeaders? maxHeaders rest
      if 100 ≤ status && status < 200 && status != 101 then Response.find? limit rest
      else some (.ofParts status headers rest)

def Response.ofBytes? (bytes : Bytes) : Option Response :=
  Response.find? (maxProvisional + 1) bytes

end SelfUpdate.Http
