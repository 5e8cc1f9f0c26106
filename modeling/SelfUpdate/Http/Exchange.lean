import SelfUpdate.Url.Reference

/-!
# Exchanges with servers

A client asks for what is at an address. A server may send it on to another
address, which the client follows a limited number of times. An exchange that
breaks off before the head of a response has arrived brings no response.

How a request reaches a server is left open, so that the same client works over a
network and with a server that is only described.
-/

namespace SelfUpdate.Http

/-- Where a request goes and what it asks for, both as they are written. -/
structure Address where
  secure : Bool
  authority : List Char
  host : Url.Host
  port : Nat
  target : List Char
  deriving DecidableEq, Repr

structure Request where
  address : Address
  userAgent : String
  deriving DecidableEq, Repr

/-- What a server answers. The size of the body may be announced. The body arrives in pieces,
and may break off after some. -/
structure Response where
  status : Nat
  headers : List (String × String)
  contentLength : Option Nat
  chunks : List Bytes
  isWhole : Bool
  deriving DecidableEq, Repr

/-- The whole body of a response, if it arrived. -/
def Response.body? (response : Response) : Option Bytes :=
  if response.isWhole then some response.chunks.flatten else none

/-- The first value of a header. The case of its name does not matter. -/
def Response.header? (response : Response) (name : String) : Option String :=
  (response.headers.find? fun header => header.1.map Char.toLower == name).map Prod.snd

def maxAddressLength : Nat := 65534

namespace Address

def letters (address : Address) : List Char :=
  Url.schemeName address.secure ++ "://".toList ++ address.authority ++ address.target

/-- Where requests for an address of the web go. -/
def ofUrl (url : Url) : Address :=
  ⟨url.secure, url.authority, url.host, url.port.getD (Url.usualPort url.secure), url.target⟩

/-- Where requests for the address in a text go. -/
def ofString? (text : String) : Option Address := do
  let url ← Url.ofString? text
  if maxAddressLength < url.letters.length then none else some (ofUrl url)

end Address

/-- What a client makes of a response that may send it on: it is the answer, or leads to another
address, or to one at which there is no asking. -/
inductive Redirection where
  | absent
  | moved (address : Address)
  | impossible
  deriving DecidableEq, Repr

/-- Whether a status code sends a client to another address. -/
def isRedirect (code : Nat) : Bool :=
  [301, 302, 303, 307, 308].contains code

/-- Whether an authority can be taken from a reference: a percent sign and a second colon
are only for credentials, and there must be a host. -/
def isUsableAuthority (authority : List Char) : Bool :=
  let host := Url.afterLast '@' authority
  let colons := if host.head? == some '[' then 0 else host.count ':'
  !host.isEmpty && colons ≤ 1 && !host.contains '%'

/-- Where a resolved reference leads. Without an authority it leads nowhere; it still counts
as an answer if it cannot even be taken for a host. -/
def redirectionTo (reference : Url.Reference) : Redirection :=
  let text := reference.letters
  match reference.scheme, reference.authority with
  | some _, some authority =>
      if !isUsableAuthority authority || maxAddressLength < text.length then .absent
      else
        match Url.ofString? (String.ofList text) with
        | none => .impossible
        | some url =>
            let path := if reference.path.isEmpty then ['/'] else reference.path
            let query := reference.query.elim [] ('?' :: ·)
            .moved { Address.ofUrl url with authority := authority, target := path ++ query }
  | _, _ =>
      if text.any ['/', '?', '#'].contains || !isUsableAuthority text then .absent
      else .impossible

/-- What a client at an address makes of a response. A location that is not a proper
reference is as good as none. -/
def redirection (address : Address) (response : Response) : Redirection :=
  if !isRedirect response.status then .absent
  else
    match response.header? "location" with
    | none => .absent
    | some location =>
        match Url.Reference.ofList? address.letters, Url.Reference.ofList? location.toList with
        | some base, some reference => redirectionTo (base.resolve reference)
        | _, _ => .absent

/-- How often a client lets itself be sent on. -/
def maxRedirects : Nat := 10

/-- Something that brings requests to servers; `none` is an exchange that failed. -/
abbrev Transport (m : Type → Type) := Request → m (Option Response)

variable {m : Type → Type} [Monad m]

/-- What a client makes of a reply from an address, if it asks in some way at the address
that it is sent on to. -/
def proceed (further : Address → m (Option Response)) (address : Address) :
    Option Response → m (Option Response)
  | none => return none
  | some response =>
      match redirection address response with
      | .absent => return some response
      | .impossible => return none
      | .moved next => further next

/-- Ask at an address and follow where servers send the client, a limited number of
times. -/
def follow (transport : Transport m) (userAgent : String) :
    (remaining : Nat) → Address → m (Option Response)
  | 0, address => do
      proceed (fun _ => return none) address (← transport ⟨address, userAgent⟩)
  | remaining + 1, address => do
      proceed (follow transport userAgent remaining) address (← transport ⟨address, userAgent⟩)

def ask (transport : Transport m) (userAgent url : String) : m (Option Response) :=
  match Address.ofString? url with
  | none => return none
  | some address => follow transport userAgent maxRedirects address

/-- Whether a program can call itself by a name in requests: it has no control characters
but tabs. -/
def isUserAgent (name : String) : Bool :=
  name.toList.all fun character =>
    character == '\t' || (0x20 ≤ character.toNat && character.toNat != 0x7f)

end SelfUpdate.Http
