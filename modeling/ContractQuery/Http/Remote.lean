import ContractQuery.Client.Session
import ContractQuery.Http.Url
import ContractQuery.Text.Utf8

/-!
# Nodes reached over HTTP

A `Remote` is a node at an address. As a transport it sends one request for each path, and makes of
what comes back either a body or an error.

* `Settings.build` checks that the name the client gives itself can be sent; the base address loses
  the slashes at its end.
* `Exchange` is what becomes of a request on the network; the network itself is a parameter.
* `Exchange.reply` classifies it. Success (status 200 to 299) gives the body as it is, whatever it
  says. Any other status gives the node's errors if the body is a list of them that is not empty,
  and else the status with the body.
-/

namespace ContractQuery

namespace Http

open Client (Event Reply Transport)

/-! ## 1. Remotes -/

/-- What a remote is made from. -/
structure Settings where
  url : String
  /-- The time a request may take, in milliseconds. -/
  timeout : Option Nat
  /-- The name the client gives itself. -/
  userAgent : Option String

/-- A node at an address. -/
structure Remote where
  /-- The address without slashes at its end. -/
  baseUrl : String
  timeout : Option Nat
  userAgent : Option String

/-- The character can be sent in a header: it is a tab or no control. -/
def isHeaderChar (c : Char) : Bool := c = '\t' || (0x20 ≤ c.toNat && c.toNat ≠ 0x7f)

/-- The remote of the settings. -/
def Settings.build (s : Settings) : Except ClientError Remote :=
  match s.userAgent with
  | some name =>
    if name.toList.all isHeaderChar then .ok ⟨Url.base s.url, s.timeout, some name⟩
    else .error (.exchange .badRequest)
  | none => .ok ⟨Url.base s.url, s.timeout, none⟩

/-- The node at an address, without a limit of time or a name. -/
def Remote.at (url : String) : Remote := ⟨Url.base url, none, none⟩

/-- The node at an address, asked by a client with its own limit of time and its own name. -/
def Remote.askedBy (timeout : Option Nat) (userAgent : Option String) (url : String) : Remote :=
  ⟨Url.base url, timeout, userAgent⟩

/-- A public node of the main network. -/
def Remote.mainnet : Remote := .at "https://rpc.tzbeta.net"

/-- A public node of the test network. -/
def Remote.ghostnet : Remote := .at "https://rpc.ghostnet.teztnets.com"

/-- A node on this machine. -/
def Remote.localhost : Remote := .at "http://localhost:8732"

/-- The address of a path. -/
def Remote.url (remote : Remote) (path : String) : String := Url.join remote.baseUrl path

/-! ## 2. Exchanges -/

/-- A request as it is sent. -/
structure Request where
  url : String
  userAgent : Option String

/-- The first line of a request. -/
def Request.line (r : Request) : String := "GET " ++ r.url

/-- What becomes of a request on the network. -/
inductive Exchange
  /-- There is no way to the node. -/
  | unreachable
  /-- The connection ends before the response does. -/
  | cut
  /-- Nothing comes. -/
  | silent
  | response (code : Nat) (body : List UInt8)

/-- A network: from a request, and from its own state, to what becomes of the request. -/
abbrev Network (σ : Type) := Request → σ → Exchange × σ

/-! ## 3. Replies -/

/-- The status of a success. -/
def isSuccess (code : Nat) : Bool := 200 ≤ code && code ≤ 299

/-- The error of a response without success. -/
def refusal (code : Nat) (body : String) : ClientError :=
  match Body.decode Body.nodeErrors body with
  | .ok (e :: es) => .node code (e :: es)
  | _ => .status code body

/-- What an exchange comes to, and the events logged after the request. -/
def Exchange.reply (timeout : Option Nat) (url : String) : Exchange → Reply × List Event
  | .unreachable => (.failed (.exchange .broken), [])
  | .cut => (.failed (.exchange .broken), [])
  | .silent => (if timeout.isSome then .failed (.exchange .timedOut) else .never, [])
  | .response code bytes =>
    let body := Utf8.decodeLossy bytes
    if isSuccess code then (.body body, [])
    else (.failed (refusal code body), [.refused url code])

/-- A remote as a transport. To an address that cannot be used no request is sent. -/
def Remote.transport {σ : Type} (remote : Remote) (network : Network σ) : Transport σ :=
  fun path s =>
    let url := remote.url path
    if Url.isUsable url then
      let (exchange, s) := network ⟨url, remote.userAgent⟩ s
      let (reply, events) := exchange.reply remote.timeout url
      (reply, .request url :: events, s)
    else (.failed (.exchange .badRequest), [.request url], s)

end Http

end ContractQuery
