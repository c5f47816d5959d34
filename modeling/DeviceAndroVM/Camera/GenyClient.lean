import DeviceAndroVM.Library.CString

/-!
# Queries to the camera service

`GenyClient.cpp`: a query is sent over one TCP connection and its reply read back.  The
reply is a header of eight hexadecimal digits, the size of the payload, and the payload.
Every byte on its way is paired with the query it replies to.

* `GenyClient` — the connection, the query in progress, and what came of the others.
* `doQuery` — sends a query.
* `readHeader`, `readPayload` — the two kinds of `read` in `receiveMessage`.
* `serviceReply` — the service answers the oldest query.
* `ReadResult` — what a `read` brings: any segment of the bytes that are on their way,
  an error, or the end of the connection.
-/

namespace DeviceAndroVM
namespace Camera

open Library

/-- The result of `read`; a timeout is an error. -/
inductive ReadResult
  | bytes (count : Nat)
  | failed
  | closed
  deriving DecidableEq

/-- Why `doQuery` returned an error. -/
inductive Failure
  | invalidQuery
  | notConnected
  | notSent
  | headerNotRead
  | shortHeader
  | payloadSize
  | allocation
  | payloadNotRead
  deriving DecidableEq

/-- What `receiveMessage` gave for a query: the data, or an error. -/
inductive QueryOutcome
  | received (data : List (Nat × UInt8))
  | failed (why : Failure)
  deriving DecidableEq

/-- Where `doQuery` stands: before the header is read, or in the loop that reads the
payload. -/
inductive QueryPhase
  | idle
  | header (query : Nat)
  | payload (query payload_size : Nat) (data : List (Nat × UInt8))
  deriving DecidableEq

/-- One connection.  Queries are numbered as they are made; the service still has to
answer those in `pending`, and `stream` is what it has sent and nobody has read. -/
structure GenyClient where
  connected : Bool
  phase : QueryPhase
  queries : Nat
  pending : List Nat
  stream : List (Nat × UInt8)
  replies : List (Nat × List UInt8)
  results : List (Nat × QueryOutcome)
  deriving DecidableEq

namespace GenyClient

/-- The client after `connectClient`. -/
def connectedClient : GenyClient := ⟨true, .idle, 0, [], [], [], []⟩

/-- The query is completed. -/
def complete (c : GenyClient) (query : Nat) (outcome : QueryOutcome) : GenyClient :=
  { c with phase := .idle, results := (query, outcome) :: c.results }

/-- `valid` is whether the query could be constructed, `sent` whether `send` took all of
it; the service answers only a query that it has got in whole. -/
def doQuery (c : GenyClient) (valid sent : Bool) : Option GenyClient :=
  match c.phase with
  | .idle =>
      let query := c.queries
      let c := { c with queries := query + 1 }
      if !valid then some (c.complete query (.failed .invalidQuery))
      else if !c.connected then some (c.complete query (.failed .notConnected))
      else if !sent then some (c.complete query (.failed .notSent))
      else some { c with phase := .header query, pending := c.pending ++ [query] }
  | _ => none

/-- The first `read` of `receiveMessage`, and `malloc`.  The size is a `size_t` of 32
bits. -/
def readHeader (c : GenyClient) (query : Nat) (res : ReadResult) (allocated : Bool) :
    Option GenyClient :=
  match res with
  | .bytes count =>
      if 0 < count ∧ count ≤ 8 ∧ count ≤ c.stream.length then
        let payload_size_str := (c.stream.take count).map Prod.snd
        let c := { c with stream := c.stream.drop count }
        if count ≠ 8 then some (c.complete query (.failed .shortHeader))
        else
          let (payload_size, erange) := CString.strtolHex payload_size_str
          if erange then some (c.complete query (.failed .payloadSize))
          else if !allocated then some (c.complete query (.failed .allocation))
          else some { c with phase := .payload query (payload_size % 0x100000000).toNat [] }
      else none
  | .failed => some (c.complete query (.failed .headerNotRead))
  | .closed => if c.stream = [] then some (c.complete query (.failed .headerNotRead)) else none

/-- A `read` of the loop in `receiveMessage`; asking for no bytes brings none. -/
def readPayload (c : GenyClient) (query payload_size : Nat) (data : List (Nat × UInt8))
    (res : ReadResult) : Option GenyClient :=
  let ended :=
    if data.length ≠ payload_size then c.complete query (.failed .payloadNotRead)
    else c.complete query (.received data)
  match res with
  | .bytes count =>
      if 0 < count ∧ count ≤ payload_size - data.length ∧ count ≤ c.stream.length then
        let data := data ++ c.stream.take count
        let c := { c with stream := c.stream.drop count }
        if data.length = payload_size then some (c.complete query (.received data))
        else some { c with phase := .payload query payload_size data }
      else none
  | .failed => some ended
  | .closed => if c.stream = [] ∨ data.length = payload_size then some ended else none

def read (c : GenyClient) (res : ReadResult) (allocated : Bool) : Option GenyClient :=
  match c.phase with
  | .idle => none
  | .header query => c.readHeader query res allocated
  | .payload query payload_size data => c.readPayload query payload_size data res

/-- A reply of the service: the header, and a payload of the size it gives. -/
def WellFormedReply (header payload : List UInt8) : Prop :=
  (header.length = 8 ∧ ∀ digit ∈ header, CString.isxdigit digit) ∧
    CString.hexValue header = payload.length ∧ 3 ≤ payload.length ∧ payload.length < 0x80000000

instance (header payload : List UInt8) : Decidable (WellFormedReply header payload) :=
  have : Decidable (∀ digit ∈ header, CString.isxdigit digit) := List.decidableBAll _ header
  inferInstanceAs (Decidable (_ ∧ _))

/-- The bytes of a reply. -/
def frame (query : Nat) (header payload : List UInt8) : List (Nat × UInt8) :=
  (header ++ payload).map fun byte => (query, byte)

/-- The service answers the oldest query, at a time of its own. -/
def serviceReply (c : GenyClient) (header payload : List UInt8) : Option GenyClient :=
  match c.pending with
  | [] => none
  | query :: rest =>
      if WellFormedReply header payload then
        some { c with
          pending := rest
          stream := c.stream ++ frame query header payload
          replies := (query, payload) :: c.replies }
      else none

/-- Closes the socket: what was on its way is gone. -/
def disconnectClient (c : GenyClient) : Option GenyClient :=
  match c.phase with
  | .idle => some { c with connected := false, pending := [], stream := [] }
  | _ => none

/-- The steps of the client and of the service. -/
inductive Step
  | doQuery (valid sent : Bool)
  | read (res : ReadResult) (allocated : Bool)
  | serviceReply (header payload : List UInt8)
  | disconnectClient
  deriving DecidableEq

def run (c : GenyClient) : Step → Option GenyClient
  | .doQuery valid sent => c.doQuery valid sent
  | .read res allocated => c.read res allocated
  | .serviceReply header payload => c.serviceReply header payload
  | .disconnectClient => c.disconnectClient

end GenyClient
end Camera
end DeviceAndroVM
