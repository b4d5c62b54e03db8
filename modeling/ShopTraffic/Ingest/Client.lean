import ShopTraffic.Ingest.Address
import ShopTraffic.Stream.Delivery

/-!
# The ingest client

A batch is posted as a JSON array of event records; the query names the app, the compression and the
delivery number, and for the batch of one user also the platform and an address to attribute it to.

* `Parameters` — the query; `Request` — what is posted;
* `Client.ofEndpoint` — a client for an endpoint of a known scheme;
* `Client.answer` — what a status means; `Client.sink` — a client as the far end of deliveries.
-/

namespace ShopTraffic.Ingest

/-- An endpoint that no client can post to. -/
structure EndpointError where
  endpoint : String
  deriving DecidableEq, Repr

def EndpointError.message (e : EndpointError) : String := s!"Invalid endpoint `{e.endpoint}`"

/-- The parameters of a request. -/
structure Parameters where
  platform : Option String
  appId : String
  compression : String
  address : Option String
  number : Nat
  deriving DecidableEq, Repr

namespace Parameters

/-- The parameters of a batch sent under a number. -/
def ofBatch (appId : String) (gzip : Bool) (number : Nat) (owner : Option User) : Parameters :=
  { platform := owner.map (·.platform.name), appId, compression := if gzip then "gzip" else ""
    address := owner.map (·.device.address), number }

/-- Named values in order; those that do not apply are left out. -/
def members (p : Parameters) : List (String × Json) :=
  (p.platform.map fun v => ("platform", Json.str v)).toList ++
    [("appId", .str p.appId), ("compression", .str p.compression)] ++
    (p.address.map fun v => ("fakeIp", Json.str v)).toList ++
    [("event_bundle_sequence_id", .nat p.number)]

/-- The parameters as a query. -/
def query (p : Parameters) : String :=
  "&".intercalate <| p.members.map fun (name, value) =>
    let value := match value with
      | .str s => s
      | other => other.text
    Text.formEncoded name ++ "=" ++ Text.formEncoded value

end Parameters

/-- What is posted to the endpoint. The body is shown before compression. -/
structure Request where
  address : Address
  contentType : String
  body : String
  deriving DecidableEq, Repr

/-- Posts batches to an endpoint. -/
structure Client where
  endpoint : String
  appId : String
  gzip : Bool := false
  deriving DecidableEq, Repr

namespace Client

/-- A client for an endpoint whose text begins with a known scheme, in lower case. -/
def ofEndpoint (endpoint appId : String) : Except EndpointError Client :=
  if endpoint.startsWith "http://" || endpoint.startsWith "https://" then .ok { endpoint, appId }
  else .error ⟨endpoint⟩

/-- The request of a batch; none where the endpoint is no address, or too long a one. -/
def request? (c : Client) (number : Nat) (batch : Batch) : Option Request := do
  let endpoint ← Address.read? c.endpoint
  let address := endpoint.withQuery (Parameters.ofBatch c.appId c.gzip number batch.owner).query
  if Address.maxLength < address.text.utf8ByteSize then none
  else return {
    address, contentType := "application/json"
    body := (Json.arr (batch.events.map Event.record)).text }

/-- Whether a status ends an exchange: it has three digits and does more than announce another
response, as all below 200 do but the one that changes the protocol. -/
def isFinal (status : Nat) : Bool := status = 101 || (200 ≤ status && status ≤ 999)

/-- What the status of a response means. -/
def answer (status : Nat) : Except DeliveryError Unit :=
  if !isFinal status then .error (.request "error sending request")
  else if 200 ≤ status ∧ status < 300 then .ok ()
  else .error (.status status)

/-- A client whose requests are answered by `exchange` with a status, or not at all. -/
def sink (c : Client) (exchange : Request → Option Nat) : Sink :=
  { answer := fun number batch =>
      match c.request? number batch with
      | none => .error (.request "builder error")
      | some request =>
        match exchange request with
        | none => .error (.request "error sending request")
        | some status => answer status }

end Client

end ShopTraffic.Ingest
