import Checkout.Http.Message
import Checkout.Json.Decode
import Checkout.Saga.Run
import Checkout.Url.Basic

/-!
# Calls over HTTP

A call to a collaborator is one request under the collaborator's base URL: a method, path segments
and perhaps JSON content.  Each request carries a new span of the caller's trace.  The request is
built or fails before anything is sent; the network's reply is then understood as the answer.
-/

set_option autoImplicit false

namespace Checkout.Http

structure Sent where
  method : String
  url : Url
  content : Option String
  headers : List (String × String)
deriving DecidableEq

def Sent.target (sent : Sent) : String :=
  sent.url.path.text ++ sent.url.queryText

/-- Something that comes after some time, or never. -/
inductive Coming (α : Type) where
  | never
  | after (time : Nat) (value : α)

/-- What somebody gets who gives up when his time is over, and when he gets it or gives up. -/
def Coming.within {α : Type} (left : Option Nat) : Coming α → Option Nat × Option α
  | .never => (left, none)
  | .after time value => if left.all (time < ·) then (some time, some value) else (left, none)

/-- A response, from its first line on: its content still has to come, unless the connection breaks
off.  The response says how its content is written where this is a text. -/
structure Incoming where
  status : Nat
  read : List UInt8 → String
  content : Coming (Option (List UInt8))

/-- What becomes of a request that is sent: a response, or a connection that is refused or lost. -/
abbrev Reply := Coming (Option Incoming)

/-- What a call makes of the content of a successful response. -/
inductive Reading (α : Type) where
  | ignored (answer : α)
  | json (decoder : Json.Decoder α)

/-- A call that expects an answer of type `α`: its request, and how it is answered. -/
structure Exchange (α : Type) where
  method : String
  segments : List String
  content : Option Json
  reading : Reading α

namespace Exchange

def get {α : Type} (segments : List String) (decoder : Json.Decoder α) : Exchange α :=
  ⟨"GET", segments, none, .json decoder⟩

def post {α : Type} (segments : List String) (content : Json) (decoder : Json.Decoder α) :
    Exchange α :=
  ⟨"POST", segments, some content, .json decoder⟩

def tell (segments : List String) (content : Json) : Exchange Unit :=
  ⟨"POST", segments, some content, .ignored ()⟩

def delete (segments : List String) : Exchange Unit :=
  ⟨"DELETE", segments, none, .ignored ()⟩

end Exchange

def urlUnder (base : String) (segments : List String) : Except ServiceError Url :=
  match Url.parse? base with
  | some url => .ok (url.extend segments)
  | none => .error (.transport ("invalid base url " ++ base))

/-- Whether a text can be the value of a header: no control characters but tabs. -/
def isHeaderValue (value : String) : Bool :=
  value.toList.all fun c => c == '\t' || (32 ≤ c.toNat && c.toNat != 127)

/-- A text about a URL; user and password are not told. -/
def aboutUrl (text : String) (url : Url) : String :=
  text ++ " for url (" ++ url.withoutUser.text ++ ")"

def requestHeaders (content : Option Json) (trace : TraceContext) : List (String × String) :=
  (if content.isSome then [("content-type", "application/json")] else []) ++ trace.headers

/-- The request of a call, on behalf of a caller, with a new span.  A URL without a host fails before
the headers do, a scheme other than those of HTTP after them. -/
def build {α : Type} (base : String) (exchange : Exchange α) (caller : Caller) (span : SpanId) :
    Except ServiceError Sent := do
  let url ← urlUnder base exchange.segments
  match caller.life.error? caller.now with
  | some error => throw (.context error)
  | none => pure ()
  let headers := requestHeaders exchange.content (caller.trace.child span)
  if url.host.all Url.Host.isEmpty then
    throw (.transport (aboutUrl "builder error" url))
  else if ! headers.all fun (_, value) => isHeaderValue value then
    throw (.transport "builder error")
  else if url.scheme ≠ "http" ∧ url.scheme ≠ "https" then
    throw (.transport (aboutUrl "builder error" url))
  else pure ⟨exchange.method, url, exchange.content.map Json.text, headers⟩

def readContent {α : Type} (decoder : Json.Decoder α) (content : Option (List UInt8)) :
    Except ServiceError α :=
  let fault : ServiceError := .invalidResponse "error decoding response body"
  match content with
  | some bytes => (Json.decodeBytes decoder bytes).mapError fun _ => fault
  | none => .error fault

/-- The answer that a response stands for, and the time until it is known.  A refusal is told in the
words of its content, if this comes. -/
def understand {α : Type} (reading : Reading α) (left : Option Nat) (incoming : Incoming) :
    Option Nat × Except ServiceError α :=
  let (time, content) := incoming.content.within left
  if isSuccess incoming.status then
    match reading with
    | .ignored answer => (some 0, .ok answer)
    | .json decoder => (time, readContent decoder content.join)
  else (time, .error (.status incoming.status (content.join.elim "" incoming.read)))

def sendFailure (url : Url) : String :=
  aboutUrl "error sending request" url

def timeLeft (caller : Caller) : Option Nat :=
  caller.life.deadline.map (· - caller.now)

def conclude {α : Type} (exchange : Exchange α) (caller : Caller) (sent : Sent) (reply : Reply) :
    Option Nat × Except ServiceError α :=
  match reply.within (timeLeft caller) with
  | (time, none) => (time, .error (.transport ("timed out: " ++ sendFailure sent.url)))
  | (time, some none) => (time, .error (.transport (sendFailure sent.url)))
  | (time, some (some incoming)) =>
    let spent := time.getD 0
    let (more, answer) := understand exchange.reading ((timeLeft caller).map (· - spent)) incoming
    (more.map (spent + ·), answer)

/-- What a service finds around itself: a network, randomness, and a broker. -/
structure Surroundings (σ : Type) where
  exchange : Sent → σ → Reply × σ
  digits : σ → (Nat → Fin 16) × σ
  span : σ → SpanId × σ
  send : Envelope → σ → Delivery × σ

def perform {σ α : Type} (around : Surroundings σ) (base : String) (exchange : Exchange α)
    (caller : Caller) (world : σ) : Reaction σ (Except ServiceError α) :=
  let (span, world) := around.span world
  match build base exchange caller span with
  | .error error => .immediate world fun world => (.error error, world)
  | .ok sent =>
    let (reply, world) := around.exchange sent world
    let (delay, answer) := conclude exchange caller sent reply
    ⟨world, false, delay, fun world => (answer, world)⟩

end Checkout.Http
