import Checkout.Baggage
import Checkout.Text.Hex

/-!
# Trace contexts

The identity of the current span within a distributed trace, as the `traceparent` header carries
it, and the trace's baggage.  The same two headers are used for every transport.
-/

set_option autoImplicit false

namespace Checkout

structure TraceId where
  value : Nat
  pos : 0 < value
  lt : value < Nat.pow 2 128
deriving DecidableEq

structure SpanId where
  value : Nat
  pos : 0 < value
  lt : value < Nat.pow 2 64
deriving DecidableEq

def TraceId.ofNat? (value : Nat) : Option TraceId :=
  if fits : 0 < value ∧ value < Nat.pow 2 128 then some ⟨value, fits.1, fits.2⟩ else none

def SpanId.ofNat? (value : Nat) : Option SpanId :=
  if fits : 0 < value ∧ value < Nat.pow 2 64 then some ⟨value, fits.1, fits.2⟩ else none

def SpanId.nth (index : Nat) : SpanId :=
  ⟨index % (Nat.pow 2 64 - 1) + 1, Nat.succ_pos _,
    Nat.add_lt_of_lt_sub (Nat.mod_lt index (by decide))⟩

def TraceId.text (id : TraceId) : String :=
  String.ofList (Text.hexDigits 32 id.value)

def SpanId.text (id : SpanId) : String :=
  String.ofList (Text.hexDigits 16 id.value)

structure TraceContext where
  traceId : TraceId
  spanId : SpanId
  flags : UInt8
  baggage : Baggage
deriving DecidableEq

namespace TraceContext

def parentHeader : String := "traceparent"

def baggageHeader : String := "baggage"

def sampledFlag : UInt8 := 1

def root (traceId : TraceId) (spanId : SpanId) : TraceContext :=
  ⟨traceId, spanId, sampledFlag, Baggage.empty⟩

def child (context : TraceContext) (spanId : SpanId) : TraceContext :=
  { context with spanId }

def withBaggage (context : TraceContext) (key value : String) : TraceContext :=
  { context with baggage := context.baggage.insert key value }

def isSampled (context : TraceContext) : Bool :=
  context.flags &&& sampledFlag != 0

def parent (context : TraceContext) : String :=
  "00-" ++ context.traceId.text ++ "-" ++ context.spanId.text ++ "-"
    ++ String.ofList (Text.hexDigits 2 context.flags.toNat)

/-- The headers that carry a context.  There is no baggage header without baggage. -/
def headers (context : TraceContext) : List (String × String) :=
  (parentHeader, context.parent)
    :: if context.baggage.entries.isEmpty then []
       else [(baggageHeader, context.baggage.header)]

/-- The ids and flags that four parts of a `traceparent` header name. -/
def ofParts? (version traceId spanId flags : List Char) :
    Option (TraceId × SpanId × UInt8) :=
  if Text.byteLength version = 2 ∧ version ≠ ['f', 'f'] ∧ Text.byteLength traceId = 32
      ∧ Text.byteLength spanId = 16 ∧ Text.byteLength flags = 2 then do
    let trace ← Text.readHex? traceId
    let span ← Text.readHex? spanId
    let bits ← Text.readHex? flags
    let traceId ← TraceId.ofNat? trace
    let spanId ← SpanId.ofNat? span
    pure (traceId, spanId, UInt8.ofNat bits)
  else none

/-- Reads a `traceparent` header.  Version zero has exactly four parts, other versions have at
least four. -/
def readParent? (value : String) : Option (TraceId × SpanId × UInt8) :=
  match Text.fields '-' (Text.trimList value.toList) with
  | version :: traceId :: spanId :: flags :: rest =>
    if version = ['0', '0'] ∧ ¬ rest.isEmpty then none
    else ofParts? version traceId spanId flags
  | _ => none

def extract? (header : String → Option String) : Option TraceContext := do
  let value ← header parentHeader
  let (traceId, spanId, flags) ← readParent? value
  pure ⟨traceId, spanId, flags, ((header baggageHeader).map Baggage.ofHeader).getD Baggage.empty⟩

def extractOr (fresh : TraceContext) (header : String → Option String) : TraceContext :=
  (extract? header).getD fresh

end TraceContext

def headerValue? (headers : List (String × String)) (name : String) : Option String :=
  (headers.find? fun (key, _) => key == name).map Prod.snd

end Checkout
