/-!
# Kinds of calls

Whether the caller and the callee send one value or a stream.
-/

namespace RpcStubs

inductive CallKind where
  | unary
  | clientStream
  | serverStream
  | bidiStream
  deriving DecidableEq, Repr

namespace CallKind

def all : List CallKind := [unary, clientStream, serverStream, bidiStream]

/-- The method marker that selects the kind. -/
def markerName : CallKind → String
  | unary => "unary"
  | clientStream => "client_stream"
  | serverStream => "server_stream"
  | bidiStream => "bidi_stream"

def ofMarker? (name : String) : Option CallKind := all.find? (·.markerName = name)

def name : CallKind → String
  | unary => "Unary"
  | clientStream => "ClientStream"
  | serverStream => "ServerStream"
  | bidiStream => "BidiStream"

/-- A call that ends with a single value is asynchronous. The others hand back a stream at
once. -/
def mustSuspend : CallKind → Bool
  | unary | clientStream => true
  | serverStream | bidiStream => false

/-- Does the caller send a stream of requests? -/
def streamsRequests : CallKind → Bool
  | clientStream | bidiStream => true
  | unary | serverStream => false

/-- Does the callee send a stream of responses? -/
def streamsResponses (kind : CallKind) : Bool := !kind.mustSuspend

end CallKind

end RpcStubs
