import RpcStubs.Declaration
import RpcStubs.Error

/-!
# Request shapes

How the parameters of a method are carried by one request value.
-/

namespace RpcStubs

/-- Nothing, one parameter, or a record of several. For a streamed request the type is that of
the stream's elements. -/
inductive RequestShape where
  | none
  | single (name : String) (type : TypeRef)
  | composite (params : List Parameter) (wrapper : String)
  deriving DecidableEq, Repr

namespace RequestShape

/-- Upper camel case. -/
def capitalize (name : String) : String := Text.pascalCase name

/-- The record made for a method with several parameters. -/
def wrapperName (method : String) : String := capitalize method ++ "Request"

/-- The shape of a parameter list. A streamed request has exactly one parameter, a stream. -/
def resolve (method : String) (params : List Parameter) (streamed : Bool) :
    Except RequestError RequestShape :=
  match params, streamed with
  | [], true => .error .missingStream
  | [], false => .ok .none
  | [p], true =>
    match p.type.streamElement? with
    | some element => .ok (.single p.name element)
    | Option.none => .error (.notStream p.type)
  | [p], false => .ok (.single p.name p.type)
  | ps, true => .error (.severalStreams ps.length)
  | ps, false => .ok (.composite ps (wrapperName method))

/-- The type of the request value. -/
def type : RequestShape → TypeRef
  | none => TypeRef.unit
  | single _ type => type
  | composite _ wrapper => TypeRef.named wrapper

/-- The record's name, if the parameters are put into one. -/
def wrapper? : RequestShape → Option String
  | composite _ wrapper => some wrapper
  | _ => Option.none

end RequestShape

end RpcStubs
