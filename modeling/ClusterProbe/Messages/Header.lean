import ClusterProbe.Protobuf.Message

/-!
# RPC headers

The messages in front of every request and response body, and the error status that a response
carries in place of a body. Every structure corresponds field by field to its layout.
-/
namespace ClusterProbe

open Protobuf

structure RemoteMethod where
  serviceName : String
  methodName : String
  deriving DecidableEq, Repr

instance : Message RemoteMethod where
  name := "RemoteMethodPb"
  layout := .scalar 1 "service_name" .required .string <|
    .scalar 2 "method_name" .required .string .done
  fields m := (m.serviceName, m.methodName, ())
  build := fun (serviceName, methodName, ()) => { serviceName, methodName }
  build_fields _ := rfl
  fields_build _ := rfl

/-- The header of a request. The timeout is advice to the server. -/
structure RequestHeader where
  callId : Int32
  remoteMethod : Option RemoteMethod
  timeoutMillis : Option UInt32
  deriving DecidableEq, Repr

instance : Message RequestHeader where
  name := "RequestHeader"
  layout := .scalar 1 "call_id" .required .int32 <|
    .embed 2 "remote_method" .optional RemoteMethod <|
    .scalar 3 "timeout_millis" .optional .uint32 .done
  fields m := (m.callId, m.remoteMethod.map Message.fields, m.timeoutMillis, ())
  build := fun (callId, remoteMethod, timeoutMillis, ()) =>
    { callId, remoteMethod := remoteMethod.map Message.build, timeoutMillis }
  build_fields _ := by simp
  fields_build _ := by simp

/-- The header of a response. With `isError` set the body is an error status. -/
structure ResponseHeader where
  callId : Int32
  isError : Option Bool
  sidecarOffsets : List UInt32
  deriving DecidableEq, Repr

instance : Message ResponseHeader where
  name := "ResponseHeader"
  layout := .scalar 1 "call_id" .required .int32 <|
    .scalar 2 "is_error" .optional .bool <|
    .scalar 3 "sidecar_offsets" .repeated .uint32 .done
  fields m := (m.callId, m.isError, m.sidecarOffsets, ())
  build := fun (callId, isError, sidecarOffsets, ()) => { callId, isError, sidecarOffsets }
  build_fields _ := rfl
  fields_build _ := rfl

structure ErrorStatus where
  message : String
  code : Option Int32
  deriving DecidableEq, Repr

instance : Message ErrorStatus where
  name := "ErrorStatusPb"
  layout := .scalar 1 "message" .required .string <|
    .scalar 2 "code" .optional (.enumeration 10) .done
  fields m := (m.message, m.code, ())
  build := fun (message, code, ()) => { message, code }
  build_fields _ := rfl
  fields_build _ := rfl

/-- Error codes of the RPC layer. The fatal ones ask the client to drop the connection. -/
inductive RpcErrorCode where
  | fatalUnknown
  | errorApplication
  | errorNoSuchMethod
  | errorNoSuchService
  | errorServerTooBusy
  | errorInvalidRequest
  | fatalServerShuttingDown
  | fatalDeserializingRequest
  | fatalVersionMismatch
  | fatalUnauthorized
  deriving DecidableEq, Repr

namespace RpcErrorCode

def all : List RpcErrorCode :=
  [fatalUnknown, errorApplication, errorNoSuchMethod, errorNoSuchService, errorServerTooBusy,
    errorInvalidRequest, fatalServerShuttingDown, fatalDeserializingRequest, fatalVersionMismatch,
    fatalUnauthorized]

def number : RpcErrorCode → Int32
  | fatalUnknown => 10
  | errorApplication => 1
  | errorNoSuchMethod => 2
  | errorNoSuchService => 3
  | errorServerTooBusy => 4
  | errorInvalidRequest => 5
  | fatalServerShuttingDown => 11
  | fatalDeserializingRequest => 13
  | fatalVersionMismatch => 14
  | fatalUnauthorized => 15

def name : RpcErrorCode → String
  | fatalUnknown => "FatalUnknown"
  | errorApplication => "ErrorApplication"
  | errorNoSuchMethod => "ErrorNoSuchMethod"
  | errorNoSuchService => "ErrorNoSuchService"
  | errorServerTooBusy => "ErrorServerTooBusy"
  | errorInvalidRequest => "ErrorInvalidRequest"
  | fatalServerShuttingDown => "FatalServerShuttingDown"
  | fatalDeserializingRequest => "FatalDeserializingRequest"
  | fatalVersionMismatch => "FatalVersionMismatch"
  | fatalUnauthorized => "FatalUnauthorized"

def isFatal : RpcErrorCode → Bool
  | fatalUnknown | fatalServerShuttingDown | fatalDeserializingRequest | fatalVersionMismatch
  | fatalUnauthorized => true
  | _ => false

def ofNumber? (n : Int32) : Option RpcErrorCode :=
  all.find? (·.number == n)

/-- The code of a field that may be unset or hold an undeclared number. -/
def ofField (field : Option Int32) : RpcErrorCode :=
  (field.bind ofNumber?).getD fatalUnknown

end RpcErrorCode

/-- A refusal as the caller sees it. -/
structure RpcError where
  code : RpcErrorCode
  text : String
  deriving DecidableEq, Repr

namespace RpcError

def ofStatus (status : ErrorStatus) : RpcError :=
  ⟨RpcErrorCode.ofField status.code, status.message⟩

def message (e : RpcError) : String :=
  s!"remote error {e.code.name}: {e.text}"

end RpcError
end ClusterProbe
