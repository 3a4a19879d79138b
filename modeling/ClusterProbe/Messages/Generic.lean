import ClusterProbe.Messages.Node

/-!
# Messages of the generic service

Requests and responses that every server understands, whatever it serves.
-/
namespace ClusterProbe

open Protobuf

structure PingRequest where
  deriving DecidableEq, Repr

instance : Message PingRequest where
  name := "PingRequestPb"
  layout := .done
  fields _ := ()
  build _ := {}
  build_fields _ := rfl
  fields_build := Layout.eq_of_done

structure PingResponse where
  deriving DecidableEq, Repr

instance : Message PingResponse where
  name := "PingResponsePb"
  layout := .done
  fields _ := ()
  build _ := {}
  build_fields _ := rfl
  fields_build := Layout.eq_of_done

structure GetStatusRequest where
  deriving DecidableEq, Repr

instance : Message GetStatusRequest where
  name := "GetStatusRequestPb"
  layout := .done
  fields _ := ()
  build _ := {}
  build_fields _ := rfl
  fields_build := Layout.eq_of_done

structure GetStatusResponse where
  status : Option ServerStatus
  error : Option AppStatus
  deriving DecidableEq, Repr

instance : Message GetStatusResponse where
  name := "GetStatusResponsePb"
  layout := .embed 1 "status" .optional ServerStatus <| .embed 2 "error" .optional AppStatus .done
  fields m := (m.status.map Message.fields, m.error.map Message.fields, ())
  build := fun (status, error, ()) =>
    { status := status.map Message.build, error := error.map Message.build }
  build_fields _ := by simp
  fields_build _ := by simp

structure GetFlagRequest where
  flag : Option String
  deriving DecidableEq, Repr

instance : Message GetFlagRequest where
  name := "GetFlagRequestPb"
  layout := .scalar 1 "flag" .optional .string .done
  fields m := (m.flag, ())
  build := fun (flag, ()) => { flag }
  build_fields _ := rfl
  fields_build _ := rfl

structure GetFlagResponse where
  valid : Option Bool
  value : Option String
  deriving DecidableEq, Repr

instance : Message GetFlagResponse where
  name := "GetFlagResponsePb"
  layout := .scalar 1 "valid" .optional .bool <| .scalar 2 "value" .optional .string .done
  fields m := (m.valid, m.value, ())
  build := fun (valid, value, ()) => { valid, value }
  build_fields _ := rfl
  fields_build _ := rfl

end ClusterProbe
