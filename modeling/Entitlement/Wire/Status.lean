import Entitlement.Wire.Detail

/-! # Replies that report a fault

A remote call that fails is answered with a code, a message for people, and details.
Only the details tell which fault it was. -/

namespace Entitlement.Wire

inductive Code where
  | ok
  | cancelled
  | unknown
  | invalidArgument
  | deadlineExceeded
  | notFound
  | alreadyExists
  | permissionDenied
  | resourceExhausted
  | failedPrecondition
  | aborted
  | outOfRange
  | unimplemented
  | internal
  | unavailable
  | dataLoss
  | unauthenticated
deriving DecidableEq

namespace Code

def all : List Code :=
  [ok, cancelled, unknown, invalidArgument, deadlineExceeded, notFound, alreadyExists,
    permissionDenied, resourceExhausted, failedPrecondition, aborted, outOfRange, unimplemented,
    internal, unavailable, dataLoss, unauthenticated]

def number (code : Code) : Nat := all.idxOf code

def ofNumber (number : Int) : Code :=
  if 0 ≤ number then (all[number.toNat]?).getD unknown else unknown

def name : Code → String
  | ok => "Ok"
  | cancelled => "Cancelled"
  | unknown => "Unknown"
  | invalidArgument => "InvalidArgument"
  | deadlineExceeded => "DeadlineExceeded"
  | notFound => "NotFound"
  | alreadyExists => "AlreadyExists"
  | permissionDenied => "PermissionDenied"
  | resourceExhausted => "ResourceExhausted"
  | failedPrecondition => "FailedPrecondition"
  | aborted => "Aborted"
  | outOfRange => "OutOfRange"
  | unimplemented => "Unimplemented"
  | internal => "Internal"
  | unavailable => "Unavailable"
  | dataLoss => "DataLoss"
  | unauthenticated => "Unauthenticated"

def ofFault : Fault → Code
  | .server _ => internal
  | .notFound _ _ | .noRows _ => notFound
  | .roleExists _ => alreadyExists
  | .notDeletable _ _ => failedPrecondition
  | .invalidBody _ _ => invalidArgument
  | .inactive _ | .unverified _ | .banned _ => permissionDenied

end Code

structure Status where
  code : Code
  message : String
  details : Bytes
deriving DecidableEq

namespace Status

def ofFault (fault : Fault) : Status :=
  ⟨.ofFault fault, fault.message, (Detail.ofFault fault).write⟩

/-- The fault that an answer reports. Without readable details it is a technical
failure, whatever the code and the message. -/
def fault (status : Status) : Fault :=
  if status.details = [] then .remote
  else
    match Detail.read? status.details with
    | some detail => detail.fault
    | none => .remote

end Status
end Entitlement.Wire
