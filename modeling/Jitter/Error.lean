import Jitter.Decimal.Layout
import Jitter.Json.Complaint
import Jitter.Timebase

/-! What an operation is refused for, and how it is told. -/

namespace Jitter

inductive IoError where
  | system (text : String) (number : Nat)
  | denied (text : String)
  deriving DecidableEq, Repr

namespace IoError

def notPermitted : IoError := system "Operation not permitted" 1

def notFound : IoError := system "No such file or directory" 2

def accessDenied : IoError := system "Permission denied" 13

def notDirectory : IoError := system "Not a directory" 20

def isDirectory : IoError := system "Is a directory" 21

def invalidArgument : IoError := system "Invalid argument" 22

def noSpace : IoError := system "No space left on device" 28

def readOnly : IoError := system "Read-only file system" 30

def nameTooLong : IoError := system "File name too long" 36

def unsupported : IoError := system "Function not implemented" 38

def message : IoError → String
  | system text number => text ++ " (os error " ++ toString number ++ ")"
  | denied text => text

def systemKind : Nat → String
  | 1 | 13 => "PermissionDenied"
  | 2 => "NotFound"
  | 17 => "AlreadyExists"
  | 20 => "NotADirectory"
  | 21 => "IsADirectory"
  | 22 => "InvalidInput"
  | 28 => "StorageFull"
  | 30 => "ReadOnlyFilesystem"
  | 36 => "InvalidFilename"
  | 38 => "Unsupported"
  | _ => "Uncategorized"

def inspected : IoError → String
  | system text number =>
    "Os \x7b code: " ++ toString number ++ ", kind: " ++ systemKind number ++ ", message: " ++
      Text.quoted text ++ " \x7d"
  | denied text => "Custom \x7b kind: PermissionDenied, error: " ++ Text.quoted text ++ " \x7d"

end IoError

inductive Error where
  | bucketCountMismatch (expected found : Nat)
  | bufferExhausted (capacity needed : Nat)
  | timebaseUnavailable (timebase : Timebase)
  | notCalibrated (what : String)
  | invalidPercentile (percentile : Float)
  | invalidConfig (text : String)
  | io (cause : IoError)
  | json (cause : Json.Complaint)
  deriving DecidableEq, Repr

namespace Error

def kind : Error → String
  | bucketCountMismatch _ _ => "BucketCountMismatch"
  | bufferExhausted _ _ => "BufferExhausted"
  | timebaseUnavailable _ => "TimebaseUnavailable"
  | notCalibrated _ => "NotCalibrated"
  | invalidPercentile _ => "InvalidPercentile"
  | invalidConfig _ => "InvalidConfig"
  | io _ => "Io"
  | json _ => "Json"

def message : Error → String
  | bucketCountMismatch expected found =>
    "histogram already sized for " ++ toString expected ++ " buckets, re-init requested " ++
      toString found
  | bufferExhausted capacity needed =>
    "report buffer exhausted: " ++ toString needed ++ " bytes needed, capacity is " ++
      toString capacity
  | timebaseUnavailable timebase =>
    "timebase " ++ timebase.name ++ " is not available on this host"
  | notCalibrated what => "instrument not calibrated: " ++ what
  | invalidPercentile percentile =>
    "percentile must be in (0, 100], got " ++ Decimal.plain.text percentile
  | invalidConfig text => "invalid configuration: " ++ text
  | io cause => "IO error: " ++ cause.message
  | json cause => "JSON error: " ++ cause.message

def source : Error → Option String
  | io cause => some cause.message
  | json cause => some cause.message
  | _ => none

def detail : Error → String
  | bucketCountMismatch expected found =>
    " \x7b expected: " ++ toString expected ++ ", found: " ++ toString found ++ " \x7d"
  | bufferExhausted capacity needed =>
    " \x7b capacity: " ++ toString capacity ++ ", needed: " ++ toString needed ++ " \x7d"
  | timebaseUnavailable timebase => "(" ++ timebase.label ++ ")"
  | notCalibrated what => "(" ++ Text.quoted what ++ ")"
  | invalidPercentile percentile => "(" ++ Decimal.inspected.text percentile ++ ")"
  | invalidConfig text => "(" ++ Text.quoted text ++ ")"
  | io cause => "(" ++ cause.inspected ++ ")"
  | json cause => "(" ++ cause.inspected ++ ")"

def inspected (e : Error) : String := e.kind ++ e.detail

end Error

end Jitter
