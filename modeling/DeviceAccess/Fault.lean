import DeviceAccess.Url.Fault

/-!
# Faults

Everything that can go wrong, from a pattern that cannot be read to a helper that does not answer,
with the wording of each and the two questions that callers ask about it: whether trying again may
help, and whether the helper is simply not there.
-/

namespace DeviceAccess

/-! ## §1 Input and output -/

/-- The kind of a failed read, write or start of a program. -/
inductive IoKind where
  | notFound
  | permissionDenied
  | connectionRefused
  | connectionReset
  | connectionAborted
  | notConnected
  | brokenPipe
  | alreadyExists
  | wouldBlock
  | notADirectory
  | isADirectory
  | invalidInput
  | invalidData
  | timedOut
  | writeZero
  | interrupted
  | unsupported
  | unexpectedEof
  | outOfMemory
  | uncategorized
  | other
  deriving DecidableEq, Repr

/-- A failed read, write or start of a program. -/
structure IoFault where
  kind : IoKind
  message : String
  deriving DecidableEq, Repr

/-! ## §2 All faults -/

/-- What went wrong. -/
inductive Fault where
  /-- A text is no address pattern. -/
  | pattern (text reason : String)
  /-- A certificate cannot be read. -/
  | certificate (message : String)
  /-- A certificate store cannot be listed. -/
  | store (message : String)
  /-- The helper refused a request. -/
  | rejected (request : Nat) (message : String)
  /-- There is no helper, or none that is new enough. -/
  | unavailable (message : String)
  /-- Talking to the helper failed. -/
  | helperIo (fault : IoFault)
  /-- A document in strict notation has not the expected form. -/
  | json (message : String)
  /-- The settings are missing or invalid. -/
  | settings (message : String)
  /-- The system lacks something. -/
  | platform (message : String)
  /-- A text is no address. -/
  | url (fault : UrlFault)
  /-- A file cannot be read. -/
  | io (fault : IoFault)
  deriving DecidableEq, Repr

namespace Fault

/-- The wording of a fault. -/
def message : Fault → String
  | pattern text reason => "Invalid URL pattern '" ++ text ++ "': " ++ reason
  | certificate m => "Certificate parsing error: " ++ m
  | store m => "Certificate store error: " ++ m
  | rejected request m =>
    "Native helper rejected command " ++ toString request ++ ": " ++ m
  | unavailable m => "Native helper unavailable: " ++ m
  | helperIo f => "Native helper I/O error: " ++ f.message
  | json m => "JSON error: " ++ m
  | settings m => "Configuration error: " ++ m
  | platform m => "Platform error: " ++ m
  | url f => "URL error: " ++ f.message
  | io f => "I/O error: " ++ f.message

/-- Trying again may help: the helper was there, but did not do what it was asked. -/
def isRetryable : Fault → Bool
  | helperIo _ | rejected _ _ => true
  | _ => false

/-- The helper is simply not there. -/
def isHelperUnavailable : Fault → Bool
  | unavailable _ => true
  | _ => false

end Fault

/-- The address that a text spells. -/
def liftUrl {α : Type} (r : Except UrlFault α) : Except Fault α := r.mapError Fault.url

end DeviceAccess
