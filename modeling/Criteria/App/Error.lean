import Criteria.App.Host
import Criteria.Error

/-!
# Failures of the program

What can go wrong in one run of the program, as a chain: what was being done, then why it failed.
-/

namespace Criteria

/-- The name of the configuration file in the working directory. -/
def configFileName : String := "filterc.json"

/-- The largest body in bytes. -/
def maxBodySize : Nat := 65536

/-- The largest number of request parameters. -/
def maxParams : Nat := 200

/-- A failed run. -/
inductive AppError where
  /-- The configuration file that was asked for does not exist. -/
  | configNotFound (path : String)
  /-- No configuration was asked for, and the working directory holds none. -/
  | noConfig
  | configUnreadable (path : String) (fault : ReadFault)
  | configMalformed (path : String) (cause : FilterError)
  /-- The configuration is not usable as a whole. -/
  | badConfig (cause : FilterError)
  /-- One of the filters of the configuration is not usable. -/
  | badFilters (path : String) (cause : FilterError)
  | tooManyParams
  | bodyTooLarge
  | bodyUnreadable (path : String) (fault : ReadFault)
  | inputUnreadable (fault : ReadFault)
  | bodyMalformed
  /-- The body was read, and does not compile. -/
  | body (cause : FilterError)

namespace AppError

/-- The error of the filters behind a failure, if there is one. -/
def cause? : AppError → Option FilterError
  | .configMalformed _ cause | .badConfig cause | .badFilters _ cause | .body cause => some cause
  | _ => none

/-- What was being done, and why it failed. -/
def chain : AppError → List String
  | .configNotFound path => ["Config file not found: " ++ path]
  | .noConfig => ["No filter configuration. Pass --config or create " ++ configFileName]
  | .configUnreadable path fault => ["Failed to read config file: " ++ path, fault.message]
  | .configMalformed path cause => ["Failed to parse config file: " ++ path, cause.message]
  | .badConfig cause => [cause.message]
  | .badFilters path cause => ["Invalid filter configuration: " ++ path, cause.message]
  | .tooManyParams => ["Maximum " ++ Decimal.ofNat maxParams ++ " parameters allowed"]
  | .bodyTooLarge =>
    ["Filter body exceeds maximum size of " ++ Decimal.ofNat maxBodySize ++ " bytes"]
  | .bodyUnreadable path fault => ["Failed to read filter body: " ++ path, fault.message]
  | .inputUnreadable fault => ["Failed to read filter body from stdin", fault.message]
  | .bodyMalformed => ["Invalid filter body JSON", "malformed JSON"]
  | .body cause => [cause.message]

/-- The wording of a failure. -/
def message (e : AppError) : String :=
  ": ".intercalate e.chain

end AppError

end Criteria
