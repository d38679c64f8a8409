import Sidecar.Number.Integer
import Sidecar.Text.Utf8

/-!
# Environment variables

What the platform tells an extension through the variables of its process. A variable that is empty
or not UTF-8 counts as unset.
-/

namespace Sidecar

/-- The variables of a process, in order, with their values as bytes. -/
abbrev Environment := List (String × List UInt8)

namespace Environment

/-- The value of a variable, unless it is unset, empty or not UTF-8. -/
def get? (env : Environment) (name : String) : Option String :=
  ((List.lookup name env).bind Utf8.decode?).filter (!·.isEmpty)

def runtimeApiName : String := "AWS_LAMBDA_RUNTIME_API"

/-- The address of the platform, as host and port. -/
def runtimeApi (env : Environment) : Option String := env.get? runtimeApiName

/-- The trace of the current invocation. -/
def traceId (env : Environment) : Option String := env.get? "_X_AMZN_TRACE_ID"

def region (env : Environment) : Option String := env.get? "AWS_REGION"

def functionName (env : Environment) : Option String := env.get? "AWS_LAMBDA_FUNCTION_NAME"

def functionVersion (env : Environment) : Option String := env.get? "AWS_LAMBDA_FUNCTION_VERSION"

def initializationType (env : Environment) : Option String :=
  env.get? "AWS_LAMBDA_INITIALIZATION_TYPE"

/-- The memory of the function in megabytes, or 0 if it is not known. -/
def functionMemoryMB (env : Environment) : UInt32 :=
  match (env.get? "AWS_LAMBDA_FUNCTION_MEMORY_SIZE").bind
      (fun value => Integer.unsigned? UInt32.size value.toList) with
  | some n => UInt32.ofNat n
  | none => 0

end Environment

end Sidecar
