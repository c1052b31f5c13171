import Taskweavn.Py.Value

/-!
# Provider failures

The classifications of `taskweavn/llm/contracts.py` and the error classes of
`taskweavn/llm/errors.py`.  A call of a provider fails with an `LLMProviderError`, which says
itself how it is classified, or with any other exception.  The delays that a record of a retry
holds are floats, of a type `F`.
-/

namespace Taskweavn.Llm

open Lib Py

/-- Provider failure classes used by retry and error reporting. -/
inductive ErrorClassification
  | retryable
  | fatalAuth
  | fatalRequest
  | fatalCapability
  | rateLimit
  | contextLimit
  | unknown
deriving DecidableEq, Repr

def ErrorClassification.value : ErrorClassification → String
  | .retryable => "retryable"
  | .fatalAuth => "fatal_auth"
  | .fatalRequest => "fatal_request"
  | .fatalCapability => "fatal_capability"
  | .rateLimit => "rate_limit"
  | .contextLimit => "context_limit"
  | .unknown => "unknown"

/-- `LLMProviderError` and the classes below it. -/
inductive ErrorClass
  | llmProviderError
  | llmRetryExhaustedError
  | llmAuthError
  | llmRequestError
  | llmCapabilityError
  | llmContextLimitError
  | unsupportedCapabilityError
deriving DecidableEq, Repr

def ErrorClass.name : ErrorClass → String
  | .llmProviderError => "LLMProviderError"
  | .llmRetryExhaustedError => "LLMRetryExhaustedError"
  | .llmAuthError => "LLMAuthError"
  | .llmRequestError => "LLMRequestError"
  | .llmCapabilityError => "LLMCapabilityError"
  | .llmContextLimitError => "LLMContextLimitError"
  | .unsupportedCapabilityError => "UnsupportedCapabilityError"

def ErrorClass.base : ErrorClass → ErrorClass
  | .unsupportedCapabilityError => .llmCapabilityError
  | _ => .llmProviderError

/-- An instance of `cls` is an instance of `cls'`. -/
def ErrorClass.IsSubclass (cls cls' : ErrorClass) : Prop :=
  cls = cls' ∨ cls.base = cls' ∨ cls.base.base = cls'

instance (cls cls' : ErrorClass) : Decidable (cls.IsSubclass cls') :=
  inferInstanceAs (Decidable (cls = cls' ∨ cls.base = cls' ∨ cls.base.base = cls'))

def ErrorClassification.errorClass : ErrorClassification → ErrorClass
  | .retryable => .llmRetryExhaustedError
  | .rateLimit => .llmRetryExhaustedError
  | .fatalAuth => .llmAuthError
  | .fatalRequest => .llmRequestError
  | .fatalCapability => .llmCapabilityError
  | .contextLimit => .llmContextLimitError
  | .unknown => .llmProviderError

theorem ErrorClass.isSubclass_self (cls : ErrorClass) : cls.IsSubclass cls := .inl rfl

theorem llmProviderError_isSubclass {classification : ErrorClassification} :
    ErrorClass.llmProviderError.IsSubclass classification.errorClass ↔
      classification = .unknown := by
  cases classification <;> decide

structure RetryRecord (F : Type) where
  attempt : ℕ
  maxAttempts : ℤ
  classification : ErrorClassification
  providerName : String
  model : String
  delaySeconds : F
  errorType : String
  errorSummary : String
deriving DecidableEq, Repr

/-- An exception, as far as it is read: the name of its type, its text and its `status_code`
where this is an integer. -/
structure RawError where
  typeName : String
  message : String
  statusCode : Option ℤ := none
deriving DecidableEq, Repr

/-- An `LLMProviderError`. -/
structure ProviderError (F : Type) where
  cls : ErrorClass
  message : String
  providerName : String
  model : String
  classification : ErrorClassification
  originalError : Option RawError := none
  retryRecords : List (RetryRecord F) := []
  metadata : Dict String PyValue := .empty

/-- What a call of a provider raises. -/
inductive ChatError (F : Type)
  | provider (e : ProviderError F)
  | raw (e : RawError)

variable {F : Type}

/-- `type(exc).__name__` -/
def ChatError.typeName : ChatError F → String
  | .provider e => e.cls.name
  | .raw e => e.typeName

/-- `str(exc)` -/
def ChatError.message : ChatError F → String
  | .provider e => e.message
  | .raw e => e.message

/-- The exception as another one refers to it. -/
def ChatError.seen : ChatError F → RawError
  | .provider e => { typeName := e.cls.name, message := e.message }
  | .raw e => e

end Taskweavn.Llm
