import Mathlib.Logic.Function.Basic

/-!
# Exceptions and their classification

`src/stream/error_handler.py` without its storage: the three exception tuples,
the static checks of `ErrorHandler`, and `RecoveryStrategy`.
-/
namespace RedditKafka

/-- The exception classes that the service tests with `isinstance`. -/
inductive ExcClass where
  | exception
  | cancelledError
  | runtimeError
  | valueError
  | keyError
  | connectionError
  | timeoutError
  | redisError
  | clientConnectionError
  | badRequest
  | forbidden
  | invalidToken
  | notFound
  | oAuthException
  | requestException
  | responseException
  | tooManyRequests
  | kafkaDeliveryError
  | lockLostError
  | streamExistsError
  | streamNotFoundError
  | osError
  | operationalError
  | dbapiError
  deriving DecidableEq, Repr

/-- A raised exception: the name and all classes of its type, and its text. -/
structure PyExc where
  name : String
  classes : List ExcClass
  message : String
  deriving DecidableEq, Repr

namespace PyExc

def isInstance (error : PyExc) (classes : List ExcClass) : Bool :=
  classes.any fun c => error.classes.contains c

/-- What `except Exception` catches; `CancelledError` is outside it. -/
def isException (error : PyExc) : Bool := error.isInstance [.exception]

def cancelledError : PyExc := ⟨"CancelledError", [.cancelledError], ""⟩

def runtimeError (message : String) : PyExc :=
  ⟨"RuntimeError", [.runtimeError, .exception], message⟩

def valueError (message : String) : PyExc := ⟨"ValueError", [.valueError, .exception], message⟩

def keyError (key : String) : PyExc := ⟨"KeyError", [.keyError, .exception], key⟩

def kafkaDeliveryError (message : String) : PyExc :=
  ⟨"KafkaDeliveryError", [.kafkaDeliveryError, .runtimeError, .exception], message⟩

def lockLostError (message : String) : PyExc :=
  ⟨"LockLostError", [.lockLostError, .runtimeError, .exception], message⟩

def streamExistsError (message : String) : PyExc :=
  ⟨"StreamExistsError", [.streamExistsError, .exception], message⟩

def streamNotFoundError (message : String) : PyExc :=
  ⟨"StreamNotFoundError", [.streamNotFoundError, .exception], message⟩

end PyExc

def fatalExceptions : List ExcClass :=
  [.badRequest, .forbidden, .invalidToken, .notFound, .oAuthException, .valueError,
    .kafkaDeliveryError]

def backoffExceptions : List ExcClass := [.tooManyRequests]

def retryableExceptions : List ExcClass :=
  [.connectionError, .timeoutError, .clientConnectionError, .requestException, .responseException]

namespace ErrorHandler

def isRetryable (error : PyExc) : Bool :=
  !error.isInstance fatalExceptions && error.isInstance retryableExceptions

def shouldBackoff (error : PyExc) : Bool := error.isInstance backoffExceptions

def getBackoffDuration (error : PyExc) : Nat :=
  if error.isInstance [.tooManyRequests] then 60 else 5

end ErrorHandler

namespace RecoveryStrategy

def shouldRetryImmediately (error : PyExc) : Bool :=
  ErrorHandler.isRetryable error && !ErrorHandler.shouldBackoff error

def shouldRetryWithBackoff (error : PyExc) : Bool := ErrorHandler.shouldBackoff error

def shouldAbandonStream (error : PyExc) : Bool := error.isInstance fatalExceptions

end RecoveryStrategy

/-- The errors the stream is meant to outlive: retryable or rate limit, and not fatal. -/
def PyExc.Transient (error : PyExc) : Prop :=
  error.isException = true ∧ error.isInstance fatalExceptions = false ∧
    (ErrorHandler.isRetryable error = true ∨ ErrorHandler.shouldBackoff error = true)

instance (error : PyExc) : Decidable error.Transient := inferInstanceAs (Decidable (_ ∧ _))

theorem PyExc.Transient.not_abandoned {error : PyExc} (h : error.Transient) :
    RecoveryStrategy.shouldAbandonStream error = false := h.2.1

/-- A transient error takes one of the two branches that keep the loop going. -/
theorem PyExc.Transient.recovers {error : PyExc} (h : error.Transient) :
    RecoveryStrategy.shouldRetryWithBackoff error = true ∨
      RecoveryStrategy.shouldRetryImmediately error = true := by
  obtain ⟨-, -, retry | limit⟩ := h
  · cases limit : ErrorHandler.shouldBackoff error with
    | true => exact .inl limit
    | false => exact .inr (by simp [RecoveryStrategy.shouldRetryImmediately, retry, limit])
  · exact .inl limit

theorem kafkaDeliveryError_abandons (message : String) :
    RecoveryStrategy.shouldAbandonStream (PyExc.kafkaDeliveryError message) = true := rfl

end RedditKafka
