import PgClient.Reconnect.Retry

/-!
The three classifiers of errors, which are written apart from each other: what reconnecting and
retrying go by, and what severity says of the session.
-/

namespace PgClient

def PgServerError.isFatal (err : PgServerError) : Bool :=
  err.severity = "FATAL" || err.severity = "PANIC"

def PgError.isConnectionBroken : PgError → Bool
  | .connectionClosed => true
  | .transport .connectionReset => true
  | .transport .unexpectedEof => true
  | .transport .connectionRefused => true
  | .server err => err.isConnectionException || err.isAdminShutdown || err.isCrashShutdown
  | .io err =>
      match err.kind with
      | .connectionReset | .connectionAborted | .brokenPipe | .unexpectedEof => true
      | _ => false
  | _ => false

/-- Both classifications of an error are the same, and a session that is over is reconnected. -/
structure PgError.ClassifiedAlike (e : PgError) : Prop where
  broken : classifyError e = .broken ↔ e.isConnectionBroken
  transient : classifyError e = .transient ↔ e.isRetryable
  exclusive : ¬ (e.isConnectionBroken ∧ e.isRetryable)
  fatal : ∀ err, e = .server err → err.isFatal → classifyError e = .broken

section Server

variable {err : PgServerError}

theorem PgServerError.not_broken_of_serializationFailure (h : err.isSerializationFailure) :
    (PgError.server err).isConnectionBroken = false := by
  have hCode : err.code = "40001" := by simpa [isSerializationFailure] using h
  simp only [PgError.isConnectionBroken, isConnectionException, isAdminShutdown, isCrashShutdown,
    isClass, hCode]
  decide

theorem PgServerError.not_broken_of_deadlockDetected (h : err.isDeadlockDetected) :
    (PgError.server err).isConnectionBroken = false := by
  have hCode : err.code = "40P01" := by simpa [isDeadlockDetected] using h
  simp only [PgError.isConnectionBroken, isConnectionException, isAdminShutdown, isCrashShutdown,
    isClass, hCode]
  decide

/-- No code is both that of a broken connection and that of a statement to repeat. -/
theorem PgServerError.not_broken_of_retryable (h : (PgError.server err).isRetryable) :
    (PgError.server err).isConnectionBroken = false := by
  rcases Bool.or_eq_true_iff.mp h with hSerialization | hDeadlock
  · exact not_broken_of_serializationFailure hSerialization
  · exact not_broken_of_deadlockDetected hDeadlock

theorem classifyError_server_transient :
    classifyError (.server err) = .transient ↔ (PgError.server err).isRetryable := by
  simp only [classifyError, PgError.isRetryable]
  cases err.isSerializationFailure <;> cases err.isDeadlockDetected <;>
    cases err.isConnectionException <;> cases err.isAdminShutdown <;>
      cases err.isCrashShutdown <;> simp

theorem classifyError_server_broken :
    classifyError (.server err) = .broken ↔ (PgError.server err).isConnectionBroken := by
  cases hRetry : (PgError.server err).isRetryable with
  | true =>
      rw [classifyError_server_transient.mpr hRetry,
        PgServerError.not_broken_of_retryable hRetry]
      decide
  | false =>
      obtain ⟨hSerialization, hDeadlock⟩ := Bool.or_eq_false_iff.mp hRetry
      simp only [classifyError, PgError.isConnectionBroken, hSerialization, hDeadlock]
      cases err.isConnectionException <;> cases err.isAdminShutdown <;>
        cases err.isCrashShutdown <;> simp

end Server

namespace PgError

/-- An error of the server is classified alike but for its severity. -/
theorem classifiedAlike_server_iff (err : PgServerError) :
    (PgError.server err).ClassifiedAlike ↔
      (err.isFatal → (PgError.server err).isConnectionBroken) := by
  constructor
  · intro h hFatal
    exact h.broken.mp (h.fatal err rfl hFatal)
  · intro h
    refine ⟨classifyError_server_broken, classifyError_server_transient, ?_, ?_⟩
    · intro ⟨hBroken, hRetry⟩
      rw [PgServerError.not_broken_of_retryable hRetry] at hBroken
      cases hBroken
    · intro err' hErr hFatal
      cases hErr
      exact classifyError_server_broken.mpr (h hFatal)

/-- An I/O error that has timed out is transient for one classifier and not for the other. -/
theorem classifiedAlike_io_iff (err : IoError) :
    (PgError.io err).ClassifiedAlike ↔ err.kind ≠ .timedOut := by
  constructor
  · intro h hKind
    have hTransient : classifyError (.io err) = .transient := by
      simp [classifyError, IoErrorKind.errorClass, hKind]
    exact nomatch h.transient.mp hTransient
  · intro h
    constructor
    · simp only [classifyError, isConnectionBroken]
      cases hKind : err.kind <;> simp [IoErrorKind.errorClass]
    · simp only [classifyError, isRetryable]
      cases hKind : err.kind with
      | timedOut => exact absurd hKind h
      | _ => simp [IoErrorKind.errorClass]
    · exact fun hBoth => nomatch hBoth.2
    · exact fun _ hErr => nomatch hErr

/-- Errors of neither kind are classified by their constructors alone. -/
theorem classifiedAlike_of_local {e : PgError} (hServer : ∀ err, e ≠ .server err)
    (hIo : ∀ err, e ≠ .io err) : e.ClassifiedAlike := by
  have hFatal : ∀ err, e = .server err → err.isFatal → classifyError e = .broken :=
    fun err hErr => absurd hErr (hServer err)
  cases e with
  | server err => exact absurd rfl (hServer err)
  | io err => exact absurd rfl (hIo err)
  | transport error =>
      cases error <;>
        exact ⟨by simp [classifyError, isConnectionBroken],
          by simp [classifyError, isRetryable], by simp [isConnectionBroken, isRetryable], hFatal⟩
  | _ => exact ⟨by simp [classifyError, isConnectionBroken],
      by simp [classifyError, isRetryable], by simp [isConnectionBroken, isRetryable], hFatal⟩

/-- The classifiers agree on an error unless it is an I/O error that has timed out, or ends the
session with a code outside the class of connection exceptions and the two shutdowns. -/
theorem classifiedAlike_iff (e : PgError) :
    e.ClassifiedAlike ↔
      (∀ err, e = .io err → err.kind ≠ .timedOut) ∧
        ∀ err, e = .server err → err.isFatal →
          err.isConnectionException ∨ err.isAdminShutdown ∨ err.isCrashShutdown := by
  cases e with
  | server err =>
      rw [classifiedAlike_server_iff]
      simp [isConnectionBroken, or_assoc]
  | io err =>
      rw [classifiedAlike_io_iff]
      simp
  | _ => simp [classifiedAlike_of_local]

/-- A server that is starting up ends the session, and the connection is taken for alive. -/
theorem not_classifiedAlike :
    ¬ ∀ e : PgError, e.ClassifiedAlike := by
  intro hAll
  have hBroken := (classifiedAlike_server_iff _).mp
    (hAll (.server { severity := "FATAL", code := "57P03" })) (by decide)
  revert hBroken
  decide

end PgError
end PgClient
