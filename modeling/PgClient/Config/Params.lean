import PgClient.Config
import PgClient.Library.Except
import PgClient.Reconnect.Backoff

/-!
The parameters that connection strings and the environment share, and what they do to a
configuration.
-/

namespace PgClient

inductive TargetSessionAttrs where
  | any
  | readWrite
  | readOnly
deriving DecidableEq, Repr

inductive ConfigError where
  | invalidValue (message : String)
  | missingField (field : String)
  | parseError (message : String)
  | invalidTimeout (field value : String)
deriving DecidableEq, Repr

structure StaleConfig where
  staleThreshold : Duration := .ofSecs 30
  pingOnStale : Bool := true
deriving DecidableEq, Repr

/-- The whole of the configuration. -/
structure ParsedConfig extends Config where
  port : Nat
  connectTimeout : Option Duration
  targetSessionAttrs : TargetSessionAttrs
  keepalive : Option Duration
  reconnect : DelayedReconnectConfig
  stale : StaleConfig
deriving DecidableEq, Repr

def ParsedConfig.new : ParsedConfig where
  toConfig := Config.new
  port := 5432
  connectTimeout := none
  targetSessionAttrs := .any
  keepalive := none
  reconnect := {}
  stale := {}

/-- `to_lowercase`, as far as a comparison with ASCII letters other than `k` tells. -/
def toLowercase (s : String) : String := String.ofList (s.toList.map Char.toLower)

/-- The error is the text of `TransportError::InvalidConfig`. -/
def SslMode.ofString (s : String) : Except String SslMode :=
  match toLowercase s with
  | "disable" => .ok .disable
  | "prefer" => .ok .prefer
  | "require" => .ok .require
  | "verify-ca" => .ok .verifyCa
  | "verify-full" => .ok .verifyFull
  | _ => .error ("invalid configuration: invalid sslmode: " ++ s)

def TargetSessionAttrs.ofString (s : String) : Except ConfigError TargetSessionAttrs :=
  match toLowercase s with
  | "any" => .ok .any
  | "read-write" => .ok .readWrite
  | "read-only" => .ok .readOnly
  | _ => .error (.invalidValue ("invalid target_session_attrs: " ++ s))

/-- The digits of a number below `bound`, or what Rust's `parse` finds wrong with them. -/
def parsePortDigits (bound : Nat) : Nat → List Char → Except String Nat
  | n, [] => .ok n
  | n, c :: cs =>
      if !c.isDigit then .error "invalid digit found in string"
      else if 10 * n + (c.toNat - '0'.toNat) < bound then
        parsePortDigits bound (10 * n + (c.toNat - '0'.toNat)) cs
      else .error "number too large to fit in target type"

def parsePort (s : String) : Except String Nat :=
  match s.toList with
  | [] => .error "cannot parse integer from empty string"
  | ['+'] => .error "invalid digit found in string"
  | '+' :: cs => parsePortDigits (2 ^ 16) 0 cs
  | cs => parsePortDigits (2 ^ 16) 0 cs

def parseU64 (s : String) : Option UInt64 := (parseUnsigned (2 ^ 64) s).map .ofNat

def parseBool : String → Option Bool
  | "true" => some true
  | "false" => some false
  | _ => none

/-- What `parse_reconnect_params` and `apply_reconnect_env` write. -/
structure ReconnectSettings where
  reconnect : DelayedReconnectConfig := {}
  stale : StaleConfig := {}
deriving DecidableEq, Repr

namespace ReconnectSettings

def setEnabled (settings : ReconnectSettings) (enabled : Bool) : ReconnectSettings :=
  { settings with reconnect := { settings.reconnect with enabled := enabled } }

def setMaxAttempts (settings : ReconnectSettings) (n : Nat) : ReconnectSettings :=
  { settings with reconnect := { settings.reconnect with maxAttempts := n } }

def setInitialDelay (settings : ReconnectSettings) (ms : UInt64) : ReconnectSettings :=
  { settings with reconnect := { settings.reconnect with initialDelay := .ofMillis ms } }

def setMaxDelay (settings : ReconnectSettings) (ms : UInt64) : ReconnectSettings :=
  { settings with reconnect := { settings.reconnect with maxDelay := .ofMillis ms } }

def setStaleThreshold (settings : ReconnectSettings) (secs : UInt64) : ReconnectSettings :=
  { settings with stale := { settings.stale with staleThreshold := .ofSecs secs } }

/-- Both delays are whole milliseconds of 64 bits. -/
def WholeMillis (settings : ReconnectSettings) : Prop :=
  (∃ ms, settings.reconnect.initialDelay = .ofMillis ms) ∧
    ∃ ms, settings.reconnect.maxDelay = .ofMillis ms

end ReconnectSettings

/-- A value that does not parse. -/
def orInvalid {α : Type} (message : String) : Option α → Except String α
  | some a => .ok a
  | none => .error message

def parseReconnectParams (settings : ReconnectSettings) (key value : String) :
    Except String ReconnectSettings :=
  match key with
  | "reconnect" =>
      (orInvalid ("invalid value for 'reconnect': expected 'true' or 'false', got '" ++ value ++
        "'") (parseBool value)).map settings.setEnabled
  | "reconnect_max_attempts" =>
      (orInvalid ("invalid value for 'reconnect_max_attempts': expected integer, got '" ++ value ++
        "'") (parseUnsigned (2 ^ 32) value)).map settings.setMaxAttempts
  | "reconnect_initial_delay_ms" =>
      (orInvalid ("invalid value for 'reconnect_initial_delay_ms': expected integer, got '" ++
        value ++ "'") (parseU64 value)).map settings.setInitialDelay
  | "reconnect_max_delay_ms" =>
      (orInvalid ("invalid value for 'reconnect_max_delay_ms': expected integer, got '" ++ value ++
        "'") (parseU64 value)).map settings.setMaxDelay
  | "stale_threshold_secs" =>
      (orInvalid ("invalid value for 'stale_threshold_secs': expected integer, got '" ++ value ++
        "'") (parseU64 value)).map settings.setStaleThreshold
  | _ => .error ("unknown reconnection parameter: " ++ key)

/-- One variable of `apply_reconnect_env`, which may not be set. -/
def applyVariable {α : Type} (name expected : String) (value : Option String)
    (parse : String → Option α) (set : ReconnectSettings → α → ReconnectSettings)
    (settings : ReconnectSettings) : Except ConfigError ReconnectSettings :=
  match value with
  | none => .ok settings
  | some text =>
      match parse text with
      | some a => .ok (set settings a)
      | none =>
          .error (.invalidValue (name ++ ": expected " ++ expected ++ ", got '" ++ text ++ "'"))

def applyReconnectEnv (env : String → Option String) (settings : ReconnectSettings) :
    Except ConfigError ReconnectSettings := do
  let settings ← applyVariable "PGRECONNECT" "'true' or 'false'" (env "PGRECONNECT") parseBool
    .setEnabled settings
  let settings ← applyVariable "PGRECONNECT_ATTEMPTS" "integer" (env "PGRECONNECT_ATTEMPTS")
    (parseUnsigned (2 ^ 32)) .setMaxAttempts settings
  let settings ← applyVariable "PGRECONNECT_DELAY_MS" "integer" (env "PGRECONNECT_DELAY_MS")
    parseU64 .setInitialDelay settings
  let settings ← applyVariable "PGRECONNECT_MAX_DELAY_MS" "integer"
    (env "PGRECONNECT_MAX_DELAY_MS") parseU64 .setMaxDelay settings
  applyVariable "PGSTALE_THRESHOLD_SECS" "integer" (env "PGSTALE_THRESHOLD_SECS") parseU64
    .setStaleThreshold settings

namespace ParsedConfig

def setSslMode (config : ParsedConfig) (value : String) : Except ConfigError ParsedConfig :=
  match SslMode.ofString value with
  | .ok mode => .ok { config with sslMode := mode }
  | .error message => .error (.invalidValue message)

def setConnectTimeout (config : ParsedConfig) (value : String) : Except ConfigError ParsedConfig :=
  match parseU64 value with
  | some secs => .ok { config with connectTimeout := some (.ofSecs secs) }
  | none => .error (.invalidTimeout "connect_timeout" value)

def setTargetSessionAttrs (config : ParsedConfig) (value : String) :
    Except ConfigError ParsedConfig :=
  (TargetSessionAttrs.ofString value).map fun attrs => { config with targetSessionAttrs := attrs }

def setReconnectParam (config : ParsedConfig) (key value : String) :
    Except ConfigError ParsedConfig :=
  match parseReconnectParams ⟨config.reconnect, config.stale⟩ key value with
  | .ok settings => .ok { config with reconnect := settings.reconnect, stale := settings.stale }
  | .error message => .error (.invalidValue message)

end ParsedConfig

namespace ReconnectSettings

variable {settings settings' : ReconnectSettings}

theorem wholeMillis_default : WholeMillis {} := ⟨⟨100, rfl⟩, 10000, by decide⟩

theorem WholeMillis.setEnabled (h : settings.WholeMillis) (enabled : Bool) :
    (settings.setEnabled enabled).WholeMillis := h

theorem WholeMillis.setMaxAttempts (h : settings.WholeMillis) (n : Nat) :
    (settings.setMaxAttempts n).WholeMillis := h

theorem WholeMillis.setStaleThreshold (h : settings.WholeMillis) (secs : UInt64) :
    (settings.setStaleThreshold secs).WholeMillis := h

theorem WholeMillis.setInitialDelay (h : settings.WholeMillis) (ms : UInt64) :
    (settings.setInitialDelay ms).WholeMillis := ⟨⟨ms, rfl⟩, h.2⟩

theorem WholeMillis.setMaxDelay (h : settings.WholeMillis) (ms : UInt64) :
    (settings.setMaxDelay ms).WholeMillis := ⟨h.1, ms, rfl⟩

end ReconnectSettings

section Accepted

variable {settings settings' : ReconnectSettings}

theorem map_orInvalid_ok {α : Type} {message : String} {parsed : Option α}
    {set : α → ReconnectSettings} (h : (orInvalid message parsed).map set = .ok settings') :
    ∃ a, settings' = set a := by
  obtain ⟨a, _, hSet⟩ := Except.of_map h
  exact ⟨a, hSet.symm⟩

/-- A delay that a parameter sets is in whole milliseconds. -/
theorem parseReconnectParams_wholeMillis {key value : String} (hWhole : settings.WholeMillis)
    (h : parseReconnectParams settings key value = .ok settings') : settings'.WholeMillis := by
  unfold parseReconnectParams at h
  split at h
  · obtain ⟨enabled, rfl⟩ := map_orInvalid_ok h
    exact hWhole.setEnabled enabled
  · obtain ⟨n, rfl⟩ := map_orInvalid_ok h
    exact hWhole.setMaxAttempts n
  · obtain ⟨ms, rfl⟩ := map_orInvalid_ok h
    exact hWhole.setInitialDelay ms
  · obtain ⟨ms, rfl⟩ := map_orInvalid_ok h
    exact hWhole.setMaxDelay ms
  · obtain ⟨secs, rfl⟩ := map_orInvalid_ok h
    exact hWhole.setStaleThreshold secs
  · cases h

theorem applyVariable_wholeMillis {α : Type} {name expected : String} {value : Option String}
    {parse : String → Option α} {set : ReconnectSettings → α → ReconnectSettings}
    (hSet : ∀ settings a, settings.WholeMillis → (set settings a).WholeMillis)
    (hWhole : settings.WholeMillis)
    (h : applyVariable name expected value parse set settings = .ok settings') :
    settings'.WholeMillis := by
  unfold applyVariable at h
  split at h
  · cases h
    exact hWhole
  · split at h
    · cases h
      exact hSet settings _ hWhole
    · cases h

/-- And so is one that the environment sets. -/
theorem applyReconnectEnv_wholeMillis {env : String → Option String}
    (hWhole : settings.WholeMillis) (h : applyReconnectEnv env settings = .ok settings') :
    settings'.WholeMillis := by
  obtain ⟨settings₁, h₁, h⟩ := Except.of_bind h
  have hWhole₁ := applyVariable_wholeMillis (fun _ enabled h => h.setEnabled enabled) hWhole h₁
  obtain ⟨settings₂, h₂, h⟩ := Except.of_bind h
  have hWhole₂ := applyVariable_wholeMillis (fun _ n h => h.setMaxAttempts n) hWhole₁ h₂
  obtain ⟨settings₃, h₃, h⟩ := Except.of_bind h
  have hWhole₃ := applyVariable_wholeMillis (fun _ ms h => h.setInitialDelay ms) hWhole₂ h₃
  obtain ⟨settings₄, h₄, h⟩ := Except.of_bind h
  have hWhole₄ := applyVariable_wholeMillis (fun _ ms h => h.setMaxDelay ms) hWhole₃ h₄
  exact applyVariable_wholeMillis (fun _ secs h => h.setStaleThreshold secs) hWhole₄ h

end Accepted
end PgClient
