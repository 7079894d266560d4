import PgClient.Config.KeyValue
import PgClient.Library.PercentEncoding

/-!
Connection URIs: what becomes of the components that the URL parser returns, and where the
parameters of a URI and of a key-value string differ.
-/

namespace PgClient

open PercentEncoding

/-- What the URL parser returns: the components as they stand in the URI, and the pairs of its
query decoded. -/
structure Url where
  scheme : String
  username : String := ""
  password : Option String := none
  hostStr : Option String := none
  port : Option Nat := none
  path : String := ""
  queryPairs : List (String × String) := []
deriving DecidableEq, Repr

/-- What one parameter of the query does to the configuration. -/
def applyUriParam (config : ParsedConfig) (key value : String) : Except ConfigError ParsedConfig :=
  match key with
  | "sslmode" => config.setSslMode value
  | "connect_timeout" => config.setConnectTimeout value
  | "application_name" => .ok { config with applicationName := some value }
  | "target_session_attrs" => config.setTargetSessionAttrs value
  | "reconnect" | "reconnect_max_attempts" | "reconnect_initial_delay_ms"
  | "reconnect_max_delay_ms" | "stale_threshold_secs" => config.setReconnectParam key value
  | _ => .ok { config with options := config.options ++ [(key, value)] }

/-- The path without its slash, which is ASCII. -/
def Url.databaseName (url : Url) : Option String :=
  match url.path.toList with
  | _ :: c :: cs => some (String.ofList (c :: cs))
  | _ => none

/-- The configuration before the query is looked at. -/
def Url.baseConfig (url : Url) : ParsedConfig :=
  { ParsedConfig.new with
    host := url.hostStr.getD "localhost"
    port := url.port.getD 5432
    password := url.password
    user := if url.username = "" then ParsedConfig.new.user else url.username
    database := url.databaseName }

section FromUri

variable (parse : String → Except String Url)

def fromUri (uri : String) : Except ConfigError ParsedConfig :=
  match parse uri with
  | .error e => .error (.parseError ("invalid URI: " ++ e))
  | .ok url =>
      if url.scheme ≠ "postgresql" ∧ url.scheme ≠ "postgres" then
        .error (.parseError
          ("expected scheme 'postgresql' or 'postgres', got '" ++ url.scheme ++ "'"))
      else url.queryPairs.foldlM (fun config param => applyUriParam config param.1 param.2)
        url.baseConfig

end FromUri

/-- An IPv6 address as text. -/
structure Ipv6Literal where
  text : String
  chars : ∀ c ∈ text.toList, c.isAlphanum ∨ c = ':' ∨ c = '.'

inductive UriHost where
  | regName (name : String)
  | ipv6 (address : Ipv6Literal)

def UriHost.text : UriHost → String
  | .regName name => name
  | .ipv6 address => address.text

/-- The components that a URI is written from. -/
structure UriParts where
  user : String
  password : String
  host : UriHost
  port : UInt16
  database : String

namespace UriParts

def hostText : UriHost → String
  | .regName name => encode name
  | .ipv6 address => "[" ++ address.text ++ "]"

def write (parts : UriParts) : String :=
  "postgresql://" ++ encode parts.user ++ ":" ++ encode parts.password ++ "@" ++
    hostText parts.host ++ ":" ++ toString parts.port.toNat ++ "/" ++ encode parts.database

/-- A path of a single dot segment is removed from a URL. -/
def pathText (database : String) : String :=
  if database = "." ∨ database = ".." then "/" else "/" ++ encode database

/-- What the URL parser makes of a URI that was written so: user, password and path stay
encoded, an empty password is none, and an IPv6 host is in brackets. -/
structure Returned (parts : UriParts) (url : Url) : Prop where
  scheme : url.scheme = "postgresql"
  username : url.username = encode parts.user
  password : url.password = if parts.password = "" then none else some (encode parts.password)
  regName : ∀ name, parts.host = .regName name → url.hostStr = some (encode name)
  ipv6 : ∀ address, parts.host = .ipv6 address → ∃ text, url.hostStr = some ("[" ++ text ++ "]")
  port : url.port = some parts.port.toNat
  path : url.path = pathText parts.database
  query : url.queryPairs = []

/-- The configuration has exactly the components of the URI. -/
structure Restores (parts : UriParts) (config : ParsedConfig) : Prop where
  user : config.user = parts.user
  password : config.password = some parts.password
  host : config.host = parts.host.text
  port : config.port = parts.port.toNat
  database : config.database = some parts.database

/-- A text that is not empty and that percent-encoding leaves alone. -/
def Literal (s : String) : Prop := s ≠ "" ∧ ∀ c ∈ s.toList, isUnreserved c

variable {parts : UriParts} {url : Url}

theorem encode_ne_empty {s : String} (h : s ≠ "") : encode s ≠ "" := by
  intro hEmpty
  have hNil : s.toList.flatMap encodeChar = [] := by
    simpa [encode] using congrArg String.toList hEmpty
  have hLength := length_le s.toList
  rw [hNil] at hLength
  exact h (String.toList_eq_nil_iff.mp (List.length_eq_zero_iff.mp (Nat.le_zero.mp hLength)))

theorem user_iff (h : Returned parts url) :
    url.baseConfig.user = parts.user ↔ Literal parts.user := by
  change (if url.username = "" then "postgres" else url.username) = parts.user ↔ _
  rw [h.username, Literal, ← encode_eq_iff]
  by_cases hEmpty : parts.user = ""
  · simp [hEmpty, encode]
  · simp [hEmpty, encode_ne_empty hEmpty]

theorem password_iff (h : Returned parts url) :
    url.baseConfig.password = some parts.password ↔ Literal parts.password := by
  change url.password = some parts.password ↔ _
  rw [h.password, Literal, ← encode_eq_iff]
  by_cases hEmpty : parts.password = ""
  · simp [hEmpty]
  · simp [hEmpty]

/-- An address in brackets is not the address. -/
theorem host_iff (h : Returned parts url) :
    url.baseConfig.host = parts.host.text ↔
      ∃ name, parts.host = .regName name ∧ ∀ c ∈ name.toList, isUnreserved c := by
  change url.hostStr.getD "localhost" = parts.host.text ↔ _
  cases hHost : parts.host with
  | regName name =>
      rw [h.regName name hHost]
      simp [UriHost.text, encode_eq_iff]
  | ipv6 address =>
      obtain ⟨text, hText⟩ := h.ipv6 address hHost
      rw [hText]
      refine ⟨fun hSame => ?_, fun ⟨name, hName, _⟩ => nomatch hName⟩
      have hBracket : '[' ∈ address.text.toList := by
        rw [show address.text = "[" ++ text ++ "]" from hSame.symm]
        simp
      exact absurd (address.chars _ hBracket) (by decide)

theorem databaseName_eq {name : String} (h : url.path = "/" ++ name) :
    url.databaseName = if name = "" then none else some name := by
  have hPath : url.path.toList = '/' :: name.toList := by simp [h]
  rw [Url.databaseName, hPath]
  cases hName : name.toList with
  | nil => simp [String.toList_eq_nil_iff.mp hName]
  | cons c cs =>
      have hSome : name ≠ "" := by
        rintro rfl
        cases hName
      rw [if_neg hSome]
      change some (String.ofList (c :: cs)) = some name
      rw [← hName, String.ofList_toList]

theorem database_iff (h : Returned parts url) :
    url.baseConfig.database = some parts.database ↔
      Literal parts.database ∧ parts.database ≠ "." ∧ parts.database ≠ ".." := by
  change url.databaseName = some parts.database ↔ _
  by_cases hDots : parts.database = "." ∨ parts.database = ".."
  · have hPath : url.path = "/" ++ "" := by
      rw [h.path, pathText, if_pos hDots]
      rfl
    rw [databaseName_eq hPath]
    refine ⟨nofun, fun hOther => ?_⟩
    exact (hDots.elim hOther.2.1 hOther.2.2).elim
  · have hPath : url.path = "/" ++ encode parts.database := by
      rw [h.path, pathText, if_neg hDots]
    rw [databaseName_eq hPath, Literal, ← encode_eq_iff]
    have hNeither := not_or.mp hDots
    by_cases hEmpty : parts.database = ""
    · simp [hEmpty, encode]
    · simp [hEmpty, encode_ne_empty hEmpty, hNeither.1, hNeither.2]

theorem fromUri_write {parse : String → Except String Url} (hParse : parse parts.write = .ok url)
    (h : Returned parts url) : fromUri parse parts.write = .ok url.baseConfig := by
  rw [fromUri, hParse]
  simp [h.scheme, h.query, pure, Except.pure]

theorem restores_iff (h : Returned parts url) :
    Restores parts url.baseConfig ↔
      Literal parts.user ∧ Literal parts.password ∧
        (∃ name, parts.host = .regName name ∧ ∀ c ∈ name.toList, isUnreserved c) ∧
        Literal parts.database ∧ parts.database ≠ "." ∧ parts.database ≠ ".." := by
  have hPort : url.baseConfig.port = parts.port.toNat := by
    change url.port.getD 5432 = _
    rw [h.port]
    rfl
  rw [← user_iff h, ← password_iff h, ← host_iff h, ← database_iff h]
  exact ⟨fun hAll => ⟨hAll.user, hAll.password, hAll.host, hAll.database⟩,
    fun ⟨hUser, hPassword, hHost, hDatabase⟩ => ⟨hUser, hPassword, hHost, hPort, hDatabase⟩⟩

end UriParts

section Params

/-- The parameters that the query of a URI sets. -/
def uriKeys : List String :=
  ["sslmode", "connect_timeout", "application_name", "target_session_attrs", "reconnect",
    "reconnect_max_attempts", "reconnect_initial_delay_ms", "reconnect_max_delay_ms",
    "stale_threshold_secs"]

/-- The parameters that a key-value string sets and a URI has elsewhere. -/
def separateKeys : List String := ["host", "port", "user", "password", "dbname", "database"]

variable {config config' : ParsedConfig} {key value : String}

/-- A parameter that has no other place means the same to both parsers. -/
theorem applyUriParam_eq (h : key ∉ separateKeys) :
    applyUriParam config key value = applyKeyValue config key value := by
  unfold applyKeyValue
  split
  case h_16 =>
    unfold applyUriParam
    split <;> first | rfl | contradiction
  all_goals first | rfl | exact absurd (by decide) h

theorem options_setSslMode (h : config.setSslMode value = .ok config') :
    config'.options = config.options := by
  unfold ParsedConfig.setSslMode at h
  split at h <;> cases h
  rfl

theorem options_setConnectTimeout (h : config.setConnectTimeout value = .ok config') :
    config'.options = config.options := by
  unfold ParsedConfig.setConnectTimeout at h
  split at h <;> cases h
  rfl

theorem options_setTargetSessionAttrs (h : config.setTargetSessionAttrs value = .ok config') :
    config'.options = config.options := by
  obtain ⟨attrs, _, rfl⟩ := Except.of_map h
  rfl

theorem options_setReconnectParam (h : config.setReconnectParam key value = .ok config') :
    config'.options = config.options := by
  unfold ParsedConfig.setReconnectParam at h
  split at h <;> cases h
  rfl

/-- How many options a parameter of a URI adds. -/
theorem options_applyUriParam (h : applyUriParam config key value = .ok config') :
    config'.options.length = config.options.length + if key ∈ uriKeys then 0 else 1 := by
  unfold applyUriParam at h
  split at h
  case h_1 => rw [options_setSslMode h]; rfl
  case h_2 => rw [options_setConnectTimeout h]; rfl
  case h_3 => cases h; rfl
  case h_4 => rw [options_setTargetSessionAttrs h]; rfl
  case h_10 =>
    have hKey : key ∉ uriKeys := by simp_all [uriKeys]
    cases h
    simp [hKey]
  all_goals
    rw [options_setReconnectParam h]
    rfl

/-- A parameter with a place of its own adds none in a key-value string. -/
theorem options_applyKeyValue (h : applyKeyValue config key value = .ok config') :
    config'.options.length =
      config.options.length + if key ∈ uriKeys ∨ key ∈ separateKeys then 0 else 1 := by
  by_cases hSeparate : key ∈ separateKeys
  · rw [if_pos (.inr hSeparate)]
    simp only [separateKeys, List.mem_cons, List.not_mem_nil, or_false] at hSeparate
    rcases hSeparate with rfl | rfl | rfl | rfl | rfl | rfl
    case inr.inl =>
      simp only [applyKeyValue] at h
      split at h <;> cases h
      rfl
    all_goals
      cases h
      rfl
  · rw [← applyUriParam_eq hSeparate] at h
    simp only [hSeparate, or_false]
    exact options_applyUriParam h

end Params

section ParamLists

variable {params : List (String × String)} {config config₁ config₂ : ParsedConfig}

theorem options_uri
    (h : params.foldlM (fun config param => applyUriParam config param.1 param.2) config =
      .ok config₁) :
    config₁.options.length = config.options.length + params.countP (·.1 ∉ uriKeys) := by
  induction params generalizing config with
  | nil =>
      cases h
      rfl
  | cons param params ih =>
      rw [List.foldlM_cons] at h
      obtain ⟨config', hFirst, hRest⟩ := Except.of_bind h
      rw [ih hRest, options_applyUriParam hFirst, List.countP_cons]
      by_cases hKey : param.1 ∈ uriKeys <;> simp [hKey]
      omega

theorem options_keyValue
    (h : params.foldlM (fun config param => applyKeyValue config param.1 param.2) config =
      .ok config₂) :
    config₂.options.length = config.options.length +
      params.countP (fun param => param.1 ∉ uriKeys ∧ param.1 ∉ separateKeys) := by
  induction params generalizing config with
  | nil =>
      cases h
      rfl
  | cons param params ih =>
      rw [List.foldlM_cons] at h
      obtain ⟨config', hFirst, hRest⟩ := Except.of_bind h
      rw [ih hRest, options_applyKeyValue hFirst, List.countP_cons]
      by_cases hKey : param.1 ∈ uriKeys ∨ param.1 ∈ separateKeys
      · rcases hKey with hKey | hKey <;> simp [hKey]
      · have hNeither := not_or.mp hKey
        simp [hNeither.1, hNeither.2]
        omega

/-- A parameter with another place is counted among the options of a URI alone. -/
theorem countP_lt {param : String × String} (hMem : param ∈ params)
    (hSeparate : param.1 ∈ separateKeys) :
    params.countP (fun param => param.1 ∉ uriKeys ∧ param.1 ∉ separateKeys) <
      params.countP (·.1 ∉ uriKeys) := by
  have hOther : param.1 ∉ uriKeys := by
    simp only [separateKeys, List.mem_cons, List.not_mem_nil, or_false] at hSeparate
    rcases hSeparate with h | h | h | h | h | h <;> rw [h] <;> decide
  have hLess : ∀ l : List (String × String),
      l.countP (fun param => param.1 ∉ uriKeys ∧ param.1 ∉ separateKeys) ≤
        l.countP (·.1 ∉ uriKeys) := by
    intro l
    refine List.countP_mono_left fun param _ hBoth => ?_
    exact decide_eq_true (of_decide_eq_true hBoth).1
  obtain ⟨before, after, rfl⟩ := List.append_of_mem hMem
  have hBefore := hLess before
  have hAfter := hLess after
  rw [List.countP_append, List.countP_append, List.countP_cons_of_neg (by simp [hSeparate]),
    List.countP_cons_of_pos (by simp [hOther])]
  omega

/-- Both parsers accept the parameters: they make the same of them unless one of them is among
those that a URI has elsewhere. -/
theorem sameConfig_iff
    (hUri : params.foldlM (fun config param => applyUriParam config param.1 param.2) config =
      .ok config₁)
    (hKeyValue : params.foldlM (fun config param => applyKeyValue config param.1 param.2) config =
      .ok config₂) :
    config₁ = config₂ ↔ ∀ param ∈ params, param.1 ∉ separateKeys := by
  constructor
  · intro hSame param hMem hSeparate
    have hUriLength := options_uri hUri
    have hLength := options_keyValue hKeyValue
    rw [hSame, hLength] at hUriLength
    exact absurd (Nat.add_left_cancel hUriLength) (Nat.ne_of_lt (countP_lt hMem hSeparate))
  · intro hShared
    have hFold : params.foldlM (fun config param => applyUriParam config param.1 param.2) config =
        params.foldlM (fun config param => applyKeyValue config param.1 param.2) config := by
      clear hUri hKeyValue
      induction params generalizing config with
      | nil => rfl
      | cons param params ih =>
          rw [List.foldlM_cons, List.foldlM_cons, applyUriParam_eq (hShared param (by simp))]
          exact congrArg (Except.bind _)
            (funext fun config' => ih fun param hMem => hShared param (by simp [hMem]))
    rw [hFold, hKeyValue] at hUri
    exact (Except.ok.inj hUri).symm

end ParamLists
/-- A URI gives back its components exactly if none of them has to be percent-encoded or is
empty, the host is not an IPv6 address and the database is no dot segment; and the parameters of
a URI that a key-value string takes as well mean the same exactly if none of them names what a URI
has elsewhere. -/
theorem fromUri_iff (parse : String → Except String Url) (parts : UriParts) (url : Url)
    (uri : String) (text : List Char) (params : List (String × String))
    (config₁ config₂ : ParsedConfig) :
    (parse parts.write = .ok url → parts.Returned url →
      ((∃ config, fromUri parse parts.write = .ok config ∧ parts.Restores config) ↔
        UriParts.Literal parts.user ∧ UriParts.Literal parts.password ∧
          (∃ name, parts.host = .regName name ∧ ∀ c ∈ name.toList, isUnreserved c) ∧
          UriParts.Literal parts.database ∧ parts.database ≠ "." ∧ parts.database ≠ "..")) ∧
    (parse uri = .ok { scheme := "postgresql", queryPairs := params } →
      keyValuePairs text = .ok (params.map fun param => (param.1.toList, param.2.toList)) →
      fromUri parse uri = .ok config₁ → fromKeyValue text = .ok config₂ →
        (config₁ = config₂ ↔ ∀ param ∈ params, param.1 ∉ separateKeys)) := by
  constructor
  · intro hParse hReturned
    rw [UriParts.fromUri_write hParse hReturned, ← UriParts.restores_iff hReturned]
    constructor
    · intro ⟨config, hConfig, hRestores⟩
      cases hConfig
      exact hRestores
    · exact fun hRestores => ⟨_, rfl, hRestores⟩
  · intro hParse hPairs hUri hKeyValue
    rw [fromUri, hParse] at hUri
    rw [fromKeyValue_of_pairs hPairs, List.foldlM_map] at hKeyValue
    simp only [String.ofList_toList] at hKeyValue
    exact sameConfig_iff hUri hKeyValue

/-- The URL of a URI whose parts need no encoding. -/
def plainUrl : Url where
  scheme := "postgresql"
  username := "ann"
  password := some "secret"
  hostStr := some "db.example"
  port := some 5432
  path := "/main"

def plainParts : UriParts := ⟨"ann", "secret", .regName "db.example", 5432, "main"⟩

/-- Such a URI and a key-value string with one parameter of the same name. -/
theorem fromUri_plain :
    (∃ config, fromUri (fun _ => .ok plainUrl) plainParts.write = .ok config ∧
      plainParts.Restores config) ∧
    ({ ParsedConfig.new with applicationName := some "job" } : ParsedConfig) =
      { ParsedConfig.new with applicationName := some "job" } := by
  have hReturned : plainParts.Returned plainUrl :=
    ⟨rfl, by decide +kernel, by decide +kernel,
      fun name hName => by cases hName; decide +kernel, nofun, rfl, by decide +kernel, rfl⟩
  refine ⟨((fromUri_iff (fun _ => .ok plainUrl) plainParts plainUrl "" [] [] .new .new).1 rfl
    hReturned).mpr ?_, ?_⟩
  · have hAll : ∀ {s : String}, s.toList.all isUnreserved → ∀ c ∈ s.toList, isUnreserved c :=
      List.all_eq_true.mp
    exact ⟨⟨by decide, hAll rfl⟩, ⟨by decide, hAll rfl⟩, ⟨_, rfl, hAll rfl⟩,
      ⟨by decide, hAll rfl⟩, by decide, by decide⟩
  · exact ((fromUri_iff
      (fun _ => .ok { scheme := "postgresql", queryPairs := [("application_name", "job")] })
      plainParts plainUrl "postgresql:///?application_name=job" "application_name=job".toList
      [("application_name", "job")] _ _).2 rfl (by decide) rfl (by decide +kernel)).mpr (by decide)

/-- The password `p@ss` stays encoded. -/
theorem not_fromUri :
    ¬ ((∀ (parse : String → Except String Url) (parts : UriParts) (url : Url),
        parse parts.write = .ok url → parts.Returned url →
          ∃ config, fromUri parse parts.write = .ok config ∧ parts.Restores config) ∧
      ∀ (parse : String → Except String Url) (uri : String) (text : List Char)
        (params : List (String × String)) (config₁ config₂ : ParsedConfig),
        parse uri = .ok { scheme := "postgresql", queryPairs := params } →
        keyValuePairs text = .ok (params.map fun param => (param.1.toList, param.2.toList)) →
        fromUri parse uri = .ok config₁ → fromKeyValue text = .ok config₂ →
          config₁ = config₂) := by
  intro hAll
  let parts : UriParts := ⟨"ann", "p@ss", .regName "db.example", 5432, "main"⟩
  let url : Url := { plainUrl with password := some "p%40ss" }
  have hReturned : parts.Returned url :=
    ⟨rfl, by decide +kernel, by decide +kernel,
      fun name hName => by cases hName; decide +kernel, nofun, rfl, by decide +kernel, rfl⟩
  obtain ⟨config, hConfig, hRestores⟩ := hAll.1 (fun _ => .ok url) parts url rfl hReturned
  have hPassword := hRestores.password
  cases hConfig
  revert hPassword
  decide

end PgClient
