import PgClient.Transport.Error

/-!
The connection parameters that negotiation, startup and authentication read.
-/

namespace PgClient

/-- PostgreSQL's `sslmode`. -/
inductive SslMode where
  | disable
  | prefer
  | require
  | verifyCa
  | verifyFull
deriving DecidableEq, Repr

structure Config where
  host : String
  user : String
  password : Option String
  database : Option String
  applicationName : Option String
  sslMode : SslMode
  options : List (String × String)
  /-- In whole milliseconds, as it is sent. -/
  statementTimeout : Option Nat
  acceptInvalidCerts : Bool
  allowInsecureAuth : Bool
deriving DecidableEq, Repr

namespace Config

/-- With the `tls` feature. -/
def new : Config where
  host := "localhost"
  user := "postgres"
  password := none
  database := none
  applicationName := none
  sslMode := .verifyFull
  options := []
  statementTimeout := none
  acceptInvalidCerts := false
  allowInsecureAuth := false

def startupParams (config : Config) : List (String × String) :=
  [("user", config.user), ("database", config.database.getD config.user),
    ("client_encoding", "UTF8")] ++
  (config.applicationName.map fun name => ("application_name", name)).toList ++
  (config.statementTimeout.map fun timeout =>
    ("statement_timeout", toString timeout ++ "ms")).toList ++
  config.options

end Config
end PgClient
