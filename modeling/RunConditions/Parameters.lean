import RunConditions.Embedded
import RunConditions.Files
import RunConditions.Properties

/-!
# Connection parameters

The settings with which a database is opened. The connection string and the
description leave the password out.
-/

set_option autoImplicit false

namespace RunConditions

structure Parameters where
  user : String
  password : String
  database : String
  hostname : String
  port : UInt16
  driver : String
  deriving DecidableEq

namespace Parameters

def defaultPort : UInt16 := 5432

def defaultDriver : String := "postgresql"

def connectionString (p : Parameters) : String :=
  p.driver ++ "://" ++ p.user ++ "@" ++ p.hostname ++ ":" ++ toString p.port.toNat ++ "/" ++
    p.database

def describe (p : Parameters) : String :=
  "ConnectionParameters \x7b user: " ++ Text.quoted p.user ++ ", password: \"***\", database: " ++
    Text.quoted p.database ++ ", hostname: " ++ Text.quoted p.hostname ++ ", port: " ++
    toString p.port.toNat ++ ", driver: " ++ Text.quoted p.driver ++ " \x7d"

def required (properties : Properties) (key : String) : Except Error String :=
  match properties.get? key with
  | some value => .ok value
  | none => .error (.configuration (.missingProperty key))

def readPort (properties : Properties) : Except Error UInt16 :=
  match properties.get? "port" with
  | none => .ok defaultPort
  | some text =>
    match Numeral.readNat 10 65535 text.toList with
    | .ok n => .ok (UInt16.ofNat n)
    | .error fault => .error (.configuration (.badPort text fault))

/-- A bad port is reported before a missing setting. -/
def ofProperties (properties : Properties) : Except Error Parameters := do
  let port ← readPort properties
  return {
    user := ← required properties "user"
    password := ← required properties "password"
    database := ← required properties "database"
    hostname := ← required properties "hostname"
    port
    driver := (properties.get? "driver").getD defaultDriver }

def ofText (text : String) : Except Error Parameters :=
  ofProperties (Properties.ofText text)

def ofFile (files : Files) (path : String) : Except Error Parameters := do
  ofText (← files.read path (.noPropertiesFile path))

def ofResource (name : String) : Except Error Parameters :=
  match Embedded.find? name with
  | some text => ofText text
  | none => .error (.resource (.noEmbedded name))

end Parameters
end RunConditions
