import CardPayments.Json.Integer
import CardPayments.Text.LowerCase

/-!
# The configuration

How the program is configured by the variables of its environment.  There are three profiles: one for
real use, one for development and one for tests.  The last two keep the data in a file and show more of
what happens; the one for tests has an account of its own, whatever the environment says.
-/

namespace CardPayments

open Json

/-- The variables of the environment. -/
abbrev Environment := List (Text × Text)

/-- What the program is configured for. -/
inductive Profile where
  /-- Real use. -/
  | base
  /-- Development. -/
  | development
  /-- Tests. -/
  | testing
  deriving DecidableEq

/-- The profile with the given name. -/
def Profile.ofName? (t : Text) : Option Profile :=
  if t = Text.ofString "base" then some .base
  else if t = Text.ofString "development" then some .development
  else if t = Text.ofString "testing" then some .testing
  else none

/-- Where the data is kept. -/
inductive Database where
  /-- In a file of the project. -/
  | file (name : Text)
  /-- On a server: the engine, the name of the database, the user and the password, the host and the
  port, and the character set if it has to be said. -/
  | server (engine name user password host port : Text) (charset : Option Text)
  deriving DecidableEq

/-- How the entries of the journal are shown. -/
structure JournalDisplay where
  /-- Where they are shown. -/
  handlers : List Text
  /-- The least level that is shown. -/
  level : Text
  /-- Are they handed on to whoever listens to everything? -/
  propagate : Bool
  deriving DecidableEq

/-- The configuration. -/
structure Configuration where
  /-- The key with which the program signs. -/
  secretKey : Text
  /-- Are failures shown in full? -/
  debug : Bool
  /-- The kind of database that is asked for. -/
  databaseKind : Text
  /-- Where the data is kept. -/
  database : Database
  /-- Where tasks are queued. -/
  brokerUrl : Text
  /-- Where the results of tasks are kept. -/
  resultUrl : Text
  /-- The level of the journal that is asked for. -/
  logLevel : Text
  /-- How the entries of the journal are shown. -/
  journal : JournalDisplay
  /-- The merchant at the provider. -/
  merchantId : Text
  /-- The merchant's key. -/
  privateKey : Text
  /-- Is real money moved? -/
  isProduction : Bool
  /-- The device session for requests without one. -/
  deviceSession : Text
  /-- Where a customer returns after confirming a charge. -/
  redirectUrl : Text
  /-- How many seconds a call may take. -/
  timeout : Int
  deriving DecidableEq

namespace Configuration

/-- A variable, or what stands in for it when it is not set. -/
def setting (env : Environment) (name fallback : Text) : Text :=
  ((env.find? fun entry => entry.1 = name).map (·.2)).getD fallback

/-- Where queued tasks are kept when nothing else is said. -/
def queueUrl : Text := "redis://localhost:6379/0"

/-- The database server that is asked for. -/
def serverOf (env : Environment) (kind : Text) : Database :=
  let own : Text := "order_processing"
  if kind = Text.ofString "mysql" then
    .server "django.db.backends.mysql" (setting env "MYSQL_DB" own) (setting env "MYSQL_USER" own)
      (setting env "MYSQL_PASSWORD" own) (setting env "MYSQL_HOST" "localhost")
      (setting env "MYSQL_PORT" "3306") (some "utf8mb4")
  else
    .server "django.db.backends.postgresql" (setting env "POSTGRES_DB" own)
      (setting env "POSTGRES_USER" own) (setting env "POSTGRES_PASSWORD" own)
      (setting env "POSTGRES_HOST" "localhost") (setting env "POSTGRES_PORT" "5432") none

/-- Does a text say yes? -/
def isYes (t : Text) : Bool :=
  ([Text.ofString "1", Text.ofString "true", Text.ofString "yes"]).contains (Text.lower t)

/-- The configuration for real use. -/
def base (env : Environment) : Except Failure Configuration := do
  let timeout ← (Numeral.readInteger (setting env "OPENPAY_TIMEOUT" "20")).mapError .numeral
  let kind := Text.lower (setting env "DB_ENGINE" "postgres")
  let level := setting env "LOG_LEVEL" "INFO"
  return {
    secretKey := setting env "DJANGO_SECRET_KEY" "change-me-in-production"
    debug := false
    databaseKind := kind
    database := serverOf env kind
    brokerUrl := setting env "CELERY_BROKER_URL" queueUrl
    resultUrl := setting env "CELERY_RESULT_BACKEND" queueUrl
    logLevel := level
    journal := ⟨["console"], level, false⟩
    merchantId := setting env "OPENPAY_MERCHANT_ID" ""
    privateKey := setting env "OPENPAY_PRIVATE_KEY" ""
    isProduction := isYes (setting env "OPENPAY_IS_PRODUCTION" "false")
    deviceSession := setting env "OPENPAY_DEVICE_SESSION_ID" ""
    redirectUrl := setting env "OPENPAY_REDIRECT_URL" ""
    timeout := timeout }

/-- The configuration for development: customers return to the own machine unless something else is
said. -/
def forDevelopment (c : Configuration) : Configuration :=
  { c with
    debug := true
    database := .file "db.sqlite3"
    redirectUrl :=
      if c.redirectUrl.isEmpty then "http://localhost:8000/payments/openpay/return/" else c.redirectUrl
    journal := { c.journal with level := "DEBUG" } }

/-- The configuration for tests. -/
def forTesting (c : Configuration) : Configuration :=
  { c with
    debug := true
    database := .file "test_db.sqlite3"
    merchantId := "mtest0000000000000000"
    privateKey := "sk_test_0000000000000000"
    isProduction := false
    deviceSession := "test-device-session"
    redirectUrl := "https://shop.example.com/payments/return"
    journal := { c.journal with handlers := [], propagate := true } }

/-- The configuration that a profile and the environment give. -/
def ofEnvironment (profile : Profile) (env : Environment) : Except Failure Configuration :=
  match profile with
  | .base => base env
  | .development => (base env).map forDevelopment
  | .testing => (base env).map forTesting

/-! ### Writing -/

/-- What stands for the folder of the project in the name of a file. -/
def projectFolder : Text := "<BASE_DIR>"

/-- A database as an object; the character set is an option of its own. -/
def databaseJson : Database → Value
  | .file name => .object [("ENGINE", "django.db.backends.sqlite3"),
      ("NAME", (projectFolder ++ "/" ++ name : Text))]
  | .server engine name user password host port charset =>
    let server : List (Text × Value) :=
      [("ENGINE", engine), ("NAME", name), ("USER", user), ("PASSWORD", password), ("HOST", host),
       ("PORT", port)]
    let options : List (Text × Value) :=
      match charset with
      | some c => [("OPTIONS", .object [("charset", c)])]
      | none => []
    .object (server ++ options)

/-- How the journal is shown, as an object. -/
def journalJson (j : JournalDisplay) : Value :=
  .object [("handlers", .list (j.handlers.map .text)), ("level", j.level),
    ("propagate", .bool j.propagate)]

/-- The configuration as an object. -/
def toJson (c : Configuration) : Value :=
  .object [("SECRET_KEY", c.secretKey), ("DEBUG", .bool c.debug), ("ALLOWED_HOSTS", .list ["*"]),
    ("DB_ENGINE", c.databaseKind), ("DATABASES", .object [("default", databaseJson c.database)]),
    ("LANGUAGE_CODE", "en-us"), ("TIME_ZONE", "America/Mexico_City"), ("USE_I18N", .bool true),
    ("USE_TZ", .bool true), ("STATIC_URL", "/static/"), ("CELERY_BROKER_URL", c.brokerUrl),
    ("CELERY_RESULT_BACKEND", c.resultUrl), ("LOG_LEVEL", c.logLevel),
    ("OPENPAY_MERCHANT_ID", c.merchantId), ("OPENPAY_PRIVATE_KEY", c.privateKey),
    ("OPENPAY_IS_PRODUCTION", .bool c.isProduction),
    ("OPENPAY_DEVICE_SESSION_ID", c.deviceSession), ("OPENPAY_REDIRECT_URL", c.redirectUrl),
    ("OPENPAY_TIMEOUT", .int c.timeout), ("apps_logger", journalJson c.journal)]

end Configuration

end CardPayments
