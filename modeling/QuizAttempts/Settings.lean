/-
**Settings, read from the environment.**

Two settings have to be there; the others have values of their own.  A number that cannot be read,
or that does not fit its width, counts as missing.

Main definitions:

* `Settings` — the settings;
* `Settings.ofEnvironment` — **the settings that an environment gives**.

Main results:

* `Settings.ofEnvironment_nil` — nothing can be done without any.
-/
import QuizAttempts.Refusal

set_option autoImplicit false

namespace QuizAttempts

/-- The settings of a service. -/
structure Settings where
  databaseUrl : String
  tokenSecret : String
  logFilter : String
  /-- The TCP number on which the service listens. -/
  listenPort : Int
  /-- How many seconds a take payload is kept. -/
  payloadSeconds : Int
  deriving DecidableEq

namespace Settings

/-- The variables of an environment with their values. -/
abbrev Environment : Type := List (String × String)

/-- A variable that has to be set. -/
def required (environment : Environment) (name : String) : Except Refusal String :=
  match environment.lookup name with
  | some value => .ok value
  | none => .error (.unset name)

/-- A number, or the given one when the variable is not set to a number in the range. -/
def number (environment : Environment) (name : String) (range : Int → Bool) (standard : Int) :
    Int :=
  let value := (environment.lookup name).bind fun value => readNat? value.toList
  match value with
  | some n => if range n then n else standard
  | none => standard

/-- Where the service listens when nothing is set. -/
def standardListenPort : Int := 3000

/-- How many seconds a take payload is kept when nothing is set. -/
def standardPayloadSeconds : Int := 300

/-- **The settings that an environment gives.** -/
def ofEnvironment (environment : Environment) : Except Refusal Settings := do
  let databaseUrl ← required environment "DATABASE_URL"
  let tokenSecret ← required environment "JWT_SECRET"
  return {
    databaseUrl := databaseUrl
    tokenSecret := tokenSecret
    logFilter := (environment.lookup "RUST_LOG").getD "info"
    listenPort := number environment "PORT" isUInt16 standardListenPort
    payloadSeconds :=
      number environment "TAKE_PAYLOAD_TTL_SECS" isUInt64 standardPayloadSeconds }

@[simp] theorem ofEnvironment_nil : ofEnvironment [] = .error (.unset "DATABASE_URL") := rfl

end Settings

end QuizAttempts
