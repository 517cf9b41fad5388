import RouteOverrides.Settings
import RouteOverrides.Text.Base64
import RouteOverrides.Text.Split
import RouteOverrides.Text.Utf8

/-! # Credentials

Requests that change something carry a user and a password, joined by a colon and written in base 64
behind the word `Basic`.

* `Credentials.ofHeader?`: reads the header. The word may be spelled in any case, and the password
  is what follows the first colon. Anything beyond ASCII is malformed.
* `Credentials.judge`: compares with the configured credentials, the user first. A configured value
  beyond ASCII cannot be compared at all. -/

namespace RouteOverrides

/-- A user with a password. -/
structure Credentials where
  user : String
  password : String
  deriving DecidableEq, Repr

namespace Credentials

/-- The value of the header that carries credentials. -/
def toHeader (credentials : Credentials) : String :=
  let text := credentials.user ++ ":" ++ credentials.password
  "Basic " ++ String.ofList (Text.base64 (text.toList.flatMap Text.utf8Bytes))

/-- Reads the credentials behind the word `Basic`. -/
def decode? (encoded : List Char) : Option Credentials := do
  if !Text.isAscii encoded then failure
  let bytes ← Text.ofBase64? encoded
  if !bytes.all (· < 128) then failure
  let (user, password) ← Text.cut? ':' (bytes.map Char.ofNat)
  pure ⟨String.ofList user, String.ofList password⟩

def ofHeader? (value : String) : Option Credentials :=
  let sides := (Text.cut? ' ' value.toList).getD (value.toList, [])
  if sides.1.map Char.toLower = "basic".toList then decode? sides.2 else none

/-- What comes of comparing credentials. -/
inductive Verdict where
  | accepted
  | refused
  /-- A configured value cannot be compared. -/
  | incomparable
  deriving DecidableEq, Repr

def compareText (given configured : String) : Verdict :=
  if !Text.isAscii given.toList || !Text.isAscii configured.toList then .incomparable
  else if given = configured then .accepted
  else .refused

/-- Compares credentials with the configured ones. The password counts only once the user fits. -/
def judge (credentials : Credentials) (settings : Settings) : Verdict :=
  match compareText credentials.user settings.adminUser with
  | .accepted => compareText credentials.password settings.adminPassword
  | verdict => verdict

end Credentials

end RouteOverrides
