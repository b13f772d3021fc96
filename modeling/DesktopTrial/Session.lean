import DesktopTrial.Configuration.Basic
import DesktopTrial.Locator.Expression
import DesktopTrial.Text.Blank

/-!
# Sessions

A session is brought into a page by writing two entries of its storage before the
application starts: the token, and the user as JSON text.
-/

namespace DesktopTrial

abbrev Storage := Dictionary String

/-- The session to be written. -/
structure Seed where
  token : String
  user : Dictionary Json

namespace Seed

def tokenKey : String := "auth_token"

def userKey : String := "user"

/-- The session of a user who has no further fields. -/
def ofUser (token username : String) : Seed :=
  ⟨token, Dictionary.ofList [("username", .string username)]⟩

def withField (key : String) (value : Json) (seed : Seed) : Seed :=
  { seed with user := seed.user.insert key value }

/-- The configured session: the user's name, then every further field in order. -/
def ofSettings (settings : SessionSettings) : Seed :=
  settings.userFields.entries.foldl (fun seed field => seed.withField field.1 field.2)
    (ofUser settings.token settings.username)

/-- Does the user have a name that is not blank? -/
def hasUsername (seed : Seed) : Bool :=
  match seed.user.find? "username" with
  | some (.string name) => !Text.isBlank name
  | _ => false

/-- Refuses a session that the application would not accept. -/
def validate (seed : Seed) : Except Failure Unit :=
  if Text.isBlank seed.token then .error (.bootstrap "auth token is empty")
  else if seed.hasUsername then .ok ()
  else .error (.bootstrap "user has no username")

/-- The storage entries that make up a valid session. -/
def entries (seed : Seed) : Except Failure Storage :=
  match seed.validate with
  | .error failure => .error failure
  | .ok () => .ok (Dictionary.ofList
      [(tokenKey, seed.token), (userKey, Json.compact (.ofDictionary seed.user))])

def document (seed : Seed) : Document :=
  .mapping [("auth_token", .text seed.token), ("user", .ofJson (.ofDictionary seed.user))]

def read? {ν : Type} [Source ν] (tree : ν) : Option Seed :=
  match Source.record? 2 tree with
  | none => none
  | some fields =>
      match fields.required? 0 "auth_token" Source.text?,
          fields.required? 1 "user" Source.dictionary? with
      | some token, some user => some ⟨token, user⟩
      | _, _ => none

end Seed

namespace Session

/-- The window property that keeps the reason why storage could not be written. -/
def errorFlag : String := "__deskprobeSeedError"

def storageJson (entries : Storage) : Json :=
  .object (entries.entries.map fun entry => (entry.1, .string entry.2))

/-- The script that writes entries into the storage of every new document. -/
def initScript (entries : Storage) : String :=
  "(() => \x7b try \x7b const entries = " ++ Json.compact (storageJson entries) ++
    "; for (const [k, v] of Object.entries(entries)) \x7b window.localStorage.setItem(k, v); \x7d \x7d catch (e) \x7b window." ++
    errorFlag ++ " = String(e); \x7d \x7d)();"

/-- The expression that reads one entry and reports a refusal as data. -/
def probeScript (key : String) : String :=
  "(() => \x7b try \x7b return \x7b ok: true, value: window.localStorage.getItem(" ++
    scriptLiteral key ++
    "), error: null \x7d; \x7d catch (e) \x7b return \x7b ok: false, value: null, error: String(window." ++
    errorFlag ++ " || e) \x7d; \x7d \x7d)()"

end Session

end DesktopTrial
