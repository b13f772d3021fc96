import DesktopTrial.Proofs.Session.Profile

/-!
# The session that settings describe

Settings name a user and list further fields of it, which are merged over the user with that
name.  So the user that is stored has every further field, and the configured name unless a
further field takes its place; the application accepts the session if what is stored as the name
is a text that is not blank, and the token is not blank either.
-/

namespace DesktopTrial

namespace SessionSettings

/-- The name of the user as it is stored: a further field of this name takes the place of the
configured one. -/
def storedName (settings : SessionSettings) : Json :=
  (settings.userFields.find? "username").getD (.string settings.username)

structure Usable (settings : SessionSettings) : Prop where
  token : Text.isBlank settings.token = false
  name : ∃ name, settings.storedName = .string name ∧ Text.isBlank name = false

def complaint (settings : SessionSettings) : String :=
  if Text.isBlank settings.token then "auth token is empty" else "user has no username"

/-- The user as the settings read: the configured name, and further fields beside it. -/
def described? (settings : SessionSettings) (key : String) : Option Json :=
  if key = "username" then some (.string settings.username) else settings.userFields.find? key

/-- No further field takes the place of the configured name. -/
def KeepsName (settings : SessionSettings) : Prop :=
  ∀ value, settings.userFields.find? "username" = some value → value = .string settings.username

variable {settings : SessionSettings}

theorem storedName_eq_iff : settings.storedName = .string settings.username ↔
    settings.KeepsName := by
  rw [storedName, KeepsName]
  cases settings.userFields.find? "username" with
  | none => simp
  | some value => simp

/-- A session whose name is kept is usable if neither the token nor that name is blank. -/
theorem KeepsName.usable_iff (hkeeps : settings.KeepsName) : settings.Usable ↔
    Text.isBlank settings.token = false ∧ Text.isBlank settings.username = false := by
  have hname := storedName_eq_iff.mpr hkeeps
  constructor
  · rintro ⟨htoken, name, hstored, hblank⟩
    rw [hname] at hstored
    cases hstored
    exact ⟨htoken, hblank⟩
  · rintro ⟨htoken, hblank⟩
    exact ⟨htoken, settings.username, hname, hblank⟩

end SessionSettings

namespace Seed

variable {settings : SessionSettings}

/-- The further fields are merged into a user with the configured name. -/
theorem ofSettings_eq (settings : SessionSettings) :
    ofSettings settings =
      ⟨settings.token, (ofUser settings.token settings.username).user.merge settings.userFields⟩ :=
  foldl_withField settings.userFields.entries (ofUser settings.token settings.username)

theorem username_ofSettings :
    (ofSettings settings).user.find? "username" = some settings.storedName := by
  have hconfigured : (ofUser settings.token settings.username).user.find? "username" =
      some (.string settings.username) := rfl
  rw [ofSettings_eq, Dictionary.find?_merge, hconfigured, SessionSettings.storedName]
  cases settings.userFields.find? "username" <;> rfl

theorem find?_ofSettings {key : String} (hkey : key ≠ "username") :
    (ofSettings settings).user.find? key = settings.userFields.find? key := by
  have hbeside : (ofUser settings.token settings.username).user.find? key = none :=
    (Dictionary.find?_insert "username" key _ .empty).trans (if_neg hkey)
  rw [ofSettings_eq, Dictionary.find?_merge, hbeside, Option.or_none]

/-- The user is stored as it is described just when its name is kept. -/
theorem find?_ofSettings_eq_described?_iff :
    (∀ key, (ofSettings settings).user.find? key = settings.described? key) ↔
      settings.KeepsName := by
  have hdescribed : settings.described? "username" = some (.string settings.username) := if_pos rfl
  rw [← SessionSettings.storedName_eq_iff]
  constructor
  · intro hstored
    apply Option.some.inj
    calc
      some settings.storedName = (ofSettings settings).user.find? "username" :=
        username_ofSettings.symm
      _ = settings.described? "username" := hstored "username"
      _ = some (.string settings.username) := hdescribed
  · intro hname key
    by_cases hkey : key = "username"
    · rw [hkey, username_ofSettings, hname, hdescribed]
    · rw [find?_ofSettings hkey, SessionSettings.described?, if_neg hkey]

theorem hasUsername_ofSettings_iff : (ofSettings settings).hasUsername = true ↔
    ∃ name, settings.storedName = .string name ∧ Text.isBlank name = false := by
  rw [hasUsername, username_ofSettings]
  cases settings.storedName <;> simp

/-- Only settings that are not usable fail, with what is wrong about them. -/
theorem entries_ofSettings_eq_error_iff {failure : Failure} :
    (ofSettings settings).entries = .error failure ↔
      ¬settings.Usable ∧ failure = .bootstrap settings.complaint := by
  have htoken : (ofSettings settings).token = settings.token := by rw [ofSettings_eq]
  rw [entries, validate, htoken, SessionSettings.complaint]
  cases hblank : Text.isBlank settings.token with
  | true =>
      have hunusable : ¬settings.Usable := fun husable =>
        Bool.false_ne_true (husable.token.symm.trans hblank)
      simp [hunusable, eq_comm]
  | false =>
      cases hname : (ofSettings settings).hasUsername with
      | true =>
          have husable : settings.Usable := ⟨hblank, hasUsername_ofSettings_iff.mp hname⟩
          simp [husable]
      | false =>
          have hunusable : ¬settings.Usable := fun husable =>
            Bool.false_ne_true (hname.symm.trans (hasUsername_ofSettings_iff.mpr husable.name))
          simp [hunusable, eq_comm]

theorem entries_ofSettings_eq_ok_iff :
    (∃ entries, (ofSettings settings).entries = .ok entries) ↔ settings.Usable := by
  cases hentries : (ofSettings settings).entries with
  | ok entries =>
      have husable : settings.Usable := Classical.not_not.mp fun hunusable => by
        cases hentries.symm.trans (entries_ofSettings_eq_error_iff.mpr ⟨hunusable, rfl⟩)
      exact iff_of_true ⟨entries, rfl⟩ husable
  | error failure =>
      have hunusable := (entries_ofSettings_eq_error_iff.mp hentries).1
      exact iff_of_false nofun hunusable

theorem validate_ofSettings_eq_ok_iff :
    (ofSettings settings).validate = .ok () ↔ settings.Usable := by
  rw [← entries_ofSettings_eq_ok_iff, entries]
  cases (ofSettings settings).validate with
  | error failure => simp
  | ok _ => simp

/-- Every further field is stored, and the stored user is the described one just when no further
field takes the place of the configured name.  The session is valid just when it is usable; where
the configured name is kept, that is when neither the token nor the name is blank. -/
theorem described_user_stored (settings : SessionSettings) :
    ((∀ key, (ofSettings settings).user.find? key = settings.described? key) ↔
      settings.KeepsName) ∧
    (∀ key, key ≠ "username" →
      (ofSettings settings).user.find? key = settings.userFields.find? key) ∧
    (ofSettings settings).user.find? "username" = some settings.storedName ∧
    ((ofSettings settings).validate = .ok () ↔ settings.Usable) ∧
    (settings.KeepsName → ((ofSettings settings).validate = .ok () ↔
      Text.isBlank settings.token = false ∧ Text.isBlank settings.username = false)) := by
  constructor
  · exact find?_ofSettings_eq_described?_iff
  constructor
  · exact fun key hkey => find?_ofSettings hkey
  constructor
  · exact username_ofSettings
  constructor
  · exact validate_ofSettings_eq_ok_iff
  · exact fun hkeeps => validate_ofSettings_eq_ok_iff.trans hkeeps.usable_iff

def renamedSettings : SessionSettings :=
  { userFields := Dictionary.ofList [("username", .string "root")] }

def numberedSettings : SessionSettings :=
  { userFields := Dictionary.ofList [("username", .integer 7)] }

/-- A further field can take the place of the configured name: another user is stored then, or a
session that is not valid although neither its token nor the configured name is blank. -/
theorem configured_name_lost :
    (¬∀ (settings : SessionSettings) (key : String),
      (ofSettings settings).user.find? key = settings.described? key) ∧
    ¬∀ settings : SessionSettings, Text.isBlank settings.token = false →
      Text.isBlank settings.username = false → (ofSettings settings).validate = .ok () := by
  constructor
  · intro hstored
    have hname : some (Json.string "root") = some (Json.string "admin") :=
      hstored renamedSettings "username"
    have hsame : "root" ≠ "admin" := by decide
    exact hsame (Json.string.inj (Option.some.inj hname))
  · intro hvalid
    have hvalidated : Except.error (Failure.bootstrap "user has no username") = .ok () :=
      hvalid numberedSettings (by decide) (by decide)
    cases hvalidated

end Seed

end DesktopTrial
