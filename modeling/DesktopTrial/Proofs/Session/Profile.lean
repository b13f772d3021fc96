import DesktopTrial.Session

/-!
# How a session is written down

The user of a session is written down as a name and further fields, which are set one after the
other.  What counts is the value that each field has in the end: sessions that agree there are
the same.
-/

namespace DesktopTrial.Seed

variable {token : String}

/-- Fields that are set one after the other are put into the user. -/
theorem foldl_withField (fields : List (String × Json)) (seed : Seed) :
    fields.foldl (fun seed field => seed.withField field.1 field.2) seed =
      { seed with user := seed.user.insertAll fields } := by
  induction fields generalizing seed with
  | nil => rfl
  | cons field fields ih => exact ih (seed.withField field.1 field.2)

/-- A name and further fields, each of which takes the place of an earlier one. -/
structure Profile where
  username : String
  fields : List (String × Json)

namespace Profile

def seed (profile : Profile) (token : String) : Seed :=
  profile.fields.foldl (fun seed field => seed.withField field.1 field.2)
    (ofUser token profile.username)

def value? (profile : Profile) (key : String) : Option Json :=
  valueUnder? key (("username", .string profile.username) :: profile.fields).reverse

theorem find?_seed (profile : Profile) (token key : String) :
    (profile.seed token).user.find? key = profile.value? key := by
  have huser : (profile.seed token).user =
      Dictionary.empty.insertAll (("username", .string profile.username) :: profile.fields) := by
    rw [seed, foldl_withField]
    rfl
  rw [huser, Dictionary.find?_insertAll_reverse, Dictionary.find?_empty, Option.or_none, value?]

/-- Sessions with the same token are the same just when every field has the same value in the
end. -/
theorem seed_eq_iff {profile profile' : Profile} :
    profile.seed token = profile'.seed token ↔
      ∀ key, profile.value? key = profile'.value? key := by
  constructor
  · intro hsame key
    rw [← find?_seed profile token, ← find?_seed profile' token, hsame]
  · intro hvalues
    have huser : (profile.seed token).user = (profile'.seed token).user :=
      Dictionary.ext_find? fun key => by rw [find?_seed, find?_seed, hvalues]
    rw [seed, seed, foldl_withField, foldl_withField] at huser ⊢
    exact congrArg (Seed.mk token) huser

end Profile

end DesktopTrial.Seed
