import DesktopTrial.Proofs.Configuration.Routes
import DesktopTrial.Proofs.Text.Paths

/-!
# Where routes land

A base URL names a host, and possibly a place on it where the application is mounted.  Whatever
slashes are written behind that, the URL of a route has one slash between the base and the route,
and its path is the place with the route behind it, up to the query or fragment of the route.
-/

namespace DesktopTrial.Url

variable {front mount : List Char}

/-! ## Slashes at the end of a base -/

theorem stem_eq_self (hlast : front.getLast? ≠ some '/') : stem front = front := by
  rw [stem]
  cases hreverse : front.reverse with
  | nil => rw [List.reverse_eq_nil_iff.mp hreverse]; rfl
  | cons c rest =>
      have hc : c ≠ '/' := by
        rintro rfl
        rw [← List.head?_reverse, hreverse] at hlast
        exact hlast rfl
      rw [List.dropWhile_cons_of_neg (by simpa using hc), ← hreverse, List.reverse_reverse]

theorem stem_append_replicate (hlast : front.getLast? ≠ some '/') (slashes : Nat) :
    stem (front ++ List.replicate slashes '/') = front := by
  have hslashes : (List.replicate slashes '/').any (· != '/') = false := by
    rw [List.any_replicate]
    split <;> rfl
  rw [stem_append_of_slashes front hslashes, stem_eq_self hlast]

theorem slashed_head? (route : List Char) : (slashed route).head? = some '/' := by
  rw [slashed]
  split
  · assumption
  · rfl

/-! ## Base URLs -/

/-- The parts of a base URL that names a host. -/
structure Base where
  scheme : String
  authority : String
  /-- The place on the host where the application is mounted. -/
  mount : String
  scheme_web : scheme = "http" ∨ scheme = "https"
  authority_named : authority ≠ ""
  authority_bare : ∀ c ∈ authority.toList, c ≠ '/' ∧ endsPath c = false
  mount_route : mount = "" ∨ IsRoute mount
  mount_ends : mount.toList.getLast? ≠ some '/'

namespace Base

variable {base : Base}

/-- The base URL, written with this many slashes at its end. -/
def text (base : Base) (slashes : Nat) : String :=
  base.scheme ++ "://" ++ base.authority ++ base.mount ++
    String.ofList (List.replicate slashes '/')

theorem toList_text (base : Base) (slashes : Nat) : (base.text slashes).toList =
    (base.scheme.toList ++ schemeMark) ++
      (base.authority.toList ++ base.mount.toList ++ List.replicate slashes '/') := by
  have hmark : "://".toList = schemeMark := rfl
  simp only [text, String.toList_append, String.toList_ofList, hmark, List.append_assoc]

theorem scheme_bare (base : Base) : ':' ∉ base.scheme.toList := by
  rcases base.scheme_web with hscheme | hscheme <;> rw [hscheme] <;> decide

theorem slash_not_mem_authority (base : Base) : '/' ∉ base.authority.toList :=
  fun hmember => (base.authority_bare _ hmember).1 rfl

/-- The host is something else than slashes. -/
theorem any_authority (base : Base) (rest : List Char) :
    (base.authority.toList ++ rest).any (· != '/') = true := by
  have hnamed : base.authority.toList ≠ [] := mt String.toList_eq_nil_iff.mp base.authority_named
  obtain ⟨c, hmember⟩ := List.exists_mem_of_ne_nil _ hnamed
  rw [List.any_eq_true]
  exact ⟨c, List.mem_append_left _ hmember, bne_iff_ne.mpr (base.authority_bare c hmember).1⟩

theorem getLast?_ne_slash (base : Base) :
    (base.authority.toList ++ base.mount.toList).getLast? ≠ some '/' := by
  rw [List.getLast?_append]
  cases hlast : base.mount.toList.getLast? with
  | some c =>
      rw [Option.some_or, ← hlast]
      exact base.mount_ends
  | none =>
      rw [Option.none_or]
      exact fun hslash => base.slash_not_mem_authority (List.mem_of_getLast? hslash)

theorem bare_of_mem_mount {c : Char} (hmember : c ∈ base.mount.toList) : endsPath c = false := by
  rcases base.mount_route with hnone | hroute
  · rw [hnone] at hmember
    cases hmember
  · exact hroute.bare c hmember

theorem mount_slashed_head? (base : Base) (route : List Char) :
    (base.mount.toList ++ slashed route).head? = some '/' := by
  rw [List.head?_append]
  rcases base.mount_route with hnone | hroute
  · rw [hnone]
    exact slashed_head? route
  · rw [hroute.slash, Option.some_or]

/-! ## The URL of a route -/

/-- The slashes at the end of the base are gone. -/
theorem toList_join (base : Base) (slashes : Nat) (route : String) :
    (join (base.text slashes) route).toList =
      base.scheme.toList ++ (schemeMark ++
        (base.authority.toList ++ (base.mount.toList ++ slashed route.toList))) := by
  have hhost := base.any_authority (base.mount.toList ++ List.replicate slashes '/')
  rw [← List.append_assoc] at hhost
  rw [join, String.toList_ofList, joinChars_eq, toList_text, stem_append_of_host _ hhost,
    stem_append_replicate base.getLast?_ne_slash]
  simp only [List.append_assoc]

theorem path_join (base : Base) (slashes : Nat) (route : String) :
    path (join (base.text slashes) route) =
      base.mount ++ String.ofList ((slashed route.toList).takeWhile fun c => !endsPath c) := by
  have hmount : ∀ c ∈ base.mount.toList, (!endsPath c) = true :=
    fun _ hmember => congrArg not (bare_of_mem_mount hmember)
  rw [path, toList_join, pathChars_route base.scheme_bare base.slash_not_mem_authority
    (base.mount_slashed_head? _), List.takeWhile_append_of_pos hmount, String.ofList_append,
    String.ofList_toList]

end Base

/-- With whatever slashes the base URL ends, the URL of a route is the base without them, followed
by the route with a slash in front.  Its path is the place where the application is mounted,
followed by the route up to its query or fragment. -/
theorem route_lands {config : Configuration} {base : Base} {slashes : Nat}
    (hbase : config.baseUrl = base.text slashes) (route : String) :
    config.url route = base.text 0 ++ String.ofList (slashed route.toList) ∧
    path (config.url route) =
      base.mount ++ String.ofList ((slashed route.toList).takeWhile fun c => !endsPath c) := by
  rw [Configuration.url, hbase]
  refine ⟨?_, base.path_join slashes route⟩
  apply String.toList_injective
  rw [String.toList_append, String.toList_ofList, Base.toList_text, Base.toList_join]
  simp only [List.replicate_zero, List.append_nil, List.append_assoc]

def mountedBase : Base where
  scheme := "https"
  authority := "host:8080"
  mount := "/nas"
  scheme_web := .inr rfl
  authority_named := by simp
  authority_bare := by simp [endsPath]
  mount_route := .inr ⟨rfl, by simp [endsPath]⟩
  mount_ends := by simp

def mountedConfiguration : Configuration := { baseUrl := "https://host:8080/nas//" }

/-- A route with an address in its query lands below the mounted application. -/
theorem mounted_route_lands :
    mountedConfiguration.baseUrl = mountedBase.text 2 ∧
    mountedConfiguration.url "desktop?at=http://h/" =
      "https://host:8080/nas/desktop?at=http://h/" ∧
    path (mountedConfiguration.url "desktop?at=http://h/") = "/nas/desktop" := by
  have hbase : mountedConfiguration.baseUrl = mountedBase.text 2 := by decide
  obtain ⟨hurl, hpath⟩ := route_lands hbase "desktop?at=http://h/"
  exact ⟨hbase, hurl, hpath⟩

end DesktopTrial.Url
