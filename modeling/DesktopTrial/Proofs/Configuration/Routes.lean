import DesktopTrial.Proofs.Configuration.Validity
import DesktopTrial.Proofs.Text.Routes

/-!
# Routes below the base URL

The URL of a route is the base URL without the slashes at its end, followed by the route.  Where
the base URL names a host these slashes stand behind its scheme, and the URL of every route has
the scheme of the base.  A base URL that is a scheme and nothing else loses the end of it.
-/

namespace DesktopTrial.Url

variable {base scheme scheme' : String} {front rest route : List Char}

/-- Behind its scheme the URL has something else than slashes. -/
def namesHost (url : String) : Bool := (afterScheme url.toList).any (· != '/')

def webSchemes : List String := ["http://", "https://"]

def ShareScheme (url url' : String) : Prop :=
  ∃ scheme ∈ webSchemes, Text.startsWith url scheme = true ∧ Text.startsWith url' scheme = true

/-! ## Stems and routes -/

/-- A base without the slashes at its end. -/
def stem (base : List Char) : List Char := (base.reverse.dropWhile (· == '/')).reverse

/-- A route with a slash in front. -/
def slashed (route : List Char) : List Char :=
  if route.head? = some '/' then route else '/' :: route

theorem joinChars_eq (base route : List Char) :
    joinChars base route = stem base ++ slashed route := by
  rw [joinChars, slashed]
  split <;> rfl

theorem stem_append_of_host (front : List Char) (hhost : rest.any (· != '/') = true) :
    stem (front ++ rest) = front ++ stem rest := by
  have hkept : ¬(rest.reverse.dropWhile (· == '/')).isEmpty = true := by
    rw [List.isEmpty_iff, List.dropWhile_eq_nil_iff]
    intro hslashes
    obtain ⟨c, hmember, hother⟩ := List.any_eq_true.mp hhost
    exact bne_iff_ne.mp hother (beq_iff_eq.mp (hslashes c (List.mem_reverse.mpr hmember)))
  rw [stem, List.reverse_append, List.dropWhile_append, if_neg hkept, List.reverse_append,
    List.reverse_reverse, stem]

theorem stem_append_of_slashes (front : List Char) (hslashes : rest.any (· != '/') = false) :
    stem (front ++ rest) = stem front := by
  have hdropped : (rest.reverse.dropWhile (· == '/')).isEmpty = true := by
    rw [List.isEmpty_iff, List.dropWhile_eq_nil_iff]
    intro c hmember
    have hslash := List.any_eq_false.mp hslashes c (List.mem_reverse.mp hmember)
    simpa using hslash
  rw [stem, List.reverse_append, List.dropWhile_append, if_pos hdropped, stem]

/-- A route has two slashes in front just when it had them before. -/
theorem slashes_prefix_slashed : ['/', '/'] <+: slashed route ↔ ['/', '/'] <+: route := by
  rw [slashed]
  split
  · rfl
  rename_i hhead
  have hnone : ¬['/', '/'] <+: route := by
    rintro ⟨tail, rfl⟩
    exact hhead rfl
  refine iff_of_false ?_ hnone
  rw [List.cons_prefix_cons]
  rintro ⟨-, tail, rfl⟩
  exact hhead rfl

/-! ## Web schemes -/

theorem startsWith_iff {text word : String} :
    Text.startsWith text word = true ↔ word.toList <+: text.toList :=
  List.isPrefixOf_iff_prefix

theorem isWebUrl_iff {url : String} :
    Configuration.isWebUrl url = true ↔
      ∃ scheme ∈ webSchemes, Text.startsWith url scheme = true := by
  simp [Configuration.isWebUrl, webSchemes]

theorem mem_webSchemes : scheme ∈ webSchemes ↔ scheme = "http://" ∨ scheme = "https://" := by
  simp [webSchemes]

/-- A web scheme is a name with the mark of a scheme behind it, of which the stem keeps the
colon. -/
theorem webScheme_parts (hscheme : scheme ∈ webSchemes) : ∃ name : List Char,
    scheme.toList = name ++ schemeMark ∧ stem scheme.toList = name ++ [':'] ∧ ':' ∉ name ∧
      Text.splitOnce? schemeMark scheme.toList = some (name, []) := by
  rcases mem_webSchemes.mp hscheme with rfl | rfl
  · exact ⟨['h', 't', 't', 'p'], by decide⟩
  · exact ⟨['h', 't', 't', 'p', 's'], by decide⟩

/-- A text begins with one web scheme at most. -/
theorem webScheme_unique (hscheme : scheme ∈ webSchemes) (hscheme' : scheme' ∈ webSchemes)
    (hbegins : Text.startsWith base scheme = true)
    (hbegins' : Text.startsWith base scheme' = true) : scheme = scheme' := by
  rw [startsWith_iff] at hbegins hbegins'
  rcases mem_webSchemes.mp hscheme with rfl | rfl <;>
    rcases mem_webSchemes.mp hscheme' with rfl | rfl
  · rfl
  · exact absurd (List.prefix_of_prefix_length_le hbegins hbegins' (by decide)) (by decide)
  · exact absurd (List.prefix_of_prefix_length_le hbegins' hbegins (by decide)) (by decide)
  · rfl

theorem splitOnce?_webScheme {name : List Char}
    (hsplit : Text.splitOnce? schemeMark scheme.toList = some (name, []))
    (hparts : scheme.toList = name ++ schemeMark) (rest : List Char) :
    Text.splitOnce? schemeMark (scheme.toList ++ rest) = some (name, rest) := by
  rw [hparts, List.append_assoc]
  exact Text.splitOnce?_replace (by decide) hsplit rest

/-- A web URL is its scheme with something behind it, where it may name a host. -/
theorem webUrl_parts (hweb : Configuration.isWebUrl base = true) :
    ∃ scheme ∈ webSchemes, ∃ rest, base.toList = scheme.toList ++ rest ∧
      namesHost base = rest.any (· != '/') := by
  obtain ⟨scheme, hscheme, hbegins⟩ := isWebUrl_iff.mp hweb
  obtain ⟨rest, hrest⟩ := startsWith_iff.mp hbegins
  obtain ⟨name, hparts, -, -, hsplit⟩ := webScheme_parts hscheme
  refine ⟨scheme, hscheme, rest, hrest.symm, ?_⟩
  rw [namesHost, afterScheme, ← hrest, splitOnce?_webScheme hsplit hparts]

/-! ## Where a scheme is marked -/

theorem hasMark_append {name : List Char} (hname : ':' ∉ name) (text : List Char) :
    (Text.splitOnce? schemeMark (name ++ text)).isSome =
      (Text.splitOnce? schemeMark text).isSome := by
  rw [splitOnce?_skip hname, Option.isSome_map]

theorem hasMark_colon (text : List Char) :
    (Text.splitOnce? schemeMark (':' :: text)).isSome = true ↔
      ['/', '/'] <+: text ∨ (Text.splitOnce? schemeMark text).isSome = true := by
  have hhere : schemeMark.isPrefixOf (':' :: text) = true ↔ ['/', '/'] <+: text := by
    rw [List.isPrefixOf_iff_prefix, schemeMark, List.cons_prefix_cons]
    exact and_iff_right rfl
  rw [Text.splitOnce?, ← hhere]
  split
  · rename_i hmark
    simp [hmark]
  · rename_i hmark
    simp [hmark]

theorem hasMark_slashed (route : List Char) :
    (Text.splitOnce? schemeMark (slashed route)).isSome =
      (Text.splitOnce? schemeMark route).isSome := by
  rw [slashed]
  split
  · rfl
  · have hslash : ':' ∉ ['/'] := by decide
    exact hasMark_append hslash route

/-! ## The URL of a route -/

/-- Where the base names a host, the URL of a route has the whole scheme of the base. -/
theorem join_of_host (hbase : base.toList = scheme.toList ++ rest)
    (hhost : rest.any (· != '/') = true) (route : String) :
    (join base route).toList = scheme.toList ++ (stem rest ++ slashed route.toList) := by
  rw [join, String.toList_ofList, joinChars_eq, hbase, stem_append_of_host _ hhost,
    List.append_assoc]

/-- Where the base is a scheme with slashes, only the colon is left of the mark. -/
theorem join_of_hostless {name : List Char} (hbase : base.toList = scheme.toList ++ rest)
    (hhostless : rest.any (· != '/') = false) (hstem : stem scheme.toList = name ++ [':'])
    (route : String) :
    (join base route).toList = name ++ ':' :: slashed route.toList := by
  rw [join, String.toList_ofList, joinChars_eq, hbase, stem_append_of_slashes _ hhostless, hstem,
    List.append_assoc, List.singleton_append]

/-- The URL of a route has the scheme of a web base just when the base names a host, or the
route brings the slashes of the mark along. -/
theorem shareScheme_join_iff (hweb : Configuration.isWebUrl base = true) (route : String) :
    ShareScheme base (join base route) ↔
      namesHost base = true ∨ Text.startsWith route "//" = true := by
  obtain ⟨scheme, hscheme, rest, hbase, hhost⟩ := webUrl_parts hweb
  have hbegins : Text.startsWith base scheme = true := startsWith_iff.mpr ⟨rest, hbase.symm⟩
  -- A text has one web scheme at most, so the scheme that is shared is the one found in the base.
  have honly : ShareScheme base (join base route) ↔
      scheme.toList <+: (join base route).toList := by
    constructor
    · rintro ⟨scheme', hscheme', hbase', hjoin'⟩
      rw [webScheme_unique hscheme hscheme' hbegins hbase']
      exact startsWith_iff.mp hjoin'
    · exact fun hjoin => ⟨scheme, hscheme, hbegins, startsWith_iff.mpr hjoin⟩
  rw [honly, hhost]
  cases hnames : rest.any (· != '/') with
  | true =>
      rw [join_of_host hbase hnames]
      exact iff_of_true (List.prefix_append _ _) (.inl rfl)
  | false =>
      obtain ⟨name, hparts, hstem, -, -⟩ := webScheme_parts hscheme
      have hslashes : schemeMark <+: ':' :: slashed route.toList ↔ ['/', '/'] <+: route.toList := by
        rw [schemeMark, List.cons_prefix_cons, slashes_prefix_slashed]
        exact and_iff_right rfl
      rw [join_of_hostless hbase hnames hstem, hparts, List.prefix_append_right_inj, hslashes,
        startsWith_iff]
      simp

/-- The URL of a route below a web base names a scheme just when the base names a host, the
route brings the slashes of the mark along, or the route has a mark of its own. -/
theorem isAbsolute_join_iff (hweb : Configuration.isWebUrl base = true) (route : String) :
    isAbsolute (join base route) = true ↔
      namesHost base = true ∨ Text.startsWith route "//" = true ∨ isAbsolute route = true := by
  obtain ⟨scheme, hscheme, rest, hbase, hhost⟩ := webUrl_parts hweb
  obtain ⟨name, hparts, hstem, hcolon, hsplit⟩ := webScheme_parts hscheme
  rw [hhost]
  cases hnames : rest.any (· != '/') with
  | true =>
      rw [isAbsolute, join_of_host hbase hnames, splitOnce?_webScheme hsplit hparts]
      exact iff_of_true rfl (.inl rfl)
  | false =>
      rw [isAbsolute, join_of_hostless hbase hnames hstem, hasMark_append hcolon, hasMark_colon,
        hasMark_slashed, slashes_prefix_slashed, startsWith_iff, isAbsolute]
      simp

end DesktopTrial.Url
