import DesktopTrial.Proofs.Text.Routes
import DesktopTrial.Proofs.Text.Runs

/-!
# Paths of absolute URLs

An absolute URL is a scheme with its mark, an authority, a path, and a tail that holds the query
and the fragment.  Reading looks for the first slash behind the mark, wherever that stands.  So a
path that is there is read as it is, and in a URL without one, a slash in the tail is taken for
the beginning of a path.
-/

namespace DesktopTrial.Url

/-- The parts of an absolute URL in the order in which they are written. -/
structure Absolute where
  scheme : String
  authority : String
  path : String
  /-- The query and the fragment, in which anything may stand. -/
  tail : String
  scheme_bare : ':' ∉ scheme.toList
  authority_bare : ∀ c ∈ authority.toList, c ≠ '/' ∧ endsPath c = false
  path_route : path = "" ∨ IsRoute path
  tail_opens : ∀ c ∈ tail.toList.head?, endsPath c = true

namespace Absolute

def text (url : Absolute) : String :=
  url.scheme ++ "://" ++ url.authority ++ url.path ++ url.tail

/-- The path that the URL names: without one it is the root. -/
def named (url : Absolute) : String := if url.path = "" then "/" else url.path

/-- The URL has no path, and the first slash of its tail has more behind it than a query or a
fragment. -/
def Misleads (url : Absolute) : Prop :=
  url.path = "" ∧ ∃ front c back, url.tail.toList = front ++ '/' :: c :: back ∧ '/' ∉ front ∧
    endsPath c = false

end Absolute

variable {scheme front route rest back : List Char}

/-! ## The first slash behind the mark -/

/-- A scheme without a colon stands in front of the first mark. -/
theorem splitOnce?_scheme (hscheme : ':' ∉ scheme) (rest : List Char) :
    Text.splitOnce? schemeMark (scheme ++ (schemeMark ++ rest)) = some (scheme, rest) := by
  rw [splitOnce?_skip hscheme, Text.splitOnce?_word (by decide), Option.map_some, List.append_nil]

theorem dropWhile_slash (hfront : '/' ∉ front) (hstops : Text.Stops (· != '/') rest) :
    (front ++ rest).dropWhile (· != '/') = rest := by
  refine Text.dropWhile_append_of_stops (fun c hmember => ?_) hstops
  exact bne_iff_ne.mpr (ne_of_mem_of_not_mem hmember hfront)

/-- Behind an authority, and whatever else has no slash, a route is read up to its query or
fragment. -/
theorem pathChars_route (hscheme : ':' ∉ scheme) (hfront : '/' ∉ front)
    (hroute : route.head? = some '/') :
    pathChars (scheme ++ (schemeMark ++ (front ++ route))) =
      route.takeWhile fun c => !endsPath c := by
  obtain ⟨back, rfl⟩ := List.head?_eq_some_iff.mp hroute
  rw [pathChars, afterScheme, splitOnce?_scheme hscheme, dropWhile_slash hfront (.cons (by decide))]

theorem pathChars_slashless (hscheme : ':' ∉ scheme) (hfront : '/' ∉ front) :
    pathChars (scheme ++ (schemeMark ++ front)) = ['/'] := by
  have hnone : front.dropWhile (· != '/') = [] := by
    simpa using dropWhile_slash hfront .nil
  rw [pathChars, afterScheme, splitOnce?_scheme hscheme, hnone]

/-- A text is cut at its first slash in one way. -/
theorem first_slash_unique {front' back' : List Char} (hfront : '/' ∉ front)
    (hfront' : '/' ∉ front') (hsame : front ++ '/' :: back = front' ++ '/' :: back') :
    back = back' := by
  have hdropped := congrArg (List.dropWhile (· != '/')) hsame
  rw [dropWhile_slash hfront (.cons (by decide)),
    dropWhile_slash hfront' (.cons (by decide))] at hdropped
  exact (List.cons.inj hdropped).2

/-! ## Reading the path of parts that are written together -/

namespace Absolute

variable {url : Absolute}

theorem toList_text (url : Absolute) : url.text.toList =
    url.scheme.toList ++
      (schemeMark ++ (url.authority.toList ++ (url.path.toList ++ url.tail.toList))) := by
  have hmark : "://".toList = schemeMark := rfl
  simp only [text, String.toList_append, hmark, List.append_assoc]

theorem slash_not_mem_authority (url : Absolute) : '/' ∉ url.authority.toList :=
  fun hmember => (url.authority_bare _ hmember).1 rfl

/-- A path that is there is read as it is, whatever the tail holds. -/
theorem path_text_of_route (hroute : IsRoute url.path) : Url.path url.text = url.path := by
  have hopens : (url.path.toList ++ url.tail.toList).head? = some '/' := by
    rw [List.head?_append, hroute.slash, Option.some_or]
  have hbare : ∀ c ∈ url.path.toList, (!endsPath c) = true :=
    fun c hmember => congrArg not (hroute.bare c hmember)
  have htail : Text.Stops (fun c => !endsPath c) url.tail.toList :=
    fun c hmember => congrArg not (url.tail_opens c hmember)
  rw [Url.path, toList_text, pathChars_route url.scheme_bare url.slash_not_mem_authority hopens,
    Text.takeWhile_append_of_stops hbare htail, String.ofList_toList]

/-- Without a path, the first slash of the tail is taken for the beginning of one. -/
theorem path_text_of_slash (hpath : url.path = "") (htail : url.tail.toList = front ++ '/' :: back)
    (hfront : '/' ∉ front) :
    Url.path url.text = String.ofList ('/' :: back.takeWhile fun c => !endsPath c) := by
  have hbefore : '/' ∉ url.authority.toList ++ front := by
    rw [List.mem_append, not_or]
    exact ⟨url.slash_not_mem_authority, hfront⟩
  rw [Url.path, toList_text, hpath, htail, String.toList_empty, List.nil_append,
    ← List.append_assoc url.authority.toList, pathChars_route url.scheme_bare hbefore rfl,
    List.takeWhile_cons_of_pos (by decide)]

theorem path_text_of_slashless (hpath : url.path = "") (htail : '/' ∉ url.tail.toList) :
    Url.path url.text = "/" := by
  have hnone : '/' ∉ url.authority.toList ++ url.tail.toList := by
    rw [List.mem_append, not_or]
    exact ⟨url.slash_not_mem_authority, htail⟩
  rw [Url.path, toList_text, hpath, String.toList_empty, List.nil_append,
    pathChars_slashless url.scheme_bare hnone]

theorem misleads_iff (hpath : url.path = "") (htail : url.tail.toList = front ++ '/' :: back)
    (hfront : '/' ∉ front) : url.Misleads ↔ ∃ c rest, back = c :: rest ∧ endsPath c = false := by
  constructor
  · rintro ⟨-, front', c, rest, htail', hfront', hc⟩
    exact ⟨c, rest, first_slash_unique hfront hfront' (htail.symm.trans htail'), hc⟩
  · rintro ⟨c, rest, rfl, hc⟩
    exact ⟨hpath, front, c, rest, htail, hfront, hc⟩

theorem not_misleads_of_slashless (htail : '/' ∉ url.tail.toList) : ¬url.Misleads := by
  rintro ⟨-, front, c, back, hslash, -⟩
  apply htail
  rw [hslash]
  exact List.mem_append_right _ List.mem_cons_self

/-- Reading the root off a slash means that nothing but a query or a fragment follows it. -/
theorem root_iff (back : List Char) :
    String.ofList ('/' :: back.takeWhile fun c => !endsPath c) = "/" ↔
      ¬∃ c rest, back = c :: rest ∧ endsPath c = false := by
  have hroot : "/" = String.ofList ['/'] := rfl
  rw [hroot, String.ofList_inj, List.cons_inj_right]
  cases back with
  | nil => simp
  | cons c rest => cases hc : endsPath c <;> simp [hc]

/-- The path that is read off an absolute URL is the one that the URL names, unless a URL without
a path misleads by a slash in its tail.  Then what stands behind that slash is read, up to the
next mark of a query or a fragment. -/
theorem path_read_off (url : Absolute) :
    (Url.path url.text = url.named ↔ ¬url.Misleads) ∧
    ∀ front back, url.path = "" → url.tail.toList = front ++ '/' :: back → '/' ∉ front →
      Url.path url.text = String.ofList ('/' :: back.takeWhile fun c => !endsPath c) := by
  refine ⟨?_, fun _ _ => path_text_of_slash⟩
  by_cases hpath : url.path = ""
  · rw [named, if_pos hpath]
    by_cases hslash : '/' ∈ url.tail.toList
    · obtain ⟨front, back, htail, hfront⟩ := List.eq_append_cons_of_mem hslash
      rw [path_text_of_slash hpath htail hfront, misleads_iff hpath htail hfront, root_iff]
    · exact iff_of_true (path_text_of_slashless hpath hslash) (not_misleads_of_slashless hslash)
  · have hroute := url.path_route.resolve_left hpath
    rw [named, if_neg hpath]
    exact iff_of_true (path_text_of_route hroute) fun hmisleads => hpath hmisleads.1

end Absolute

/-- A page of a host, with another address in the query. -/
def pageUrl : Absolute where
  scheme := "https"
  authority := "h:8080"
  path := "/a/b"
  tail := "?next=http://h/c#d"
  scheme_bare := by decide
  authority_bare := by simp [endsPath]
  path_route := .inr ⟨rfl, by simp [endsPath]⟩
  tail_opens := by simp [endsPath]

/-- A host without a path, with a route in the query. -/
def hostUrl : Absolute where
  scheme := "http"
  authority := "h"
  path := ""
  tail := "?next=/login#top"
  scheme_bare := by decide
  authority_bare := by simp [endsPath]
  path_route := .inl rfl
  tail_opens := by simp [endsPath]

/-- The path of the page is read, and the route in the query of the host. -/
theorem page_and_host_read :
    path "https://h:8080/a/b?next=http://h/c#d" = "/a/b" ∧
    path "http://h?next=/login#top" = "/login" := by
  constructor
  · have hleads : ¬pageUrl.Misleads := fun hmisleads => absurd hmisleads.1 (by decide)
    exact (Absolute.path_read_off pageUrl).1.mpr hleads
  · have htail : hostUrl.tail.toList = "?next=".toList ++ '/' :: "login#top".toList := rfl
    exact (Absolute.path_read_off hostUrl).2 _ _ rfl htail (by decide)

/-- A host without a path names the root, but the route in its query is read. -/
theorem hostUrl_misread :
    hostUrl.text = "http://h?next=/login#top" ∧ hostUrl.named = "/" ∧
      path hostUrl.text = "/login" := by
  decide +kernel

end DesktopTrial.Url
