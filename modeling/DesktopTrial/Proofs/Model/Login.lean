import DesktopTrial.Proofs.Model.Turn
import DesktopTrial.Proofs.Text.Routes

/-!
# The way past the login page

What a model page shows depends on what was asked of it before: a session that was
installed during any earlier navigation, and only that, lets a visitor past the login
page.  The URL that a page shows is read off the exchanges made with it, and from it
whether the check for the login page passes.
-/

namespace DesktopTrial

/-! ## What was installed -/

def lastInstalled? (made : List Exchange) : Option Storage :=
  made.reverse.findSome? Exchange.installed?

@[simp]
theorem lastInstalled?_snoc (made : List Exchange) (exchange : Exchange) :
    lastInstalled? (made ++ [exchange]) = exchange.installed?.or (lastInstalled? made) := by
  rw [lastInstalled?, List.reverse_append, List.findSome?_append, List.reverse_singleton,
    List.findSome?_singleton]
  rfl

/-- The last exchange stands at the place in question or behind it. -/
theorem snoc_eq_append_cons {made front back : List Exchange} {last exchange : Exchange} :
    made ++ [last] = front ++ exchange :: back ↔
      (back = [] ∧ made = front ∧ last = exchange) ∨
      ∃ between, back = between ++ [last] ∧ made = front ++ exchange :: between := by
  constructor
  · intro hsame
    rcases back.eq_nil_or_concat with rfl | ⟨between, other, rfl⟩
    · obtain ⟨hmade, hlast⟩ := List.append_inj' hsame rfl
      exact .inl ⟨rfl, hmade, (List.cons.inj hlast).1⟩
    · rw [List.concat_eq_append, ← List.cons_append, ← List.append_assoc] at hsame
      obtain ⟨hmade, hlast⟩ := List.append_inj' hsame rfl
      cases hlast
      exact .inr ⟨between, List.concat_eq_append, hmade⟩
  · rintro (⟨rfl, rfl, rfl⟩ | ⟨between, rfl, rfl⟩)
    · rfl
    · rw [List.append_assoc, List.cons_append]

namespace Model

/-- At one of the navigations that were made, an installed session was written. -/
def Admitted (app : App) (made : List Exchange) : Prop :=
  app.storageBlocked = false ∧ ∃ front url back entries, made = front ++ .visit url :: back ∧
    lastInstalled? front = some entries ∧ entries.has app.tokenKey = true

/-- What is shown after a navigation to a URL, which is the last of these exchanges. -/
structure LeadsTo (app : App) (made : List Exchange) (url shown : String) : Prop where
  admitted : Admitted app made → shown = url
  anyone : Url.path url = "/" ∨ Url.path url = app.loginPath → shown = url
  sentAway : ¬Admitted app made → Url.path url ≠ "/" → Url.path url ≠ app.loginPath →
    shown = Url.origin url ++ app.loginPath

/-- The URL that is shown after these exchanges. -/
structure Shows (app : App) (made : List Exchange) (shown : String) : Prop where
  blank : (∀ exchange ∈ made, exchange.visited? = none) → shown = "about:blank"
  visited : ∀ front url back, made = front ++ .visit url :: back →
    (∀ exchange ∈ back, exchange.visited? = none) → LeadsTo app (front ++ [.visit url]) url shown

variable {app : App} {made : List Exchange} {exchange : Exchange} {url shown : String}

theorem Admitted.snoc_iff :
    Admitted app (made ++ [exchange]) ↔ Admitted app made ∨ app.storageBlocked = false ∧
      ∃ url entries, exchange = .visit url ∧ lastInstalled? made = some entries ∧
        entries.has app.tokenKey = true := by
  constructor
  · rintro ⟨hstorage, front, url, back, entries, hmade, hinstalled, htoken⟩
    obtain ⟨-, rfl, rfl⟩ | ⟨between, -, rfl⟩ := snoc_eq_append_cons.mp hmade
    · exact .inr ⟨hstorage, url, entries, rfl, hinstalled, htoken⟩
    · exact .inl ⟨hstorage, front, url, between, entries, rfl, hinstalled, htoken⟩
  · rintro (⟨hstorage, front, url, back, entries, rfl, hinstalled, htoken⟩ |
      ⟨hstorage, url, entries, rfl, hinstalled, htoken⟩)
    · exact ⟨hstorage, front, url, back ++ [exchange], entries, by simp, hinstalled, htoken⟩
    · exact ⟨hstorage, made, url, [], entries, rfl, hinstalled, htoken⟩

namespace Shows

theorem fresh : Shows app [] "about:blank" where
  blank _ := rfl
  visited front url back hmade := by simp at hmade

/-- Without a navigation that is made, the same is shown. -/
theorem stays (hshows : Shows app made shown) (hvisited : exchange.visited? = none) :
    Shows app (made ++ [exchange]) shown where
  blank hnone := hshows.blank fun other hother => hnone other (List.mem_append_left _ hother)
  visited front url back hmade hback := by
    obtain ⟨-, -, rfl⟩ | ⟨between, rfl, hbefore⟩ := snoc_eq_append_cons.mp hmade
    · cases hvisited
    · exact hshows.visited front url between hbefore fun other hother =>
        hback other (List.mem_append_left _ hother)

theorem visits (hleads : LeadsTo app (made ++ [.visit url]) url shown) :
    Shows app (made ++ [.visit url]) shown where
  blank hnone := by
    have := hnone (.visit url) (List.mem_append_right _ List.mem_cons_self)
    cases this
  visited front other back hmade hback := by
    obtain ⟨-, rfl, hvisit⟩ | ⟨between, rfl, -⟩ := snoc_eq_append_cons.mp hmade
    · cases hvisit
      exact hleads
    · have := hback (.visit url) (List.mem_append_right _ List.mem_cons_self)
      cases this

end Shows

/-! ## What a call changes -/

/-- Of what decides what is shown, an exchange changes the installed entries at most. -/
structure PageState.Stays (exchange : Exchange) (before after : PageState) : Prop where
  visited : exchange.visited? = none
  shown : ∀ shown, exchange.shown? = some shown → shown = before.url
  url : after.url = before.url
  storage : after.storage = before.storage
  installed : after.installed = exchange.installed?.or before.installed

theorem PageState.Stays.of_quiet {before after : PageState} (hquiet : exchange.Quiet before.url)
    (hurl : after.url = before.url) (hstorage : after.storage = before.storage)
    (hinstalled : after.installed = before.installed) : Stays exchange before after where
  visited := hquiet.visited
  shown := hquiet.shown
  url := hurl
  storage := hstorage
  installed := by rw [hquiet.installed, Option.none_or, hinstalled]

theorem PageState.Turn.visits_or_stays {before after : PageState}
    (hturn : before.Turn app exchange after) :
    (∃ url, Url.isAbsolute url = true ∧ exchange = .visit url ∧
      after = (before.note ("navigate:" ++ Url.path url)).visit app url) ∨
    Stays exchange before after := by
  cases hturn with
  | visit habsolute => exact .inl ⟨_, habsolute, rfl, rfl⟩
  | install entries =>
      obtain ⟨_, _, _, hinstall⟩ := before.install_frame entries
      rw [hinstall]
      exact .inr ⟨rfl, fun _ hshown => (by cases hshown), rfl, rfl, rfl⟩
  | close => exact .inr ⟨rfl, fun _ hshown => (by cases hshown), rfl, rfl, rfl⟩
  | other hquiet _ _ _ => exact .inr (.of_quiet hquiet rfl rfl rfl)

/-- An answered call is a visit of an open page, or changes the installed entries at most. -/
theorem PageState.visits_or_stays {call : Call} {before after : PageState} {latency : Nat}
    {answer : Except Failure call.Answer}
    (hreply : (page app).reply before call = .answered latency answer after) :
    (∃ url, before.closed = false ∧ Url.isAbsolute url = true ∧
      (⟨call, some answer⟩ : Exchange) = .visit url ∧
      after = (before.note ("navigate:" ++ Url.path url)).visit app url) ∨
    Stays ⟨call, some answer⟩ before after := by
  obtain ⟨-, hreply⟩ | ⟨hopen, hreply⟩ := reply_cases hreply
  · have hquiet := closedReply_quiet before.url hreply
    rw [closedReply_unchanged hreply]
    exact .inr (.of_quiet hquiet rfl rfl rfl)
  · obtain ⟨url, habsolute, hvisit, hafter⟩ | hstays := (openReply_turn hreply).visits_or_stays
    · exact .inl ⟨url, hopen, habsolute, hvisit, hafter⟩
    · exact .inr hstays

/-- What is installed is what was installed last. -/
theorem PageState.installed_reply {call : Call} {before after : PageState} {latency : Nat}
    {answer : Except Failure call.Answer} (hinstalled : before.installed = lastInstalled? made)
    (hreply : (page app).reply before call = .answered latency answer after) :
    after.installed = lastInstalled? (made ++ [⟨call, some answer⟩]) := by
  obtain ⟨url, -, -, hvisit, rfl⟩ | hstays := PageState.visits_or_stays hreply
  · rw [hvisit, lastInstalled?_snoc]
    exact hinstalled
  · rw [lastInstalled?_snoc, hstays.installed, hinstalled]

/-! ## Conversations -/

/-- The state of a page agrees with what was asked of it and answered. -/
structure PageState.Tracks (app : App) (made : List Exchange) (s : PageState) : Prop where
  installed : s.installed = lastInstalled? made
  admitted : s.storage.has app.tokenKey = true ↔ Admitted app made
  absolute : ∀ url, .visit url ∈ made → Url.isAbsolute url = true
  shows : Shows app made s.url
  answered : ∀ front exchange back shown, made = front ++ exchange :: back →
    exchange.shown? = some shown → Shows app front shown
  opened : ∀ front url, made = front ++ [.visit url] → s.closed = false

theorem PageState.has_nextStorage (s : PageState) :
    (s.nextStorage app).has app.tokenKey = true ↔ s.storage.has app.tokenKey = true ∨
      app.storageBlocked = false ∧ ∃ entries, s.installed = some entries ∧
        entries.has app.tokenKey = true := by
  rw [nextStorage]
  cases app.storageBlocked <;> cases s.installed <;> simp [Dictionary.has_merge]

/-- Where a visitor ends up depends on whether a session was written at a navigation. -/
theorem leadsTo_landing {storage : Storage}
    (hsession : storage.has app.tokenKey = true ↔ Admitted app made) (url : String) :
    LeadsTo app made url (PageState.landing app storage url) where
  admitted hadmitted := by simp [PageState.landing, hsession.mpr hadmitted]
  anyone hpath := by
    rcases hpath with hroot | hlogin
    · simp [PageState.landing, hroot]
    · simp [PageState.landing, hlogin]
  sentAway hstranger hroot hlogin := by
    have hnone : storage.has app.tokenKey = false :=
      Bool.eq_false_iff.mpr fun htoken => hstranger (hsession.mp htoken)
    simp [PageState.landing, hnone, hroot, hlogin]

namespace PageState.Tracks

theorem fresh (app : App) : Tracks app [] (.fresh app) where
  installed := rfl
  admitted := by
    constructor
    · intro htoken
      cases htoken
    · rintro ⟨-, front, url, back, _, hmade, -⟩
      simp at hmade
  absolute url hmember := by cases hmember
  shows := .fresh
  answered front exchange back shown hmade := by simp at hmade
  opened front url hmade := by simp at hmade

theorem stays {before after : PageState} (htracks : Tracks app made before)
    (hstays : Stays exchange before after) : Tracks app (made ++ [exchange]) after where
  installed := by rw [lastInstalled?_snoc, hstays.installed, htracks.installed]
  admitted := by
    rw [hstays.storage, htracks.admitted, Admitted.snoc_iff]
    constructor
    · exact .inl
    · rintro (hadmitted | ⟨-, url, _, rfl, -⟩)
      · exact hadmitted
      · cases hstays.visited
  absolute url hmember := by
    rcases List.mem_append.mp hmember with hbefore | hlast
    · exact htracks.absolute url hbefore
    · rw [← List.mem_singleton.mp hlast] at hstays
      cases hstays.visited
  shows := by
    rw [hstays.url]
    exact htracks.shows.stays hstays.visited
  answered front other back shown hmade hshown := by
    obtain ⟨-, rfl, rfl⟩ | ⟨between, -, hbefore⟩ := snoc_eq_append_cons.mp hmade
    · rw [hstays.shown shown hshown]
      exact htracks.shows
    · exact htracks.answered front other between shown hbefore hshown
  opened front url hmade := by
    obtain ⟨-, hlast⟩ := List.append_inj' hmade rfl
    cases hlast
    cases hstays.visited

theorem visits {before : PageState} (htracks : Tracks app made before)
    (habsolute : Url.isAbsolute url = true) (hopen : before.closed = false) (entry : String) :
    Tracks app (made ++ [.visit url]) ((before.note entry).visit app url) := by
  have hsession : ((before.note entry).nextStorage app).has app.tokenKey = true ↔
      Admitted app (made ++ [.visit url]) := by
    have hnoted : (before.note entry).installed = lastInstalled? made := htracks.installed
    have hstored : (before.note entry).storage.has app.tokenKey = true ↔ Admitted app made :=
      htracks.admitted
    rw [has_nextStorage, Admitted.snoc_iff, hstored, hnoted]
    apply or_congr_right
    apply and_congr_right'
    constructor
    · rintro ⟨entries, hinstalled, htoken⟩
      exact ⟨url, entries, rfl, hinstalled, htoken⟩
    · rintro ⟨_, entries, -, hinstalled, htoken⟩
      exact ⟨entries, hinstalled, htoken⟩
  constructor
  case installed => rw [lastInstalled?_snoc]; exact htracks.installed
  case admitted => exact hsession
  case absolute =>
    intro other hmember
    rcases List.mem_append.mp hmember with hbefore | hlast
    · exact htracks.absolute other hbefore
    · cases List.mem_singleton.mp hlast
      exact habsolute
  case shows => exact .visits (leadsTo_landing hsession url)
  case answered =>
    intro front other back shown hmade hshown
    obtain ⟨-, rfl, rfl⟩ | ⟨between, -, hbefore⟩ := snoc_eq_append_cons.mp hmade
    · cases hshown
    · exact htracks.answered front other between shown hbefore hshown
  case opened => exact fun _ _ _ => hopen

theorem reply {call : Call} {before after : PageState} {latency : Nat}
    {answer : Except Failure call.Answer} (htracks : Tracks app made before)
    (hreply : (page app).reply before call = .answered latency answer after) :
    Tracks app (made ++ [⟨call, some answer⟩]) after := by
  obtain ⟨url, hopen, habsolute, hvisit, rfl⟩ | hstays := PageState.visits_or_stays hreply
  · rw [hvisit]
    exact htracks.visits habsolute hopen _
  · exact htracks.stays hstays

end PageState.Tracks

theorem ask_currentUrl {after : Moment PageState} (hopen : after.page.closed = false) :
    Run.ask (page app) .currentUrl after = some (.ok after.page.url, after) := by
  simp [Run.ask, page, hopen, openReply]

theorem path_ne_login_iff (hroute : Url.IsRoute app.loginPath)
    (habsolute : Url.isAbsolute url = true) (hleads : LeadsTo app made url shown) :
    Url.path shown ≠ app.loginPath ↔
      Url.path url ≠ app.loginPath ∧ (Admitted app made ∨ Url.path url = "/") := by
  by_cases hadmitted : Admitted app made
  · rw [hleads.admitted hadmitted]
    simp [hadmitted]
  by_cases hroot : Url.path url = "/"
  · rw [hleads.anyone (.inl hroot)]
    simp [hroot]
  by_cases hlogin : Url.path url = app.loginPath
  · rw [hleads.anyone (.inr hlogin)]
    simp [hlogin]
  · rw [hleads.sentAway hadmitted hroot hlogin, Url.path_origin_append habsolute hroute]
    simp [hadmitted, hroot]

/-- On an open page, the check for the login page passes for those who asked for another page
and were let in. -/
theorem isElsewhere_login {after : Moment PageState} (hopen : after.page.closed = false)
    (hroute : Url.IsRoute app.loginPath) (habsolute : Url.isAbsolute url = true)
    (hleads : LeadsTo app made url after.page.url) :
    ∃ outcome, Check.isElsewhere (page app) app.loginPath after = some (.ok outcome, after) ∧
      (outcome.passed = true ↔
        Url.path url ≠ app.loginPath ∧ (Admitted app made ∨ Url.path url = "/")) := by
  rw [Check.isElsewhere, currentPath, Run.bind_apply, Run.bind_apply, ask_currentUrl hopen]
  exact ⟨_, rfl, bne_iff_ne.trans (path_ne_login_iff hroute habsolute hleads)⟩

/-- What is shown after any calls on a fresh page is read off the exchanges: the URL that was
last navigated to, or the login page in its place.  It is also what every call for the URL was
answered with.  Right after a navigation, the check for the login page passes for those who
asked for another page and were let in. -/
theorem login_decides_url {calls : List Call} {outcome : Except Failure (List Exchange)}
    {after : Moment PageState}
    (hended : (page app).converse calls ⟨.fresh app, 0⟩ = some (outcome, after)) :
    ∃ made, outcome = .ok made ∧ made.map Exchange.call = calls ∧
      Shows app made after.page.url ∧
      (∀ front exchange back shown, made = front ++ exchange :: back →
        exchange.shown? = some shown → Shows app front shown) ∧
      ∀ front url, made = front ++ [.visit url] →
        Run.ask (page app) .currentUrl after = some (.ok after.page.url, after) ∧
        (Url.IsRoute app.loginPath →
          ∃ outcome, Check.isElsewhere (page app) app.loginPath after = some (.ok outcome, after) ∧
            (outcome.passed = true ↔
              Url.path url ≠ app.loginPath ∧ (Admitted app made ∨ Url.path url = "/"))) := by
  obtain ⟨made, rfl, htracks⟩ := (page app).converse_keeps
    (fun htracks hreply => PageState.Tracks.reply htracks hreply) (.fresh app) hended
  refine ⟨made, rfl, Page.map_call_converse hended, htracks.shows, htracks.answered, ?_⟩
  rintro front url rfl
  have hopen := htracks.opened front url rfl
  have habsolute := htracks.absolute url (List.mem_append_right _ List.mem_cons_self)
  have hleads := htracks.shows.visited front url [] rfl fun _ hmember => by cases hmember
  exact ⟨ask_currentUrl hopen, fun hroute => isElsewhere_login hopen hroute habsolute hleads⟩

/-- Asks for the desktop without a session and, later, with one that was installed before but
is installed no more. -/
def sessionCalls : List Call :=
  [.navigate "http://h/desktop", .currentUrl, .install (Dictionary.ofList [("auth_token", "t")]),
   .navigate "http://h/settings", .install Dictionary.empty, .navigate "nowhere",
   .navigate "http://h/desktop?tab=1"]

/-- The visitor is sent to the login page first, and let in afterwards. -/
theorem desktop_lets_session_in :
    ∃ made after, (page desktop).converse sessionCalls ⟨.fresh desktop, 0⟩ =
        some (.ok made, after) ∧
      made[1]?.bind Exchange.shown? = some "http://h/login" ∧
      after.page.url = "http://h/desktop?tab=1" ∧ Shows desktop made after.page.url := by
  have hshown : (((page desktop).converse sessionCalls ⟨.fresh desktop, 0⟩).map fun ended =>
      (ended.1.toOption.bind fun made => made[1]?.bind Exchange.shown?, ended.2.page.url)) =
        some (some "http://h/login", "http://h/desktop?tab=1") := by
    decide +kernel
  obtain ⟨⟨outcome, after⟩, hended, hvalues⟩ := Option.map_eq_some_iff.mp hshown
  obtain ⟨made, rfl, -, hshows, -⟩ := login_decides_url hended
  obtain ⟨hfirst, hlast⟩ := Prod.mk.inj hvalues
  exact ⟨made, after, hended, hfirst, hlast, hshows⟩

end Model

end DesktopTrial
