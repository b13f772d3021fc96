import DesktopTrial.Proofs.Model.Login
import DesktopTrial.Proofs.Session.Gate
import Mathlib.Data.List.Induction

/-!
# What the storage holds

Entries that are installed wait for the next navigation that is made: it writes those that are
installed then over what the storage holds.  Nothing else changes the storage, so it is read off
the exchanges, and whichever sessions were written before, the one that was installed last is the
only one that is confirmed after a navigation.
-/

namespace DesktopTrial

/-! ## What is written -/

/-- Exchanges, each with the entries that were installed when it was made. -/
def withInstalled : Option Storage → List Exchange → List (Option Storage × Exchange)
  | _, [] => []
  | installed, exchange :: later =>
      (installed, exchange) :: withInstalled (exchange.installed?.or installed) later

/-- The entries that an exchange writes: a navigation that is made writes what is installed. -/
def written? : Option Storage × Exchange → Option Storage
  | (installed, exchange) => if exchange.visited?.isSome then installed else none

/-- The entries that these exchanges with a fresh page wrote, in order. -/
def written (made : List Exchange) : List Storage := (withInstalled none made).filterMap written?

/-- Entries that are written one after the other into a storage without entries. -/
def overwritten (writes : List Storage) : Storage := writes.foldl Dictionary.merge .empty

variable {made : List Exchange} {exchange : Exchange}

theorem lastInstalled?_cons (exchange : Exchange) (made : List Exchange) :
    lastInstalled? (exchange :: made) = (lastInstalled? made).or exchange.installed? := by
  rw [lastInstalled?, List.reverse_cons, List.findSome?_append, List.findSome?_singleton]
  rfl

theorem withInstalled_snoc (installed : Option Storage) (made : List Exchange)
    (exchange : Exchange) : withInstalled installed (made ++ [exchange]) =
      withInstalled installed made ++ [((lastInstalled? made).or installed, exchange)] := by
  induction made generalizing installed with
  | nil => rfl
  | cons first made ih =>
      rw [List.cons_append, withInstalled, withInstalled, ih, lastInstalled?_cons, Option.or_assoc]
      rfl

theorem written_snoc (made : List Exchange) (exchange : Exchange) :
    written (made ++ [exchange]) =
      written made ++ (written? (lastInstalled? made, exchange)).toList := by
  rw [written, withInstalled_snoc, Option.or_none, List.filterMap_append]
  cases hwritten : written? (lastInstalled? made, exchange) <;> simp [written, hwritten]

theorem overwritten_snoc (writes : List Storage) (entries : Storage) :
    overwritten (writes ++ [entries]) = (overwritten writes).merge entries := by
  rw [overwritten, List.foldl_append]
  rfl

/-- Under every key is what was written last there. -/
theorem find?_overwritten (writes : List Storage) (key : String) :
    (overwritten writes).find? key = writes.reverse.findSome? fun entries => entries.find? key := by
  induction writes using List.reverseRecOn with
  | nil => rfl
  | append_singleton writes entries ih =>
      rw [overwritten_snoc, Dictionary.find?_merge, ih, List.reverse_append,
        List.reverse_singleton, List.singleton_append, List.findSome?_cons]
      cases entries.find? key <;> rfl

/-- Entries under the same keys are all found after a merge just when they were merged in. -/
theorem Dictionary.merged_iff {α : Type} {older newer other : Dictionary α}
    (hkeys : other.entries.map Prod.fst = newer.entries.map Prod.fst) :
    (∀ entry ∈ other.entries, (older.merge newer).find? entry.1 = some entry.2) ↔
      other = newer := by
  constructor
  · intro hfound
    refine ext_find? fun key => ?_
    by_cases hkey : key ∈ other.entries.map Prod.fst
    · obtain ⟨⟨_, value⟩, hmember, rfl⟩ := List.mem_map.mp hkey
      obtain ⟨⟨_, value'⟩, hmember', hkey'⟩ := List.mem_map.mp (hkeys ▸ hkey)
      obtain rfl := hkey'
      have hmerged := hfound _ hmember
      rw [find?_merge_of_mem hmember'] at hmerged
      rw [find?, find?, valueUnder?_of_mem other.ascending hmember,
        valueUnder?_of_mem newer.ascending hmember', hmerged]
    · have habsent : ∀ {entries : List (String × α)}, key ∉ entries.map Prod.fst →
          valueUnder? key entries = none := fun hkey => valueUnder?_eq_none fun entry hentry hsame =>
        hkey (List.mem_map.mpr ⟨entry, hentry, hsame.symm⟩)
      rw [find?, find?, habsent hkey, habsent (hkeys ▸ hkey)]
  · rintro rfl entry hentry
    exact find?_merge_of_mem hentry

/-- All sessions are stored under the same keys. -/
theorem Seed.keys_entries {seed seed' : Seed} {entries entries' : Storage}
    (hentries : seed.entries = .ok entries) (hentries' : seed'.entries = .ok entries') :
    entries'.entries.map Prod.fst = entries.entries.map Prod.fst := by
  rw [Seed.entries_eq_ok hentries, Seed.entries_eq_ok hentries']
  rfl

namespace Model

variable {app : App} {call : Call} {before after : PageState} {latency : Nat}

/-- The storage after these exchanges.  Where it is blocked nothing is written. -/
def App.stored (app : App) (made : List Exchange) : Storage :=
  if app.storageBlocked then .empty else overwritten (written made)

/-! ## What a run leaves in the storage -/

/-- The installed entries and the storage agree with what was asked and answered. -/
structure PageState.Stores (app : App) (made : List Exchange) (s : PageState) : Prop where
  installed : s.installed = lastInstalled? made
  storage : s.storage = app.stored made

theorem App.stored_of_none (hwritten : written? (lastInstalled? made, exchange) = none) :
    app.stored (made ++ [exchange]) = app.stored made := by
  rw [stored, stored, written_snoc, hwritten, Option.toList_none, List.append_nil]

theorem App.stored_visit (made : List Exchange) (url : String) :
    app.stored (made ++ [.visit url]) =
      match app.storageBlocked, lastInstalled? made with
      | false, some entries => (app.stored made).merge entries
      | _, _ => app.stored made := by
  have hwritten : written? (lastInstalled? made, .visit url) = lastInstalled? made := rfl
  rw [stored, stored, written_snoc, hwritten]
  cases app.storageBlocked with
  | true => rfl
  | false =>
      cases lastInstalled? made with
      | none => rw [Option.toList_none, List.append_nil]
      | some entries => exact overwritten_snoc (written made) entries

namespace PageState.Stores

theorem fresh (app : App) : Stores app [] (.fresh app) where
  installed := rfl
  storage := by
    rw [App.stored]
    split <;> rfl

theorem reply {answer : Except Failure call.Answer} (hstores : Stores app made before)
    (hreply : (page app).reply before call = .answered latency answer after) :
    Stores app (made ++ [⟨call, some answer⟩]) after where
  installed := PageState.installed_reply hstores.installed hreply
  storage := by
    obtain ⟨url, -, -, hvisit, rfl⟩ | hstays := PageState.visits_or_stays hreply
    · rw [hvisit, App.stored_visit, ← hstores.installed, ← hstores.storage]
      rfl
    · have hnone : written? (lastInstalled? made, ⟨call, some answer⟩) = none := by
        rw [written?, hstays.visited]
        rfl
      rw [hstays.storage, hstores.storage, App.stored_of_none hnone]

end PageState.Stores

/-- Only a navigation that is made changes the storage. -/
theorem storage_of_not_visited {answer : Except Failure call.Answer}
    (hreply : (page app).reply before call = .answered latency answer after)
    (hvisited : Exchange.visited? ⟨call, some answer⟩ = none) : after.storage = before.storage := by
  obtain ⟨url, -, -, hvisit, -⟩ | hstays := PageState.visits_or_stays hreply
  · rw [hvisit] at hvisited
    cases hvisited
  · exact hstays.storage

/-! ## Which session is confirmed -/

/-- The outcome says whether something holds; where it does not, the session is refused. -/
structure Tells (holds : Prop) (outcome : Except Failure Unit) : Prop where
  confirmed : outcome = .ok () ↔ holds
  refused : ¬holds → ∃ message, outcome = .error (.bootstrap message)

/-- Whoever installs a session at this moment can navigate, and in the document that is reached
then this session is confirmed, and every session with other entries is refused. -/
def ConfirmsInstalled (app : App) (moment : Moment PageState) : Prop :=
  ∀ (seed : Seed) (entries : Storage), seed.entries = .ok entries →
    ∃ seeded, seed.install (page app) moment = some (.ok (), seeded) ∧
      (∀ url, Url.isAbsolute url = true →
        ∃ visited, Run.ask (page app) (.navigate url) seeded = some (.ok (), visited)) ∧
      ∀ url visited, Run.ask (page app) (.navigate url) seeded = some (.ok (), visited) →
        ∀ (seed' : Seed) (entries' : Storage), seed'.entries = .ok entries' →
          ∃ outcome, seed'.verify (page app) visited = some (outcome, visited) ∧
            Tells (entries' = entries) outcome

theorem Tells.of_true {holds : Prop} (hholds : holds) : Tells holds (.ok ()) where
  confirmed := iff_of_true rfl hholds
  refused hfails := absurd hholds hfails

theorem Tells.of_false {holds : Prop} (hfails : ¬holds) (message : String) :
    Tells holds (.error (.bootstrap message)) where
  confirmed := iff_of_false (fun himpossible => by cases himpossible) hfails
  refused _ := ⟨message, rfl⟩

theorem PageState.installed_install (entries : Storage) (s : PageState) :
    (s.install entries).installed = some entries := by
  obtain ⟨_, _, _, hinstall⟩ := s.install_frame entries
  rw [hinstall]

theorem PageState.closed_install (entries : Storage) (s : PageState) :
    (s.install entries).closed = s.closed := by
  obtain ⟨_, _, _, hinstall⟩ := s.install_frame entries
  rw [hinstall]

section Verification

variable {moment : Moment PageState} (hopen : moment.page.closed = false)
include hopen

theorem install_of_valid {seed : Seed} {entries : Storage} (hentries : seed.entries = .ok entries) :
    seed.install (page app) moment =
      some (.ok (), ⟨moment.page.install entries, moment.clock⟩) := by
  rw [Seed.install, Run.ofExcept_bind_apply, hentries, Run.proceed_ok, Run.ask, page_reply hopen]
  rfl

theorem ask_navigate {url : String} (habsolute : Url.isAbsolute url = true) :
    Run.ask (page app) (.navigate url) moment = some (.ok (),
      ⟨(moment.page.note ("navigate:" ++ Url.path url)).visit app url, moment.clock⟩) := by
  rw [Run.ask, page_reply hopen, openReply, if_pos habsolute]
  rfl

theorem isAbsolute_of_visited {url : String} {visited : Moment PageState}
    (hvisited : Run.ask (page app) (.navigate url) moment = some (.ok (), visited)) :
    Url.isAbsolute url = true := by
  by_contra hrelative
  rw [Run.ask, page_reply hopen, openReply, if_neg hrelative] at hvisited
  cases hvisited

variable (hstorage : app.storageBlocked = false)
include hstorage

/-- A navigation that is made writes the installed entries. -/
theorem navigate_writes {url : String} {visited : Moment PageState} {entries : Storage}
    (hinstalled : moment.page.installed = some entries)
    (hvisited : Run.ask (page app) (.navigate url) moment = some (.ok (), visited)) :
    visited.page.closed = false ∧ ∃ older : Storage, visited.page.storage = older.merge entries := by
  rw [ask_navigate hopen (isAbsolute_of_visited hopen hvisited)] at hvisited
  cases hvisited
  refine ⟨hopen, moment.page.storage, ?_⟩
  simp only [PageState.visit, PageState.nextStorage, PageState.note, hstorage, hinstalled]

theorem confirm_tells (key expected : String) :
    ∃ outcome, Seed.confirm (page app) key expected moment = some (outcome, moment) ∧
      Tells (moment.page.storage.find? key = some expected) outcome := by
  have hread : Run.ask (page app) (.readStorage key) moment =
      some (.ok (moment.page.storage.find? key), moment) := by
    rw [Run.ask, page_reply hopen, openReply, hstorage]
    rfl
  rw [Seed.confirm, Run.bind_apply, hread, Run.proceed_ok]
  cases moment.page.storage.find? key with
  | none => exact ⟨_, rfl, .of_false (fun himpossible => by cases himpossible) _⟩
  | some actual =>
      by_cases hactual : actual = expected
      · simp only [hactual, if_true]
        exact ⟨_, rfl, .of_true trivial⟩
      · simp only [hactual, if_false]
        exact ⟨_, rfl, .of_false (fun hsame => hactual (Option.some.inj hsame)) _⟩

/-- Entries are confirmed in turn, up to the first that is not stored. -/
theorem confirmAll_tells (values : List (String × String)) :
    ∃ outcome, (values.forM fun value => Seed.confirm (page app) value.1 value.2) moment =
        some (outcome, moment) ∧
      Tells (∀ value ∈ values, moment.page.storage.find? value.1 = some value.2) outcome := by
  induction values with
  | nil => exact ⟨_, rfl, .of_true (List.forall_mem_nil _)⟩
  | cons value values ih =>
      obtain ⟨outcome, hconfirm, htells⟩ := confirm_tells hopen hstorage value.1 value.2
      rw [Run.forM_cons, Run.bind_apply, hconfirm, List.forall_mem_cons]
      by_cases hvalue : moment.page.storage.find? value.1 = some value.2
      · obtain rfl := htells.confirmed.mpr hvalue
        simpa [hvalue] using ih
      · obtain ⟨message, rfl⟩ := htells.refused hvalue
        exact ⟨_, rfl, .of_false (fun hall => hvalue hall.1) message⟩

theorem verify_tells {seed : Seed} {entries : Storage} (hentries : seed.entries = .ok entries) :
    ∃ outcome, seed.verify (page app) moment = some (outcome, moment) ∧
      Tells (∀ entry ∈ entries.entries, moment.page.storage.find? entry.1 = some entry.2)
        outcome := by
  rw [Seed.verify, Run.ofExcept_bind_apply, hentries, Run.proceed_ok]
  exact confirmAll_tells hopen hstorage entries.entries

theorem confirmsInstalled_of_open : ConfirmsInstalled app moment := by
  intro seed entries hentries
  have hstill := (moment.page.closed_install entries).trans hopen
  refine ⟨_, install_of_valid hopen hentries, fun url habsolute =>
    ⟨_, ask_navigate hstill habsolute⟩, ?_⟩
  intro url visited hvisited seed' entries' hentries'
  obtain ⟨hvisible, older, hwritten⟩ :=
    navigate_writes hstill hstorage (moment.page.installed_install entries) hvisited
  obtain ⟨outcome, hverified, htells⟩ := verify_tells hvisible hstorage hentries'
  rw [hwritten, Dictionary.merged_iff (Seed.keys_entries hentries hentries')] at htells
  exact ⟨outcome, hverified, htells⟩

end Verification

/-- After any calls on a fresh page, the storage is what the navigations that were made have
written, each the entries that were installed then over what was there, and it is empty where it
is blocked; under every key is what was written last there, and no other call changes it.  On an
open page whose storage is not blocked, the session that is installed next is the one that is
confirmed after a navigation, and no session with other entries is. -/
theorem storage_overwritten {calls : List Call} {outcome : Except Failure (List Exchange)}
    {after : Moment PageState}
    (hended : (page app).converse calls ⟨.fresh app, 0⟩ = some (outcome, after)) :
    ∃ made, outcome = .ok made ∧ made.map Exchange.call = calls ∧
      (app.storageBlocked = true → after.page.storage = .empty) ∧
      (app.storageBlocked = false →
        after.page.storage = overwritten (written made) ∧
        ∀ key, after.page.storage.find? key =
          (written made).reverse.findSome? fun entries => entries.find? key) ∧
      (∀ call latency answer reached,
        (page app).reply after.page call = .answered latency answer reached →
        Exchange.visited? ⟨call, some answer⟩ = none → reached.storage = after.page.storage) ∧
      (app.storageBlocked = false → after.page.closed = false → ConfirmsInstalled app after) := by
  obtain ⟨made, rfl, hstores⟩ := (page app).converse_keeps
    (fun hstores hreply => PageState.Stores.reply hstores hreply) (.fresh app) hended
  have hstorage := hstores.storage
  refine ⟨made, rfl, Page.map_call_converse hended, fun hblocked => ?_, fun hfree => ?_,
    fun _ _ _ _ => storage_of_not_visited, fun hfree hopen => confirmsInstalled_of_open hopen hfree⟩
  · rw [hstorage, App.stored, if_pos hblocked]
  · have hwritten : after.page.storage = overwritten (written made) := by
      rw [hstorage, App.stored, hfree]
      rfl
    exact ⟨hwritten, fun key => hwritten ▸ find?_overwritten (written made) key⟩

def darkEntries : Storage := Dictionary.ofList [("auth_token", "t"), ("theme", "dark")]

def otherToken : Storage := Dictionary.ofList [("auth_token", "u")]

/-- Two installations, of which the second waits while a navigation is refused. -/
def storageCalls : List Call :=
  [.install darkEntries, .navigate "http://h/desktop", .install otherToken, .navigate "nowhere",
   .readStorage "auth_token", .navigate "http://h/settings", .screenshot]

/-- Both are written, the second over the first, and the session that comes next is the one that
is confirmed. -/
theorem desktop_storage_overwritten :
    ∃ made after, (page desktop).converse storageCalls ⟨.fresh desktop, 0⟩ =
        some (.ok made, after) ∧
      written made = [darkEntries, otherToken] ∧
      after.page.storage.find? "auth_token" = some "u" ∧
      after.page.storage.find? "theme" = some "dark" ∧ ConfirmsInstalled desktop after := by
  have hrun : (((page desktop).converse storageCalls ⟨.fresh desktop, 0⟩).map fun ended =>
      (ended.1.toOption.map written, ended.2.page.closed)) =
        some (some [darkEntries, otherToken], false) := by
    decide +kernel
  obtain ⟨⟨outcome, after⟩, hended, hvalues⟩ := Option.map_eq_some_iff.mp hrun
  obtain ⟨made, rfl, -, -, hstorage, -, hconfirms⟩ := storage_overwritten hended
  obtain ⟨hwritten, hopen⟩ := Prod.mk.inj hvalues
  have hwritten : written made = [darkEntries, otherToken] := Option.some.inj hwritten
  obtain ⟨-, hfind⟩ := hstorage rfl
  rw [hwritten] at hfind
  exact ⟨made, after, hended, hwritten, hfind "auth_token", hfind "theme", hconfirms rfl hopen⟩

end Model

end DesktopTrial
