import DesktopTrial.Proofs.Model.Click
import DesktopTrial.Proofs.Page.Transcript

/-!
# What an exchange makes of a page

An exchange with an open page is a visit, an installation, the closing of the page, or
changes at most what stands on the page and what the page remembers.  Whatever a page keeps
from call to call is read off these four turns.
-/

namespace DesktopTrial

/-! ## Visits and installations -/

namespace Exchange

def visit (url : String) : Exchange := ⟨.navigate url, some (.ok ())⟩

def visited? : Exchange → Option String
  | ⟨.navigate url, some (.ok _)⟩ => some url
  | _ => none

def installed? : Exchange → Option Storage
  | ⟨.install entries, some (.ok _)⟩ => some entries
  | _ => none

def shown? : Exchange → Option String
  | ⟨.currentUrl, some (.ok shown)⟩ => some shown
  | _ => none

/-- An exchange that is no visit, no installation and no closing, and shows no other URL than
this. -/
structure Quiet (url : String) (exchange : Exchange) : Prop where
  visited : exchange.visited? = none
  installed : exchange.installed? = none
  shown : ∀ shown, exchange.shown? = some shown → shown = url

/-- A call that fails is no visit and no installation, and shows nothing. -/
theorem Quiet.failed (url : String) (call : Call) (failure : Failure) :
    Quiet url ⟨call, some (.error failure)⟩ where
  visited := by cases call <;> rfl
  installed := by cases call <;> rfl
  shown := by cases call <;> exact fun _ hshown => by cases hshown

end Exchange

namespace Model

/-- An open page after an exchange. -/
inductive PageState.Turn (app : App) (before : PageState) : Exchange → PageState → Prop where
  | visit {url : String} : Url.isAbsolute url = true →
      Turn app before (.visit url) ((before.note ("navigate:" ++ Url.path url)).visit app url)
  | install (entries : Storage) :
      Turn app before ⟨.install entries, some (.ok ())⟩ (before.install entries)
  | close :
      Turn app before ⟨.close, some (.ok ())⟩ ({ before with closed := true }.note "close")
  /-- What is shown of the elements and how often the document is found replaced may change, and
  the page may remember something, but not that it was closed. -/
  | other {exchange : Exchange} {elements : List Element} {replacements : Nat}
      {entries : List String} : exchange.Quiet before.url → exchange.call.isOwn = true →
      elements.map Element.outline = before.elements.map Element.outline → "close" ∉ entries →
      Turn app before exchange
        { before with elements, replacements, history := before.history ++ entries }

variable {app : App} {call : Call} {exchange : Exchange} {before after : PageState} {latency : Nat}

/-- A word is no text that begins as the word does not. -/
theorem ne_append {start word : String} (hstart : ¬start.toList <+: word.toList)
    (rest : String) : word ≠ start ++ rest := by
  intro hsame
  apply hstart
  rw [hsame, String.toList_append]
  exact List.prefix_append _ _

namespace PageState

/-- What is remembered of a click says that it is one, or which item of the menu it chose. -/
theorem click_history (word : String) (hclick : ¬"click:".toList <+: word.toList)
    (hitem : ¬"menu_item:".toList <+: word.toList) (app : App) (p : Point) (button : Button)
    (s : PageState) :
    ∃ entries, word ∉ entries ∧ (s.click app p button).history = s.history ++ entries := by
  have hclick : word ≠ "click:" ++ button.text ++ "@" ++ p.text := by
    rw [String.append_assoc, String.append_assoc]
    exact ne_append hclick _
  simp only [click]
  split
  · exact ⟨[_], mt List.mem_singleton.mp hclick, rfl⟩
  · cases button with
    | secondary => exact ⟨[_], mt List.mem_singleton.mp hclick, rfl⟩
    | primary =>
        generalize primaryClick app p s.elements = clicked
        obtain ⟨elements, item⟩ := clicked
        cases item with
        | none => exact ⟨[_], mt List.mem_singleton.mp hclick, rfl⟩
        | some text =>
            have hitem : word ≠ "menu_item:" ++ text := ne_append hitem _
            exact ⟨[_, _], by simp [hclick, hitem], List.append_assoc _ [_] [_]⟩

namespace Turn

/-- An exchange that changes nothing. -/
theorem unchanged (hquiet : exchange.Quiet before.url) (hown : exchange.call.isOwn = true) :
    Turn app before exchange before := by
  have hturn : Turn app before exchange { before with history := before.history ++ [] } :=
    .other hquiet hown rfl List.not_mem_nil
  rwa [List.append_nil] at hturn

theorem noted {entry : String} (hquiet : exchange.Quiet before.url)
    (hown : exchange.call.isOwn = true) (hentry : "close" ≠ entry) :
    Turn app before exchange (before.note entry) :=
  .other hquiet hown rfl (mt List.mem_singleton.mp hentry)

theorem query {locator : Locator} {answer : Except Failure (List Sighting)}
    (hreply : queryReply app before locator = .answered latency answer after) :
    Turn app before ⟨.query locator, some answer⟩ after := by
  obtain ⟨replacements, rfl⟩ := queryReply_frame hreply
  have hturn : Turn app before ⟨.query locator, some answer⟩
      { before with replacements, history := before.history ++ [] } :=
    .other ⟨rfl, rfl, fun _ hshown => by cases hshown⟩ rfl rfl List.not_mem_nil
  rwa [List.append_nil] at hturn

theorem click (p : Point) (button : Button) :
    Turn app before ⟨.click p button, some (.ok ())⟩ (before.click app p button) := by
  obtain ⟨elements, history, hclick⟩ := before.click_frame app button
  obtain ⟨entries, hentries, hhistory⟩ :=
    click_history "close" (by decide) (by decide) app p button before
  have houtline := before.click_outline app p button
  rw [hclick] at hhistory houtline ⊢
  cases hhistory
  exact .other ⟨rfl, rfl, fun _ hshown => by cases hshown⟩ rfl houtline hentries

end Turn

end PageState

theorem openReply_turn {answer : Except Failure call.Answer}
    (hreply : openReply app before call = .answered latency answer after) :
    before.Turn app ⟨call, some answer⟩ after := by
  cases call with
  | navigate url =>
      obtain ⟨habsolute, rfl, rfl⟩ | ⟨rfl, rfl⟩ := openReply_navigate hreply
      · exact .visit habsolute
      · exact .noted (.failed _ _ _) rfl (ne_append (by decide) _)
  | currentUrl =>
      cases hreply
      exact .unchanged ⟨rfl, rfl, fun _ hshown => (by cases hshown; rfl)⟩ rfl
  | install entries =>
      cases hreply
      exact .install entries
  | readStorage key =>
      obtain rfl := openReply_readStorage hreply
      exact .unchanged ⟨rfl, rfl, fun _ hshown => (by cases hshown)⟩ rfl
  | query locator => exact .query hreply
  | click p button =>
      cases hreply
      exact .click p button
  | screenshot =>
      cases hreply
      exact .noted ⟨rfl, rfl, fun _ hshown => (by cases hshown)⟩ rfl (by decide)
  | close =>
      cases hreply
      exact .close

/-- A closed page does not change. -/
theorem closedReply_unchanged {answer : Except Failure call.Answer}
    (hreply : closedReply app before call = .answered latency answer after) : after = before := by
  cases call <;> cases hreply <;> rfl

theorem closedReply_quiet {answer : Except Failure call.Answer} (url : String)
    (hreply : closedReply app before call = .answered latency answer after) :
    Exchange.Quiet url ⟨call, some answer⟩ := by
  cases call with
  | close =>
      cases hreply
      exact ⟨rfl, rfl, fun _ hshown => (by cases hshown)⟩
  | _ =>
      cases hreply
      exact .failed _ _ _

namespace PageState

theorem install_frame (entries : Storage) (s : PageState) :
    ∃ installs noted, "close" ∉ noted ∧
      s.install entries =
        { s with installed := some entries, installs, history := s.history ++ noted } := by
  rw [install]
  split
  · rename_i hsame
    exact ⟨s.installs, [], List.not_mem_nil, by rw [List.append_nil, ← hsame]⟩
  · exact ⟨_, ["install_storage_seed"], by decide, rfl⟩

namespace Turn

/-- No own call of a scenario closes a page. -/
theorem closed_eq (hturn : before.Turn app exchange after) (hown : exchange.call.isOwn = true) :
    after.closed = before.closed := by
  cases hturn with
  | visit _ => rfl
  | install entries =>
      obtain ⟨_, _, _, hinstall⟩ := before.install_frame entries
      rw [hinstall]
  | close => cases hown
  | other _ _ _ _ => rfl

/-- No own call of a scenario is remembered as a closing. -/
theorem history (hturn : before.Turn app exchange after) (hown : exchange.call.isOwn = true) :
    ∃ entries, "close" ∉ entries ∧ after.history = before.history ++ entries := by
  cases hturn with
  | visit _ =>
      exact ⟨[_], mt List.mem_singleton.mp (ne_append (by decide) _), rfl⟩
  | install entries =>
      obtain ⟨_, noted, hnoted, hinstall⟩ := before.install_frame entries
      exact ⟨noted, hnoted, by rw [hinstall]⟩
  | close => cases hown
  | other _ _ _ hentries => exact ⟨_, hentries, rfl⟩

/-- An exchange leaves the outlines of the elements or brings back those of the application. -/
theorem outline (hturn : before.Turn app exchange after) :
    after.elements.map Element.outline = before.elements.map Element.outline ∨
      after.elements = app.elements := by
  cases hturn with
  | visit _ => exact .inr rfl
  | install entries =>
      obtain ⟨_, _, _, hinstall⟩ := before.install_frame entries
      rw [hinstall]
      exact .inl rfl
  | close => exact .inl rfl
  | other _ _ houtline _ => exact .inl houtline

end Turn

end PageState

end Model

end DesktopTrial
