import DesktopTrial.Model.App
import DesktopTrial.Proofs.Text.Folding

/-!
# Texts that are looked for in a part

A selector that does not ask for the whole text or name compares both sides in lower case.  It
finds a text wherever it literally stands, unless the lower-case form of a sigma at its edge is
told by what stands around it.
-/

namespace DesktopTrial.Model

open Text

variable {e : Element} {selector : Selector} {actual wanted : String}

/-- The selector looks for a text in a part of the element's text or name, and the element has
the role or answers to the CSS selector that is asked for besides. -/
inductive LooksIn (e : Element) : Selector → (actual wanted : String) → Prop where
  | text (wanted : String) : LooksIn e (.text wanted false) e.text wanted
  | role (kind name : String) : e.role = some kind → LooksIn e (.role kind name false) e.name name
  | cssWithText (pattern wanted : String) : pattern ∈ e.css →
      LooksIn e (.cssWithText pattern wanted) e.text wanted

theorem textMatches_part_iff : textMatches actual wanted false = true ↔
    lowercaseChars wanted.toList <:+: lowercaseChars actual.toList := by
  rw [textMatches, if_neg Bool.false_ne_true, contains, occursIn_iff_infix, lowercase, lowercase,
    String.toList_ofList, String.toList_ofList]

/-- The element matches when its text or name does, in lower case. -/
theorem LooksIn.fits_iff (hlooks : LooksIn e selector actual wanted) :
    e.fits selector = true ↔ lowercaseChars wanted.toList <:+: lowercaseChars actual.toList := by
  rw [← textMatches_part_iff]
  cases hlooks with
  | text wanted => rfl
  | role kind name hrole => simp [Element.fits, hrole]
  | cssWithText pattern wanted hpattern => simp [Element.fits, hpattern]

/-- An element matches when its text or name holds the wanted text at a place where no sigma of
it is swayed.  So a text without an open sigma is found wherever it literally stands, and a text
with one is missed, in some text that it stands in, by every element and every selector. -/
theorem literal_texts_found (wanted : String) :
    (∀ (e : Element) (selector : Selector) (actual : String) (before after : List Char),
      LooksIn e selector actual wanted → actual.toList = before ++ wanted.toList ++ after →
        ¬Sways before wanted.toList after → e.fits selector = true) ∧
    (¬HasOpenSigma wanted.toList →
      ∀ (e : Element) (selector : Selector) (actual : String), LooksIn e selector actual wanted →
        wanted.toList <:+: actual.toList → e.fits selector = true) ∧
    (HasOpenSigma wanted.toList → ∃ actual : String, wanted.toList <:+: actual.toList ∧
      ∀ (e : Element) (selector : Selector), LooksIn e selector actual wanted →
        e.fits selector = false) := by
  have hplace (e : Element) (selector : Selector) (actual : String) (before after : List Char)
      (hlooks : LooksIn e selector actual wanted)
      (hactual : actual.toList = before ++ wanted.toList ++ after)
      (hfree : ¬Sways before wanted.toList after) : e.fits selector = true := by
    rw [hlooks.fits_iff, hactual]
    exact infix_of_not_sways hfree
  refine ⟨hplace, fun hclosed e selector actual hlooks hinside => ?_, fun hopen => ?_⟩
  · obtain ⟨before, after, hactual⟩ := hinside
    exact hplace e selector actual before after hlooks hactual.symm
      fun hsways => hclosed hsways.hasOpenSigma
  · obtain ⟨before, after, hmissed⟩ := hopen.exists_missed
    refine ⟨String.ofList (before ++ wanted.toList ++ after), ?_, fun e selector hlooks => ?_⟩
    · rw [String.toList_ofList]
      exact ⟨before, after, rfl⟩
    · rw [Bool.eq_false_iff, ne_eq, hlooks.fits_iff, String.toList_ofList]
      exact hmissed

/-- A sign with the name of a street and a number. -/
def streetSign : Element where
  id := "sign"
  box := ⟨0, 0, 10, 10⟩
  css := [".sign"]
  role := some "note"
  name := "Dock"
  text := "ΟΔΟΣ 7"

/-- The word ends with an open sigma, but not on this sign; and a name without a sigma is found
in any case. -/
theorem streetSign_found :
    HasOpenSigma "ΟΔΟΣ".toList ∧ ¬Sways [] "ΟΔΟΣ".toList " 7".toList ∧
      streetSign.fits (.text "ΟΔΟΣ" false) = true ∧
      streetSign.fits (.cssWithText ".sign" "ΟΔΟΣ") = true ∧
      streetSign.fits (.role "note" "ock" false) = true ∧
      ∃ actual : String, "ΟΔΟΣ".toList <:+: actual.toList ∧
        ({ streetSign with text := actual }).fits (.text "ΟΔΟΣ" false) = false := by
  have hopen : HasOpenSigma "ΟΔΟΣ".toList :=
    .back "ΟΔΟ".toList [] (by decide) rfl (by decide +kernel)
  have hfree : ¬Sways [] "ΟΔΟΣ".toList " 7".toList :=
    lowercaseBetween_eq_lowercaseChars_iff.mp (by decide +kernel)
  obtain ⟨hplace, -, hmissed⟩ := literal_texts_found "ΟΔΟΣ"
  obtain ⟨-, hfound, -⟩ := literal_texts_found "ock"
  refine ⟨hopen, hfree, ?_, ?_, ?_, ?_⟩
  · exact hplace streetSign _ _ [] " 7".toList (.text "ΟΔΟΣ") (by decide) hfree
  · exact hplace streetSign _ _ [] " 7".toList (.cssWithText ".sign" "ΟΔΟΣ" (by decide)) (by decide)
      hfree
  · exact hfound (fun hopen => absurd hopen.mem (by decide)) streetSign _ _
      (.role "note" "ock" rfl) (by decide)
  · obtain ⟨actual, hinside, hmissed⟩ := hmissed hopen
    exact ⟨actual, hinside, hmissed _ _ (.text "ΟΔΟΣ")⟩

/-- The beginning of a word that ends with a sigma is not found in the word. -/
theorem wordBeginning_missed :
    ¬∀ (e : Element) (selector : Selector) (actual wanted : String),
      LooksIn e selector actual wanted → wanted.toList <:+: actual.toList →
        e.fits selector = true := by
  intro hfound
  have hfits := hfound { streetSign with text := "ΒΑΣΗ" } _ _ _ (.text "ΒΑΣ")
    ⟨[], ['Η'], by decide⟩
  revert hfits
  decide +kernel

end DesktopTrial.Model
