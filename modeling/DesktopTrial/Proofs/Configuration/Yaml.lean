import DesktopTrial.Configuration.Reading
import DesktopTrial.Proofs.Configuration.Data
import DesktopTrial.Proofs.Configuration.Validity
import DesktopTrial.Proofs.Locator.Yaml
import DesktopTrial.Proofs.Yaml.Composed

/-!
# Configurations in YAML text

A configuration that was checked is read back from its YAML text, unless a scope inside the
selector of its menu is picked by its place.
-/

namespace DesktopTrial

/-! ## Coordinates inside the viewport -/

/-- A value between zero and another value is finite. -/
theorem isFinite_of_bounds {x bound : Float} (hzero : (0 : Float) ≤ x) (hbound : x < bound) :
    x.isFinite = true := by
  have hlow : ((0 : Float).toModel.unpack.compare x.toModel.unpack).any (·.isLE) = true :=
    of_decide_eq_true hzero
  have hhigh : (x.toModel.unpack.compare bound.toModel.unpack == some .lt) = true :=
    of_decide_eq_true hbound
  change x.toModel.unpack.isFinite = true
  cases hunpack : x.toModel.unpack with
  | notANumber =>
      rw [hunpack] at hhigh
      cases hhigh
  | infinity sign =>
      -- Nothing is greater than one infinity, and the other is not positive.
      rw [hunpack] at hlow hhigh
      cases sign with
      | positive =>
          cases hother : bound.toModel.unpack with
          | infinity other => rw [hother] at hhigh; cases other <;> cases hhigh
          | notANumber | zero | finite => rw [hother] at hhigh; cases hhigh
      | negative =>
          have hzero : (0 : Float).toModel.unpack = .zero .positive := rfl
          rw [hzero] at hlow
          cases hlow
  | zero | finite => rfl

/-! ## Settings with a part that is not read -/

section Unread

variable {ν : Type} [Source ν] {tree : ν} {fields : Fields ν}

theorem Markers.read?_of_contextMenu (hfields : Source.record? 10 tree = some fields)
    (hnone : ∀ standard, fields.defaulted? 7 "context_menu" Locator.read? standard = none) :
    read? tree = none := by
  refine Option.bind_eq_none_iff.mpr fun _ hrecord => ?_
  cases hfields.symm.trans hrecord
  -- The seven markers in front of the menu may be read or not.
  iterate 7 refine Option.bind_eq_none_iff.mpr fun _ _ => ?_
  rw [hnone]
  rfl

theorem Configuration.read?_of_session (hfields : Source.record? 11 tree = some fields)
    (hnone : ∀ standard, fields.defaulted? 5 "session" SessionSettings.read? standard = none) :
    read? tree = none := by
  refine Option.bind_eq_none_iff.mpr fun _ hrecord => ?_
  cases hfields.symm.trans hrecord
  iterate 5 refine Option.bind_eq_none_iff.mpr fun _ _ => ?_
  rw [hnone]
  rfl

theorem Configuration.read?_of_markers (hfields : Source.record? 11 tree = some fields)
    (hnone : ∀ standard, fields.defaulted? 6 "markers" Markers.read? standard = none) :
    read? tree = none := by
  refine Option.bind_eq_none_iff.mpr fun _ hrecord => ?_
  cases hfields.symm.trans hrecord
  iterate 6 refine Option.bind_eq_none_iff.mpr fun _ _ => ?_
  rw [hnone]
  rfl

end Unread

/-! ## Settings that nest too deeply -/

section Overflows

variable {cursor : Yaml.Cursor}

theorem SessionSettings.read?_of_overflows {session : SessionSettings}
    (htree : cursor.Overflows session.document) : read? cursor = none := by
  rcases htree.record (by simp) 3 with hnone | ⟨fields, hfields, member, hmember, tree, -, hdeep,
    hfield⟩
  · rw [read?, hnone]
  simp only [List.mem_cons, List.not_mem_nil, or_false] at hmember
  rcases hmember with rfl | rfl | rfl
  · exact absurd hdeep.depth (Nat.not_lt_zero _)
  · exact absurd hdeep.depth (Nat.not_lt_zero _)
  · have huserFields (standard : Dictionary Json) :
        fields.defaulted? 2 "user_fields" Source.dictionary? standard = none := by
      rw [Fields.defaulted?, hfield, Yaml.Cursor.Overflows.dictionary? hdeep]
    simp only [read?, hfields, huserFields]
    split
    · contradiction
    · rfl

theorem Markers.read?_of_overflows {markers : Markers}
    (htree : cursor.Overflows markers.document) : read? cursor = none := by
  rcases htree.record (by simp) 10 with hnone | ⟨fields, hfields, member, hmember, tree, -, hdeep,
    hfield⟩
  · rw [read?, hnone]
    rfl
  have hmenu : member = ("context_menu", markers.contextMenu.document) := by
    simp only [List.mem_cons, List.not_mem_nil, or_false] at hmember
    rcases hmember with rfl | rfl | rfl | rfl | rfl | rfl | rfl | rfl | rfl | rfl <;>
      first
      | exact absurd hdeep.depth (Nat.not_lt_zero _)
      | rfl
  subst hmenu
  refine read?_of_contextMenu hfields fun standard => ?_
  rw [Fields.defaulted?, hfield, Locator.read?_of_overflows hdeep]

end Overflows

namespace Configuration

variable {config : Configuration}

theorem isFinite_of_inViewport {viewport : Size} {p : Point} (hinside : inViewport viewport p = true) :
    p.x.isFinite = true ∧ p.y.isFinite = true := by
  simp only [inViewport, Bool.and_eq_true, decide_eq_true_eq] at hinside
  obtain ⟨⟨⟨hx, hy⟩, hwidth⟩, hheight⟩ := hinside
  exact ⟨isFinite_of_bounds hx hwidth, isFinite_of_bounds hy hheight⟩

theorem proper_document (config : Configuration) : config.document.Proper := by
  have hmenu : config.markers.contextMenu.document.Proper :=
    proper_locatorDocument (Selector.proper_document _) _
  have huserFields : (Document.ofJson (.ofDictionary config.session.userFields)).Proper :=
    Document.proper_ofJson _
  have hexecutable : (Document.ofOption .text config.browser.executable).Proper := by
    cases config.browser.executable <;> trivial
  simp [document, Size.document, Timeouts.document, SessionSettings.document, Markers.document,
    Point.document, BrowserSettings.document, Document.Proper, Document.ProperMembers,
    Document.natural, hmenu, huserFields, hexecutable]

/-- A configuration is not read when a scope of its menu is picked by its place. -/
theorem read?_of_picksScope {cursor : Yaml.Cursor}
    (hscopes : config.markers.contextMenu.selector.picksScope = true)
    (htree : cursor.Denotes config.document) : read? cursor = none := by
  obtain ⟨fields, hfields, hoffers⟩ := Yaml.denotation.record htree (by simp) 11
  have hmarkers (tree : Yaml.Cursor) (hdenotes : tree.Denotes config.markers.document) :
      Markers.read? tree = none := by
    obtain ⟨fields, hfields, hoffers⟩ := Yaml.denotation.record hdenotes (by simp) 10
    exact Markers.read?_of_contextMenu hfields fun _ =>
      hoffers.given (fun _ => Locator.read?_of_picksScope hscopes) (by simp)
  exact read?_of_markers hfields fun _ => hoffers.given hmarkers (by simp)

/-- A configuration whose session or markers nest too deeply is not read. -/
theorem read?_of_overflows {cursor : Yaml.Cursor} (hroom : 1 < cursor.room)
    (htree : cursor.Overflows config.document) : read? cursor = none := by
  rcases htree.record (by simp) 11 with hnone | ⟨fields, hfields, member, hmember, tree, hchild,
    hdeep, hfield⟩
  · rw [read?, hnone]
    rfl
  have hdepth : 1 < member.2.depth := by
    have hless := hdeep.depth
    omega
  have hexecutable : (Document.ofOption .text config.browser.executable).depth = 0 := by
    cases config.browser.executable <;> rfl
  have hnested : member = ("session", config.session.document) ∨
      member = ("markers", config.markers.document) := by
    -- All other settings are scalars or structures of scalars.
    simp only [List.mem_cons, List.not_mem_nil, or_false] at hmember
    rcases hmember with rfl | rfl | rfl | rfl | rfl | rfl | rfl | rfl | rfl | rfl | rfl
    case inr.inr.inr.inr.inr.inl => exact .inl rfl
    case inr.inr.inr.inr.inr.inr.inl => exact .inr rfl
    all_goals simp [Size.document, Timeouts.document, Point.document, BrowserSettings.document,
      Document.depth, Document.depthOfMembers, Document.natural, hexecutable] at hdepth
  rcases hnested with rfl | rfl
  · refine read?_of_session hfields fun standard => ?_
    rw [Fields.defaulted?, hfield, SessionSettings.read?_of_overflows hdeep]
  · refine read?_of_markers hfields fun standard => ?_
    rw [Fields.defaulted?, hfield, Markers.read?_of_overflows hdeep]

/-- What a checked configuration is read as from a text with the node of its document. -/
theorem ofYaml_of_node {text : String} (hchecked : config.fault? = none)
    (hregular : Json.RegularMembers config.session.userFields.entries)
    (htext : Yaml.read? text = some ⟨config.document.node, []⟩) :
    ofYaml text =
      if config.markers.contextMenu.selector.picksScope ∨ Yaml.nestingLimit < config.document.depth
      then .error .yaml else .ok config := by
  have hvalid := fault?_eq_none_iff.mp hchecked
  obtain ⟨cursor, hcursor⟩ : ∃ cursor : Yaml.Cursor, cursor =
      ⟨Yaml.nestingLimit, 100 * config.document.node.events, [], config.document.node⟩ := ⟨_, rfl⟩
  by_cases hdepth : Yaml.nestingLimit < config.document.depth
  · have hnone : read? cursor = none :=
      read?_of_overflows (by rw [hcursor]; exact (by decide : 1 < Yaml.nestingLimit))
        (by rw [hcursor]; exact ⟨rfl, rfl, hdepth⟩)
    subst hcursor
    simp only [ofYaml, Yaml.decode?, htext, hnone, hdepth, or_true, if_true]
  have hdenotes : cursor.Denotes config.document := by
    rw [hcursor]
    exact ⟨rfl, rfl, Nat.le_of_not_lt hdepth, config.proper_document⟩
  cases hscopes : config.markers.contextMenu.selector.picksScope with
  | true =>
      have hnone := read?_of_picksScope hscopes hdenotes
      subst hcursor
      simp only [ofYaml, Yaml.decode?, htext, hnone, true_or, if_true]
  | false =>
      have hsome := read?_denoted hregular (Selector.keptMembers hscopes)
        (isFinite_of_inViewport hvalid.background) (isFinite_of_inViewport hvalid.dismiss) hdenotes
      subst hcursor
      simp only [ofYaml, Yaml.decode?, htext, hsome, validate, hchecked, Bool.false_eq_true, hdepth,
        or_self, if_false]

theorem fault?_of_valid (hvalid : config.validate = .ok ()) : config.fault? = none :=
  fault?_eq_none_iff.mpr (validate_eq_ok_iff.mp hvalid)

theorem read?_print_document (config : Configuration) :
    Yaml.read? (Yaml.print config.document) = some ⟨config.document.node, []⟩ := by
  have hproper : config.document.Proper := config.proper_document
  exact Yaml.read?_print hproper

/-- What is printed of a valid configuration is read back as this configuration; only scopes
picked by their place inside the selector of the menu, and nesting beyond the limit, are
refused. -/
theorem printed_read_back (hvalid : config.validate = .ok ())
    (hregular : Json.RegularMembers config.session.userFields.entries) :
    ofYaml (Yaml.print config.document) =
      if config.markers.contextMenu.selector.picksScope ∨ Yaml.nestingLimit < config.document.depth
      then .error .yaml else .ok config :=
  ofYaml_of_node (fault?_of_valid hvalid) hregular config.read?_print_document

/-- The third of the menu entries in the last of the captions inside the first panel. -/
def panelMenu : Locator where
  selector := .textWithin (.textWithin (.css ".panel") (some .first) "it's: here" true)
    (some .last) "Change\nWallpaper" false
  occurrence := some (.nth 2)

/-- A configuration with nested scopes, numbers, lists and texts that have to be quoted. -/
def panelConfiguration : Configuration where
  session :=
    { token := "007"
      username := "yes: \"no\""
      userFields := Dictionary.ofList [
        ("levels", .array [.integer (-2), .float 2.5, .null, .array [], .string "~"]),
        ("limits", .object [("most", .integer 18446744073709551615)]),
        ("note", .string "one line\nand another\n")] }
  markers := { contextMenu := panelMenu }

/-- It is read back, also the place of the menu entry, since no scope is picked by its place. -/
theorem panel_read_back :
    panelConfiguration.validate = .ok () ∧
      Json.RegularMembers panelConfiguration.session.userFields.entries ∧
      ofYaml (Yaml.print panelConfiguration.document) = .ok panelConfiguration := by
  have hvalid : panelConfiguration.validate = .ok () := by decide +kernel
  have hregular : Json.RegularMembers panelConfiguration.session.userFields.entries := by
    have hentries : panelConfiguration.session.userFields.entries = [
        ("levels", .array [.integer (-2), .float 2.5, .null, .array [], .string "~"]),
        ("limits", .object [("most", .integer 18446744073709551615)]),
        ("note", .string "one line\nand another\n")] := rfl
    have hfinite : (2.5 : Float).isFinite = true := by decide +kernel
    rw [hentries]
    exact ⟨⟨⟨by decide, by decide⟩, hfinite, trivial, trivial, trivial, trivial⟩,
      ⟨List.pairwise_singleton _ _, ⟨by decide, by decide⟩, trivial⟩, trivial, trivial⟩
  have hdepth : ¬ Yaml.nestingLimit < panelConfiguration.document.depth := by decide
  refine ⟨hvalid, hregular, ?_⟩
  rw [printed_read_back hvalid hregular, if_neg]
  rintro (hscopes | hdeep)
  · cases hscopes
  · exact hdepth hdeep

/-- The menu entry inside the second container with the class of menus. -/
def secondMenu : Locator := ⟨.textWithin (.css ".menu") (some (.nth 1)) "Change Wallpaper" false, none⟩

def secondMenuConfiguration : Configuration := { markers := { contextMenu := secondMenu } }

/-- A valid configuration that nests little is not read back. -/
theorem secondMenu_refused :
    secondMenuConfiguration.validate = .ok () ∧
      Json.RegularMembers secondMenuConfiguration.session.userFields.entries ∧
      secondMenuConfiguration.document.depth ≤ Yaml.nestingLimit ∧
      ofYaml (Yaml.print secondMenuConfiguration.document) = .error .yaml := by
  have hvalid : secondMenuConfiguration.validate = .ok () := by decide +kernel
  have hregular : Json.RegularMembers secondMenuConfiguration.session.userFields.entries :=
    ⟨trivial, trivial, trivial⟩
  refine ⟨hvalid, hregular, by decide, ?_⟩
  rw [ofYaml_of_node (fault?_of_valid hvalid) hregular secondMenuConfiguration.read?_print_document,
    if_pos]
  exact .inl rfl

end Configuration

end DesktopTrial
