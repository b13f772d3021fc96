import DesktopTrial.Proofs.Json.Denotation
import DesktopTrial.Report

/-!
# Reports are read back

A report is read from every tree that denotes its document, and so from the indented JSON
that is saved for it: nothing that a run left behind is lost in the file.
-/

namespace DesktopTrial

section

variable {ν : Type} [Source ν] (D : Denotation ν) {tree : ν}

theorem CheckRecord.read?_denoted {record : CheckRecord}
    (htree : D.denotes tree record.document) : read? tree = some record := by
  obtain ⟨fields, hfields, hoffers⟩ := D.record htree (by simp) 3
  have hname : fields.required? 0 "name" Source.text? = some record.name :=
    hoffers.given (fun _ => D.text) (by simp)
  have hpassed : fields.required? 1 "passed" Source.bool? = some record.passed :=
    hoffers.given (fun _ => D.bool) (by simp)
  have hdetail : fields.required? 2 "detail" Source.text? = some record.detail :=
    hoffers.given (fun _ => D.text) (by simp)
  simp only [read?, hfields, hname, hpassed, hdetail]

theorem Checkpoint.read?_denoted {checkpoint : Checkpoint}
    (htree : D.denotes tree checkpoint.document) : read? tree = some checkpoint := by
  obtain ⟨fields, hfields, hoffers⟩ := D.record htree (by simp) 2
  have hname : fields.required? 0 "name" Source.text? = some checkpoint.name :=
    hoffers.given (fun _ => D.text) (by simp)
  have hpath : fields.required? 1 "path" Source.text? = some checkpoint.path :=
    hoffers.given (fun _ => D.text) (by simp)
  simp only [read?, hfields, hname, hpath]

theorem ScenarioResult.read?_denoted {result : ScenarioResult}
    (htree : D.denotes tree result.document) : read? tree = some result := by
  obtain ⟨fields, hfields, hoffers⟩ := D.record htree (by simp) 5
  have hscenario : fields.required? 0 "scenario" Source.text? = some result.scenario :=
    hoffers.given (fun _ => D.text) (by simp)
  have hchecks : fields.required? 1 "checks" (Source.listOf? CheckRecord.read?) =
      some result.checks :=
    hoffers.given (fun _ => D.listOf fun _ _ _ => CheckRecord.read?_denoted D) (by simp)
  have hscreenshots : fields.required? 2 "screenshots" (Source.listOf? Checkpoint.read?) =
      some result.screenshots :=
    hoffers.given (fun _ => D.listOf fun _ _ _ => Checkpoint.read?_denoted D) (by simp)
  have hlast : fields.field? 3 "screenshot_path" (Source.optionOf? Source.text?) (some none) none =
      some result.lastScreenshot :=
    hoffers.given (fun _ => D.optionalText) (by simp)
  have herror : fields.field? 4 "error" (Source.optionOf? Source.text?) (some none) none =
      some result.error :=
    hoffers.given (fun _ => D.optionalText) (by simp)
  simp only [read?, hfields, hscenario, hchecks, hscreenshots, hlast, herror]

theorem Report.read?_denoted {report : Report} (htree : D.denotes tree report.document) :
    read? tree = some report := by
  obtain ⟨fields, hfields, hoffers⟩ := D.record htree (by simp) 2
  have hbaseUrl : fields.required? 0 "base_url" Source.text? = some report.baseUrl :=
    hoffers.given (fun _ => D.text) (by simp)
  have hresults : fields.required? 1 "results" (Source.listOf? ScenarioResult.read?) =
      some report.results :=
    hoffers.given (fun _ => D.listOf fun _ _ _ => ScenarioResult.read?_denoted D) (by simp)
  simp only [read?, hfields, hbaseUrl, hresults]

end

/-! ## The saved text -/

theorem ScenarioResult.document_whole (result : ScenarioResult) : result.document.Whole := by
  have hchecks : Document.WholeItems (result.checks.map CheckRecord.document) := by
    rw [Document.wholeItems_iff]
    simp [CheckRecord.document, Document.Whole, Document.WholeMembers]
  have hscreenshots : Document.WholeItems (result.screenshots.map Checkpoint.document) := by
    rw [Document.wholeItems_iff]
    simp [Checkpoint.document, Document.Whole, Document.WholeMembers]
  have hoptional (value : Option String) : (Document.ofOption .text value).Whole := by
    cases value <;> trivial
  exact ⟨trivial, hchecks, hscreenshots, hoptional _, hoptional _, trivial⟩

theorem Report.document_whole (report : Report) : report.document.Whole := by
  have hresults : Document.WholeItems (report.results.map ScenarioResult.document) := by
    rw [Document.wholeItems_iff]
    intro item hitem
    obtain ⟨result, -, rfl⟩ := List.mem_map.mp hitem
    exact result.document_whole
  exact ⟨trivial, hresults, trivial⟩

/-- The records of a list nest one level deeper than each of them. -/
theorem Json.depthOfItems_map_le {α : Type} (write : α → Document) {room : Nat}
    (hwrite : ∀ value, (write value).toJson.depth ≤ room) (values : List α) :
    Json.depthOfItems (Document.itemsToJson (values.map write)) ≤ room := by
  rw [Json.depthOfItems_le_iff, Document.itemsToJson_eq_map, List.map_map]
  intro item hitem
  obtain ⟨value, -, rfl⟩ := List.mem_map.mp hitem
  exact hwrite value

theorem ScenarioResult.depth_document_le (result : ScenarioResult) :
    result.document.toJson.depth ≤ 3 := by
  have hchecks := Json.depthOfItems_map_le CheckRecord.document
    (fun _ => Nat.le_refl 1) result.checks
  have hscreenshots := Json.depthOfItems_map_le Checkpoint.document
    (fun _ => Nat.le_refl 1) result.screenshots
  have hoptional (value : Option String) :
      (Document.ofOption .text value).toJson.depth = 0 := by
    cases value <;> rfl
  simp only [document, Document.toJson, Document.membersToJson, Json.depth, Json.depthOfMembers,
    hoptional]
  omega

/-- A report nests five levels, however much a run leaves behind. -/
theorem Report.depth_document_le (report : Report) : report.document.toJson.depth ≤ 5 := by
  have hresults := Json.depthOfItems_map_le ScenarioResult.document
    ScenarioResult.depth_document_le report.results
  simp only [document, Document.toJson, Document.membersToJson, Json.depth, Json.depthOfMembers]
  omega

/-- A report is read back from the JSON that is saved for it. -/
theorem Report.decode?_prettyJson (report : Report) :
    Json.decode? read? report.prettyJson = some report := by
  have hdepth : report.document.toJson.depth ≤ Json.nestingLimit :=
    Nat.le_trans report.depth_document_le (by decide)
  exact Json.decode?_denoted (Json.read?_pretty report.document_whole.toJson) hdepth fun _ =>
    read?_denoted Json.denotation

end DesktopTrial
