import DesktopTrial.Configuration.Basic

/-!
# Valid configurations

What it comes to that a configuration passes validation: one requirement for every fault
that validation looks for.
-/

namespace DesktopTrial.Configuration

variable {config : Configuration}

structure Valid (config : Configuration) : Prop where
  baseUrl : isWebUrl config.baseUrl = true
  viewport : config.viewport.width ≠ 0 ∧ config.viewport.height ≠ 0
  ready : config.timeouts.ready ≠ 0
  poll : config.timeouts.poll ≠ 0
  background : inViewport config.viewport config.backgroundPoint = true
  dismiss : inViewport config.viewport config.dismissPoint = true
  window : config.window.width ≤ config.viewport.width ∧
    config.window.height ≤ config.viewport.height

/-- There is no first fault when the first condition does not hold and none is found later. -/
theorem first_eq_none_iff {condition : Prop} [Decidable condition] {fault : String}
    {later : Option String} :
    (if condition then some fault else later) = none ↔ ¬condition ∧ later = none := by
  split
  · rename_i hholds
    simp [hholds]
  · rename_i hfails
    simp [hfails]

/-- A configuration without a fault is one that meets every requirement. -/
theorem fault?_eq_none_iff : config.fault? = none ↔ config.Valid := by
  simp only [fault?, first_eq_none_iff, not_or, Bool.not_eq_true', Bool.not_eq_false,
    UInt32.not_lt]
  constructor
  · rintro ⟨hbaseUrl, hviewport, hready, hpoll, hbackground, hdismiss, hwindow, -⟩
    exact ⟨hbaseUrl, hviewport, hready, hpoll, hbackground, hdismiss, hwindow⟩
  · intro hvalid
    exact ⟨hvalid.baseUrl, hvalid.viewport, hvalid.ready, hvalid.poll, hvalid.background,
      hvalid.dismiss, hvalid.window, trivial⟩

theorem validate_eq_ok_iff : config.validate = .ok () ↔ config.Valid := by
  rw [← fault?_eq_none_iff, validate]
  cases config.fault? <;> simp

end DesktopTrial.Configuration
