import NdvLayout.Handlers

/-!
# NDV draggable panels: what one step can do

Every handler writes the NDV store only through `setMainPanelWidth` and
`setPositions`, only at the current panel type, and every handler that writes
it ends with `setPositions`.  This module proves that once per handler
(`EndsInSetPositions`) and then once for `step` (`step_ndvStore_cases`); the
invariants of the next modules cite only these lemmas.

**Results.**
* `step_ndvStore_cases`: a step leaves the store as it was, or ends in
  `setPositions` from a state that agrees with the old store off its own type.
* `Repositions.endsInSetPositions`: the repositioning events (mount from the
  default entry, viewport change, horizontal drag, accepted resize, named
  snap) all end in `setPositions`.
-/

namespace NdvLayout

namespace Panels

variable {s s' : Panels} {m : ℕ}

/-- `s'` agrees with the store of `s` everywhere except at its own panel type. -/
def AgreesOff (s s' : Panels) : Prop :=
  ∀ t ≠ s'.currentNodePaneType, s'.ndvStore t = s.ndvStore t

/-- `s'` is `setPositions` applied to a state that agrees with the store of `s`
off its own panel type. -/
def EndsInSetPositions (s s' : Panels) : Prop :=
  ∃ s₀ x, s' = s₀.setPositions x ∧ AgreesOff s s₀

theorem AgreesOff.of_ndvStore_eq (h : s'.ndvStore = s.ndvStore) : AgreesOff s s' :=
  fun t _ => congrFun h t

theorem AgreesOff.setMainPanelWidth (h : AgreesOff s s') (w : JsNumber) :
    AgreesOff s (s'.setMainPanelWidth m w) := by
  intro t ht
  simp only [setMainPanelWidth_eq, currentNodePaneType_setMainPanelDimensions] at ht ⊢
  rw [setMainPanelDimensions_ndvStore_of_ne _ ht, h t ht]

theorem AgreesOff.setPositions (h : AgreesOff s s') (x : JsNumber) :
    AgreesOff s (s'.setPositions x) := by
  intro t ht
  rw [setPositions_currentNodePaneType] at ht
  rw [setPositions_eq, setMainPanelDimensions_ndvStore_of_ne _ ht, h t ht]

theorem AgreesOff.floorWidth (h : AgreesOff s s') (r : ℚ) : AgreesOff s (s'.floorWidth m r) := by
  unfold Panels.floorWidth
  split
  · exact h.setMainPanelWidth _
  · exact h

theorem AgreesOff.refit (h : AgreesOff s s') (a r : ℚ) : AgreesOff s (s'.refit m a r) := by
  unfold Panels.refit
  split
  · exact (h.setMainPanelWidth _).setPositions _
  · exact h

theorem EndsInSetPositions.of_agreesOff (h : AgreesOff s s') (x : JsNumber) :
    EndsInSetPositions s (s'.setPositions x) :=
  ⟨s', x, rfl, h⟩

theorem EndsInSetPositions.congr (hs : s'.ndvStore = s.ndvStore) {s'' : Panels}
    (h : EndsInSetPositions s' s'') : EndsInSetPositions s s'' := by
  obtain ⟨s₀, x, rfl, h₀⟩ := h
  exact ⟨s₀, x, rfl, fun t ht => (h₀ t ht).trans (congrFun hs t)⟩

/-! ## One lemma per handler -/

variable (s) (m)

theorem restorePositionData_of_none (h : s.storage s.currentNodePaneType = none) :
    (s.restorePositionData m).1 = s := by
  simp [restorePositionData, h]

theorem restorePositionData_of_some {v : JsNumber} (h : s.storage s.currentNodePaneType = some v) :
    (s.restorePositionData m).1 = (s.setMainPanelWidth m v).setPositions (s.getInitialLeftPosition v) := by
  simp [restorePositionData, h]

variable {s} in
theorem EndsInSetPositions.restorePositionData {s₁ : Panels} (h : EndsInSetPositions s s₁) :
    EndsInSetPositions s (s₁.restorePositionData m).1 := by
  cases hv : s₁.storage s₁.currentNodePaneType with
  | none => rwa [restorePositionData_of_none _ _ hv]
  | some v =>
      obtain ⟨s₀, x, rfl, h₀⟩ := h
      rw [restorePositionData_of_some _ _ hv]
      exact .of_agreesOff ((h₀.setPositions x).setMainPanelWidth v) _

/-- The first two writes of `onMounted`: the default width, then the initial
left position. -/
def placeInitially : Panels :=
  let s := s.setMainPanelWidth m .undefined
  s.setPositions (s.getInitialLeftPosition (.num s.mainPanelDimensions.relativeWidth))

theorem onMounted_of_atDefault
    (h : s.mainPanelDimensions.relativeLeft = 1 ∧ s.mainPanelDimensions.relativeRight = 1) :
    s.onMounted m = ((s.placeInitially m).restorePositionData m).1 := by
  simp only [onMounted, if_pos h]
  rfl

theorem onMounted_of_not_atDefault
    (h : ¬ (s.mainPanelDimensions.relativeLeft = 1 ∧ s.mainPanelDimensions.relativeRight = 1)) :
    s.onMounted m = s := by
  simp only [onMounted]
  exact if_neg h

theorem onMounted_endsInSetPositions
    (h : s.mainPanelDimensions.relativeLeft = 1 ∧ s.mainPanelDimensions.relativeRight = 1) :
    EndsInSetPositions s (s.onMounted m) := by
  rw [onMounted_of_atDefault _ m h]
  exact (EndsInSetPositions.of_agreesOff
    ((AgreesOff.of_ndvStore_eq rfl).setMainPanelWidth .undefined) _).restorePositionData m

theorem onAppGridDimensionsChange_endsInSetPositions (d : GridDimensions) (n : Option ℚ) :
    EndsInSetPositions s (s.onAppGridDimensionsChange m d n) := by
  rw [onAppGridDimensionsChange_eq]
  have h₁ : AgreesOff s (s.withContainerWidth (n.getD d.width)) := AgreesOff.of_ndvStore_eq rfl
  exact .of_agreesOff ((h₁.floorWidth _).refit _ _) _

theorem onResize_cases (data : ResizeData) :
    s.onResize m data = s ∨ EndsInSetPositions s (s.onResize m data) := by
  simp only [onResize]
  split_ifs
  · exact .inl rfl
  · exact .inl rfl
  · exact .inl rfl
  all_goals exact .inr (.of_agreesOff ((AgreesOff.of_ndvStore_eq rfl).setMainPanelWidth _) _)

theorem floorWidth_of_not_lt {r : ℚ} (h : ¬ s.mainPanelDimensions.relativeWidth < r) :
    s.floorWidth m r = s :=
  if_neg h

theorem refit_of_pastMargins {a r : ℚ} (h : a > minWindowWidth ∧
    s.minimumLeftPosition > s.mainPanelDimensions.relativeLeft ∧
      s.maximumRightPosition > s.mainPanelDimensions.relativeRight) :
    s.refit m a r = (s.setMainPanelWidth m (.num r)).setPositions
      ((s.setMainPanelWidth m (.num r)).getInitialLeftPosition
        (.num (s.setMainPanelWidth m (.num r)).mainPanelDimensions.relativeWidth)) :=
  if_pos h

/-- The guards under which `onResize` changes the layout: none of its three
early returns is taken. -/
def ResizeAccepted (data : ResizeData) : Prop :=
  ¬ (data.direction = "left" ∧ s.pxToRelativeWidth data.x ≤ s.minimumLeftPosition) ∧
    ¬ (data.direction = "right" ∧ 1 - s.pxToRelativeWidth data.x ≤ s.maximumRightPosition) ∧
    ¬ data.width ≤ minPanelWidth

theorem onResize_of_resizeAccepted {data : ResizeData} (h : s.ResizeAccepted data) :
    s.onResize m data = (s.setMainPanelWidth m (.num (s.pxToRelativeWidth data.width))).setPositions
      (.num (if data.direction = "left" then s.pxToRelativeWidth data.x
        else s.mainPanelDimensions.relativeLeft)) := by
  obtain ⟨h₁, h₂, h₃⟩ := h
  simp only [onResize, if_neg h₁, if_neg h₂, if_neg h₃]
  simp

theorem onDrag_of_horizontal (p : ℚ × ℚ) (h : s.useVerticalLayout = false) :
    s.onDrag p = s.setPositions
      (.num (s.pxToRelativeWidth p.1 - s.mainPanelDimensions.relativeWidth / 2)) := by
  simp [onDrag, h]

theorem onDrag_cases (p : ℚ × ℚ) :
    (s.onDrag p).ndvStore = s.ndvStore ∨ EndsInSetPositions s (s.onDrag p) := by
  simp only [onDrag]
  split_ifs
  · exact .inl rfl
  · exact .inr (.of_agreesOff (AgreesOff.of_ndvStore_eq rfl) _)

theorem setPositionByName_endsInSetPositions (p : PositionName) :
    EndsInSetPositions s (s.setPositionByName p) :=
  .of_agreesOff (AgreesOff.of_ndvStore_eq rfl) _

end Panels

/-! ## One lemma for a step -/

open Panels

variable (m : ℕ) (s : Panels)

/-- A step leaves the NDV store as it was, or ends in `setPositions` from a state
that agrees with the old store off its own panel type. -/
theorem step_ndvStore_cases (e : Event) :
    (step m s e).ndvStore = s.ndvStore ∨ EndsInSetPositions s (step m s e) := by
  cases e with
  | mount props =>
      simp only [step]
      split_ifs with h₁
      · exact .inl rfl
      · by_cases h : (s.setup props).mainPanelDimensions.relativeLeft = 1 ∧
            (s.setup props).mainPanelDimensions.relativeRight = 1
        · exact .inr ((onMounted_endsInSetPositions (s.setup props) m h).congr rfl)
        · exact .inl (by rw [mount, onMounted_of_not_atDefault _ m h]; rfl)
  | appGridResize d n =>
      simp only [step]
      split_ifs
      · exact .inr ((onAppGridDimensionsChange_endsInSetPositions { s with appGridDimensions := d } m d n).congr rfl)
      · exact .inl rfl
  | drag p =>
      simp only [step]
      split_ifs
      · exact s.onDrag_cases p
      · exact .inl rfl
  | resize data =>
      simp only [step, onResizeThrottle]
      split_ifs
      · rcases s.onResize_cases m data with h | h
        · exact .inl (by rw [h])
        · exact .inr h
      · exact .inl rfl
      · exact .inl rfl
  | setPositionByName p =>
      simp only [step]
      split_ifs
      · exact .inr (s.setPositionByName_endsInSetPositions p)
      · exact .inl rfl
  | _ => exact .inl (by simp only [step]; try (split_ifs <;> rfl))

/-! ## The repositioning events -/

/-- The events that reposition the main panel, each with the guard under which
its handler does: mounting over an entry that still has the default edges, a
viewport change while mounted, a horizontal drag, an accepted resize, and a
named snap. -/
def Repositions (s : Panels) : Event → Prop
  | .mount props => s.mounted = false ∧ (s.setup props).mainPanelDimensions.relativeLeft = 1 ∧
      (s.setup props).mainPanelDimensions.relativeRight = 1
  | .appGridResize _ _ => s.mounted = true
  | .drag _ => s.dragEnabled ∧ s.useVerticalLayout = false
  | .resize data => s.resizeEnabled data.direction ∧ s.initialized = true ∧ s.ResizeAccepted data
  | .setPositionByName _ => s.mounted = true
  | _ => False

theorem Repositions.endsInSetPositions {e : Event} (h : Repositions s e) :
    EndsInSetPositions s (step m s e) := by
  cases e with
  | mount props =>
      obtain ⟨hm, hdef⟩ := h
      simp only [step, hm, Bool.false_eq_true, if_false, mount]
      exact (onMounted_endsInSetPositions (s.setup props) m hdef).congr rfl
  | appGridResize d n =>
      rw [step_appGridResize, if_pos (show s.mounted = true from h)]
      exact (onAppGridDimensionsChange_endsInSetPositions { s with appGridDimensions := d } m d n).congr rfl
  | drag p =>
      simp only [step, if_pos h.1, onDrag_of_horizontal s p h.2]
      exact .of_agreesOff (AgreesOff.of_ndvStore_eq rfl) _
  | resize data =>
      obtain ⟨he, hi, ha⟩ := h
      simp only [step, if_pos he, onResizeThrottle, hi, if_true, onResize_of_resizeAccepted s m ha]
      exact .of_agreesOff ((AgreesOff.of_ndvStore_eq rfl).setMainPanelWidth _) _
  | setPositionByName p =>
      simp only [step, show s.mounted = true from h, if_true]
      exact s.setPositionByName_endsInSetPositions p
  | _ => exact h.elim

end NdvLayout
