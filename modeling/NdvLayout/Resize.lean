import NdvLayout.Lifecycle

/-!
# NDV draggable panels: what an accepted resize does

`onResize` writes the width the handle reports, then asks `setPositions` for a
left edge: the pointer's when the left handle moves, the panel's own when the
right one does.  Outside the inputless type, and for a new width that fits
between the margins, `setPositions` is the clamp of `placeMainPanel_eq_clamp`,
so the write is exact: the requested edge stays unless the new width would
push the panel past the right margin, and then it is pulled back just far
enough.

`useThrottleFn` may deliver its trailing call with the report it has already
passed on.  The second delivery writes nothing new: the width is the one the
entry has, and the edge it asks for is where the first one put the panel.

**Results.**
* `step_resize_mainPanelDimensions`: the entry an accepted resize leaves.
* `resize_idempotent`: a resize report delivered twice acts once.
-/

namespace NdvLayout

open Panels

namespace Panels

variable (s : Panels) (m : ℕ)

/-- Writing the current entry's own width back changes nothing. -/
theorem setMainPanelWidth_self (h : s.mainPanelDimensions.relativeWidth ≠ 0) :
    s.setMainPanelWidth m (.num s.mainPanelDimensions.relativeWidth) = s := by
  have hw : (s.ndvStore s.currentNodePaneType).merge (.width s.mainPanelDimensions.relativeWidth) =
      s.ndvStore s.currentNodePaneType := by
    rw [merge_width]
    rfl
  rw [setMainPanelWidth_eq, JsNumber.orElse_num_of_ne h]
  simp only [setMainPanelDimensions, hw, Function.update_eq_self]

/-- Away from the `||` fallback, asking `setPositions` twice for the same edge
is asking once. -/
theorem setPositions_setPositions {x : ℚ} (hx : x ≠ 0) (y : JsNumber) :
    (s.setPositions y).setPositions (.num x) = s.setPositions (.num x) := by
  rw [setPositions_eq (s.setPositions y), placement_setPositions s hx, setPositions_currentNodePaneType,
    setPositions_eq s y, setMainPanelDimensions_position_position, setPositions_eq]

/-- Outside the inputless type, a panel that fits between the margins and is
asked for the left edge `setPositions` just gave it stays where it is. -/
theorem setPositions_at_own_left (ht : s.currentNodePaneType ≠ .inputless) (hc : 0 < s.containerWidth)
    (hfit : s.mainPanelDimensions.relativeWidth ≤ 1 - s.minimumLeftPosition - s.maximumRightPosition)
    (y : JsNumber) :
    (s.setPositions y).setPositions (.num (s.setPositions y).mainPanelDimensions.relativeLeft) = s.setPositions y := by
  have hl : s.minimumLeftPosition ≤ (placeMainPanel false s.minimumLeftPosition s.maximumRightPosition
      s.mainPanelDimensions.relativeWidth (s.targetLeft y)).1 := (placeMainPanel_within hfit).1
  have h0 : (s.setPositions y).mainPanelDimensions.relativeLeft ≠ 0 := by
    rw [setPositions_relativeLeft, placement, decide_eq_false ht]
    exact (lt_of_lt_of_le (s.minimumLeftPosition_pos hc) hl).ne'
  have hp : s.placement (.num (s.setPositions y).mainPanelDimensions.relativeLeft) = s.placement y := by
    rw [placement, targetLeft_num _ h0, setPositions_relativeLeft, placement, decide_eq_false ht,
      placeMainPanel_idem hfit]
  rw [setPositions_setPositions s h0, setPositions_eq s (.num _), hp, ← setPositions_eq]

/-- An accepted report reaches `onResize` once the panels are initialised. -/
theorem onResizeThrottle_of_initialized {data : ResizeData} (hi : s.initialized = true) :
    s.onResizeThrottle m data = s.onResize m data :=
  if_pos hi

/-- A report one of the early returns of `onResize` catches changes nothing. -/
theorem onResize_of_not_accepted {data : ResizeData} (h : ¬ s.ResizeAccepted data) : s.onResize m data = s := by
  simp only [onResize]
  by_cases h₁ : data.direction = "left" ∧ s.pxToRelativeWidth data.x ≤ s.minimumLeftPosition
  · rw [if_pos h₁]
  by_cases h₂ : data.direction = "right" ∧ 1 - s.pxToRelativeWidth data.x ≤ s.maximumRightPosition
  · rw [if_neg h₁, if_pos h₂]
  rw [if_neg h₁, if_neg h₂, if_pos (not_not.mp fun h₃ => h ⟨h₁, h₂, h₃⟩)]

/-- What an accepted resize writes, outside the inputless type and for a new
width that fits between the margins: the reported width, and the requested
left edge pulled back only as far as the right margin needs. -/
theorem onResize_mainPanelDimensions {data : ResizeData} {w L : ℚ} (hw : w = s.pxToRelativeWidth data.width)
    (hL : L = if data.direction = "left" then s.pxToRelativeWidth data.x else s.mainPanelDimensions.relativeLeft)
    (ha : s.ResizeAccepted data) (ht : s.currentNodePaneType ≠ .inputless) (hc : 0 < s.containerWidth)
    (hfit : w ≤ 1 - s.minimumLeftPosition - s.maximumRightPosition) (hl : s.minimumLeftPosition ≤ L) :
    (s.onResize m data).mainPanelDimensions =
      ⟨min L (1 - w - s.maximumRightPosition), 1 - w - min L (1 - w - s.maximumRightPosition), w⟩ := by
  have hw0 : w ≠ 0 := by
    rw [hw]
    exact (s.pxToRelativeWidth_pos (lt_trans (by norm_num) (not_le.mp ha.2.2)) hc).ne'
  have hL0 : L ≠ 0 := (lt_of_lt_of_le (s.minimumLeftPosition_pos hc) hl).ne'
  rw [onResize_of_resizeAccepted s m ha, ← hL, ← hw, mainPanelDimensions_setPositions]
  simp only [placement, targetLeft_num _ hL0, setMainPanelWidth_currentNodePaneType,
    setMainPanelWidth_minimumLeftPosition, setMainPanelWidth_maximumRightPosition,
    setMainPanelWidth_relativeWidth, JsNumber.orElse_num_of_ne hw0, decide_eq_false ht,
    placeMainPanel_eq_clamp hfit,
    max_eq_right (le_min hl (show s.minimumLeftPosition ≤ 1 - w - s.maximumRightPosition by linarith))]

/-- Replaying an accepted report: the width is already written, and the edge
asked for is the pointer's again or the one the first delivery left. -/
theorem onResize_onResize {data : ResizeData} (ha : s.ResizeAccepted data)
    (ht : s.currentNodePaneType ≠ .inputless) (hc : 0 < s.containerWidth)
    (hfit : s.pxToRelativeWidth data.width ≤ 1 - s.minimumLeftPosition - s.maximumRightPosition) :
    (s.onResize m data).onResize m data = s.onResize m data := by
  have hS := s.storeOnly_onResize m data
  have ha' : (s.onResize m data).ResizeAccepted data := by
    rw [ResizeAccepted, hS.pxToRelativeWidth, hS.minimumLeftPosition, hS.maximumRightPosition]
    exact ha
  set T := s.setMainPanelWidth m (.num (s.pxToRelativeWidth data.width)) with hT
  have hw0 : s.pxToRelativeWidth data.width ≠ 0 :=
    (s.pxToRelativeWidth_pos (lt_trans (by norm_num) (not_le.mp ha.2.2)) hc).ne'
  have hTw : T.mainPanelDimensions.relativeWidth = s.pxToRelativeWidth data.width := by
    rw [hT, setMainPanelWidth_relativeWidth, JsNumber.orElse_num_of_ne hw0]
  have htT : T.currentNodePaneType ≠ .inputless := by rwa [hT, setMainPanelWidth_currentNodePaneType]
  have hfitT : T.mainPanelDimensions.relativeWidth ≤ 1 - T.minimumLeftPosition - T.maximumRightPosition := by
    rwa [hTw, hT, setMainPanelWidth_minimumLeftPosition, setMainPanelWidth_maximumRightPosition]
  rw [onResize_of_resizeAccepted _ m ha', hS.pxToRelativeWidth, onResize_of_resizeAccepted s m ha, ← hT]
  rw [show (T.setPositions _).pxToRelativeWidth data.x = s.pxToRelativeWidth data.x by
      rw [setPositions_pxToRelativeWidth, hT, setMainPanelWidth_pxToRelativeWidth],
    ← hTw, ← setPositions_relativeWidth,
    setMainPanelWidth_self _ m (by rw [setPositions_relativeWidth, hTw]; exact hw0)]
  split_ifs with hleft
  · have hx : s.pxToRelativeWidth data.x ≠ 0 :=
      (lt_of_lt_of_le (s.minimumLeftPosition_pos hc) (not_le.mp fun h => ha.1 ⟨hleft, h⟩).le).ne'
    exact T.setPositions_setPositions hx _
  · exact T.setPositions_at_own_left htT (by rwa [hT, setMainPanelWidth_containerWidth]) hfitT _

end Panels

variable (m : ℕ) (s : Panels)

/-- A report `N8nResizeWrapper` sends while the handle is offered and the
panels are initialised goes to `onResize`. -/
theorem step_resize_of_initialized (data : ResizeData) (he : s.resizeEnabled data.direction)
    (hi : s.initialized = true) : step m s (.resize data) = s.onResize m data := by
  rw [show step m s (.resize data) = if s.resizeEnabled data.direction then s.onResizeThrottle m data else s
    from rfl, if_pos he, onResizeThrottle_of_initialized s m hi]

/-- The half-width panel once its init timeout has fired. -/
def halfReady : Panels := step 360 halfMount .initTimeout

theorem halfReady_fields :
    halfReady.initialized = true ∧ halfReady.currentNodePaneType ≠ .inputless ∧ halfReady.containerWidth = 1000 ∧
      halfReady.minimumLeftPosition = 31 / 250 ∧ halfReady.maximumRightPosition = 31 / 250 ∧
      halfReady.mainPanelDimensions = ⟨1 / 4, 1 / 4, 1 / 2⟩ := by
  obtain ⟨hp, hm, hc, -, hd⟩ := halfMount_fields
  have h : halfReady = { halfMount with initialized := true } := if_pos hm
  have hc' : halfReady.containerWidth = 1000 := by rw [h, ← hc]
  have hw : ¬ halfReady.containerWidth < minWindowWidth := by
    rw [hc']
    norm_num
  have hslot : halfReady.props.hasInputSlot = true := by
    rw [h, show ({ halfMount with initialized := true } : Panels).props = halfMount.props from rfl, hp]
    rfl
  refine ⟨by rw [h], by rw [h]; exact halfMount_ne_inputless, hc', ?_, ?_, by rw [h, ← hd]; rfl⟩
  · rw [minimumLeftPosition_eq_of_hasInputSlot _ hw hslot, hc']
    norm_num
  · rw [maximumRightPosition_eq _ hw, hc']
    norm_num

theorem halfReady_resizeEnabled (direction : String) (h : direction = "right" ∨ direction = "left") :
    halfReady.resizeEnabled direction := by
  have hs : halfReady = { halfMount with initialized := true } := if_pos halfMount_fields.2.1
  refine ⟨by rw [hs]; exact halfMount_fields.2.1, ?_, ?_⟩
  · rw [hs]
    simp only [currentNodePaneType, halfMount_fields.1]
    decide
  · rw [hs, supportedResizeDirections, show ({ halfMount with initialized := true } : Panels).props = halfMount.props
      from rfl, halfMount_fields.1]
    rcases h with rfl | rfl <;> decide

/-- The entry an accepted resize leaves, outside the inputless type and for a
new width `w` that fits between the margins: a right-handle resize keeps the
left edge `L`, a left-handle resize puts it at the pointer, unless the new
width would cross the right margin; then the panel is pulled back against it. -/
theorem step_resize_mainPanelDimensions (data : ResizeData) {w L : ℚ} (hw : w = s.pxToRelativeWidth data.width)
    (hL : L = if data.direction = "left" then s.pxToRelativeWidth data.x else s.mainPanelDimensions.relativeLeft)
    (he : s.resizeEnabled data.direction) (hi : s.initialized = true) (ha : s.ResizeAccepted data)
    (ht : s.currentNodePaneType ≠ .inputless) (hc : 0 < s.containerWidth)
    (hfit : w ≤ 1 - s.minimumLeftPosition - s.maximumRightPosition) (hl : s.minimumLeftPosition ≤ L) :
    (step m s (.resize data)).mainPanelDimensions =
      ⟨min L (1 - w - s.maximumRightPosition), 1 - w - min L (1 - w - s.maximumRightPosition), w⟩ := by
  rw [step_resize_of_initialized m s data he hi]
  exact s.onResize_mainPanelDimensions m hw hL ha ht hc hfit hl

/-- Widening the ready half-width panel to 400 px from its right handle keeps
its left edge. -/
theorem step_resize_mainPanelDimensions_right_handle :
    halfReady.resizeEnabled "right" ∧ halfReady.initialized = true ∧
      halfReady.ResizeAccepted ⟨"right", 650, 400⟩ ∧ halfReady.currentNodePaneType ≠ .inputless ∧
      0 < halfReady.containerWidth ∧
      (step 360 halfReady (.resize ⟨"right", 650, 400⟩)).mainPanelDimensions = ⟨1 / 4, 7 / 20, 2 / 5⟩ := by
  obtain ⟨hi, ht, hc, hmin, hmax, hd⟩ := halfReady_fields
  have he := halfReady_resizeEnabled "right" (.inl rfl)
  have hc' : 0 < halfReady.containerWidth := by
    rw [hc]
    norm_num
  have hw : (2 / 5 : ℚ) = halfReady.pxToRelativeWidth (⟨"right", 650, 400⟩ : ResizeData).width := by
    rw [pxToRelativeWidth, hc]
    norm_num
  have hL : (1 / 4 : ℚ) = if (⟨"right", 650, 400⟩ : ResizeData).direction = "left" then
      halfReady.pxToRelativeWidth (⟨"right", 650, 400⟩ : ResizeData).x
      else halfReady.mainPanelDimensions.relativeLeft := by
    rw [if_neg (by decide), hd]
  have ha : halfReady.ResizeAccepted ⟨"right", 650, 400⟩ := by
    refine ⟨fun h => absurd h.1 (by decide), fun h => ?_, by norm_num⟩
    rw [pxToRelativeWidth, hc, hmax] at h
    norm_num at h
  refine ⟨he, hi, ha, ht, hc', ?_⟩
  rw [step_resize_mainPanelDimensions 360 halfReady _ hw hL he hi ha ht hc' (by rw [hmin, hmax]; norm_num)
    (by rw [hmin]; norm_num), hmax]
  norm_num

/-- A resize report delivered twice acts once, whether or not the gates let it
through: outside the inputless type, for a new width that fits between the
margins. -/
theorem resize_idempotent (data : ResizeData) (ht : s.currentNodePaneType ≠ .inputless)
    (hc : 0 < s.containerWidth)
    (hfit : s.pxToRelativeWidth data.width ≤ 1 - s.minimumLeftPosition - s.maximumRightPosition) :
    step m (step m s (.resize data)) (.resize data) = step m s (.resize data) := by
  by_cases hg : s.resizeEnabled data.direction ∧ s.initialized = true ∧ s.ResizeAccepted data
  · obtain ⟨he, hi, ha⟩ := hg
    have hS := s.storeOnly_onResize m data
    have he' : (s.onResize m data).resizeEnabled data.direction := by
      rw [resizeEnabled, supportedResizeDirections, hS.mounted, hS.currentNodePaneType, hS.props]
      exact he
    rw [step_resize_of_initialized m s data he hi,
      step_resize_of_initialized m _ data he' (hS.initialized.trans hi), s.onResize_onResize m ha ht hc hfit]
  · have h0 : step m s (.resize data) = s := by
      rw [show step m s (.resize data) = if s.resizeEnabled data.direction then s.onResizeThrottle m data else s
        from rfl]
      split_ifs with he
      · unfold onResizeThrottle
        split_ifs with hi
        · exact s.onResize_of_not_accepted m fun ha => hg ⟨he, hi, ha⟩
        · rfl
      · rfl
    rw [h0]
    exact h0

/-- A left-handle report that widens the ready half-width panel to 500 px,
delivered twice. -/
theorem resize_idempotent_left_handle :
    halfReady.currentNodePaneType ≠ .inputless ∧ 0 < halfReady.containerWidth ∧
      halfReady.pxToRelativeWidth (⟨"left", 200, 500⟩ : ResizeData).width ≤
        1 - halfReady.minimumLeftPosition - halfReady.maximumRightPosition ∧
      step 360 (step 360 halfReady (.resize ⟨"left", 200, 500⟩)) (.resize ⟨"left", 200, 500⟩) =
        step 360 halfReady (.resize ⟨"left", 200, 500⟩) := by
  obtain ⟨-, ht, hc, hmin, hmax, -⟩ := halfReady_fields
  have hc' : 0 < halfReady.containerWidth := by
    rw [hc]
    norm_num
  have hfit : halfReady.pxToRelativeWidth (⟨"left", 200, 500⟩ : ResizeData).width ≤
      1 - halfReady.minimumLeftPosition - halfReady.maximumRightPosition := by
    rw [pxToRelativeWidth, hc, hmin, hmax]
    norm_num
  exact ⟨ht, hc', hfit, resize_idempotent 360 halfReady _ ht hc' hfit⟩

end NdvLayout
