import NdvLayout.Geometry

/-!
# NDV draggable panels: the layout writes

The four functions of the component that change the layout:
`setMainPanelWidth` (width only), `setPositions` (left and right edges,
clamped to the margins), `setVerticalPositions` (the vertical top, clamped)
and `setPositionByName` (a named target for `setPositions`).

`setPositions` is written as the source has it, with its `||` fallback and its
three early-return branches.  `setPositions_eq` cuts it into the target
(`targetLeft`) and a pure function of four numbers (`placeMainPanel`); every
later fact about the horizontal edges is a fact about `placeMainPanel`.

**Results.**
* `placeMainPanel_fills`: outside the inputless type the edges and the width
  sum to one.
* `placeMainPanel_within`: when the panel fits between the margins, both edges
  respect them, for every type.
* `placeMainPanel_eq_clamp`: for a fitting panel of a type other than
  inputless, the left edge is the target clamped to the margin interval.
-/

namespace NdvLayout

/-- The left and right edges that the three branches of `setPositions` write,
for margins `minLeft`, `maxRight`, width `width` and requested left edge `left`. -/
def placeMainPanel (isInputless : Bool) (minLeft maxRight width left : ℚ) : ℚ × ℚ :=
  if minLeft > left then (minLeft, 1 - width - minLeft)
  else if maxRight > 1 - left - width then (1 - width - maxRight, maxRight)
  else (if isInputless then minLeft else left, 1 - left - width)

/-- The named targets of `setPositionByName`. -/
inductive PositionName
  | minLeft
  | maxRight
  | initial
deriving DecidableEq, Repr

section Place

variable {isInputless : Bool} {minLeft maxRight width left : ℚ}

/-- Outside the inputless branch the two edges and the width fill the container. -/
theorem placeMainPanel_fills (h : isInputless = false) :
    (placeMainPanel isInputless minLeft maxRight width left).1 + width +
      (placeMainPanel isInputless minLeft maxRight width left).2 = 1 := by
  subst h
  simp only [placeMainPanel, Bool.false_eq_true, if_false]
  split_ifs <;> ring

/-- The last branch for the inputless type pins the left edge to the margin but
keeps the right edge of the requested position. -/
theorem placeMainPanel_inputless (hl : minLeft ≤ left) (hr : maxRight ≤ 1 - left - width) :
    placeMainPanel true minLeft maxRight width left = (minLeft, 1 - left - width) := by
  simp [placeMainPanel, not_lt.mpr hl, not_lt.mpr hr]

/-- A panel that fits between the margins ends up between them. -/
theorem placeMainPanel_within (hfit : width ≤ 1 - minLeft - maxRight) :
    minLeft ≤ (placeMainPanel isInputless minLeft maxRight width left).1 ∧
      maxRight ≤ (placeMainPanel isInputless minLeft maxRight width left).2 := by
  unfold placeMainPanel
  split_ifs with h₁ h₂
  · exact ⟨le_rfl, show maxRight ≤ 1 - width - minLeft by linarith⟩
  · exact ⟨show minLeft ≤ 1 - width - maxRight by linarith, le_rfl⟩
  · exact ⟨le_rfl, not_lt.mp h₂⟩
  · exact ⟨not_lt.mp h₁, not_lt.mp h₂⟩

/-- For a fitting panel outside the inputless type, `setPositions` clamps the
requested left edge to `[minLeft, 1 - width - maxRight]`. -/
theorem placeMainPanel_eq_clamp (hfit : width ≤ 1 - minLeft - maxRight) :
    placeMainPanel false minLeft maxRight width left =
      (max minLeft (min left (1 - width - maxRight)),
        1 - width - max minLeft (min left (1 - width - maxRight))) := by
  simp only [placeMainPanel, Bool.false_eq_true, if_false]
  split_ifs with h₁ h₂
  · rw [min_eq_left (by linarith), max_eq_left h₁.le]
  · rw [min_eq_right (by linarith), max_eq_right (by linarith)]
    congr 1
    ring
  · rw [min_eq_left (by linarith), max_eq_right (not_lt.mp h₁)]
    congr 1
    ring

/-- For a fitting panel outside the inputless type, placing it again where it
landed changes nothing. -/
theorem placeMainPanel_idem (hfit : width ≤ 1 - minLeft - maxRight) :
    placeMainPanel false minLeft maxRight width (placeMainPanel false minLeft maxRight width left).1 =
      placeMainPanel false minLeft maxRight width left := by
  have hu : max minLeft (min left (1 - width - maxRight)) ≤ 1 - width - maxRight :=
    max_le (by linarith) (min_le_right _ _)
  rw [placeMainPanel_eq_clamp hfit, placeMainPanel_eq_clamp hfit, min_eq_left hu,
    max_eq_right (le_max_left _ _)]

/-- A fitting panel sent to the left margin stays there. -/
theorem placeMainPanel_at_minLeft (hfit : width ≤ 1 - minLeft - maxRight) :
    (placeMainPanel isInputless minLeft maxRight width minLeft).1 = minLeft := by
  have hr : ¬ maxRight > 1 - minLeft - width := by linarith
  simp only [placeMainPanel, lt_irrefl, if_false, hr]
  split_ifs <;> rfl

end Place

namespace Panels

variable (s : Panels)

/-- Write the current type's width, `setMainPanelWidth`; a falsy argument gives
the type's default width. -/
def setMainPanelWidth (mainNodePanelWidth : ℕ) (relativeWidth : JsNumber) : Panels :=
  let mainPanelRelativeWidth := relativeWidth.orElse
    (s.pxToRelativeWidth (initialMainPanelWidth mainNodePanelWidth s.currentNodePaneType))
  s.setMainPanelDimensions s.currentNodePaneType (.width mainPanelRelativeWidth)

/-- Move the main panel to the requested left edge, clamped to the margins,
`setPositions`. -/
def setPositions (relativeLeft : JsNumber) : Panels :=
  let mainPanelRelativeLeft := relativeLeft.orElse (1 - s.calculatedPositions.inputPanelRelativeRight)
  let mainPanelRelativeRight := 1 - mainPanelRelativeLeft - s.mainPanelDimensions.relativeWidth
  let isMaxRight := s.maximumRightPosition > mainPanelRelativeRight
  let isMinLeft := s.minimumLeftPosition > mainPanelRelativeLeft
  let isInputless := s.currentNodePaneType = .inputless
  if isMinLeft then
    s.setMainPanelDimensions s.currentNodePaneType
      (.position s.minimumLeftPosition (1 - s.mainPanelDimensions.relativeWidth - s.minimumLeftPosition))
  else if isMaxRight then
    s.setMainPanelDimensions s.currentNodePaneType
      (.position (1 - s.mainPanelDimensions.relativeWidth - s.maximumRightPosition)
        s.maximumRightPosition)
  else
    s.setMainPanelDimensions s.currentNodePaneType
      (.position (if isInputless then s.minimumLeftPosition else mainPanelRelativeLeft)
        mainPanelRelativeRight)

/-- Move the main panel's top in the vertical layout, clamped,
`setVerticalPositions`. -/
def setVerticalPositions (relativeTop : ℚ) : Panels :=
  let containerHeight := s.appGridDimensions.height
  let mainPanelHeight := initialMainPanelHeight s.currentNodePaneType
  let minTop := s.pxToRelativeHeight (topBottomMargin + panelHeight + verticalPanelsMargin)
  let maxTop := 1 - s.pxToRelativeHeight (topBottomMargin + panelHeight + verticalPanelsMargin) -
    mainPanelHeight / containerHeight
  let constrainedTop := max minTop (min maxTop relativeTop)
  { s with mainPanelVerticalPosition := constrainedTop }

/-- The `minTop` of `setVerticalPositions`: the input band and its margins. -/
def minTop : ℚ := s.pxToRelativeHeight (topBottomMargin + panelHeight + verticalPanelsMargin)

/-- The `maxTop` of `setVerticalPositions`: the same band below the main panel. -/
def maxTop : ℚ :=
  1 - s.minTop - initialMainPanelHeight s.currentNodePaneType / s.appGridDimensions.height

theorem setVerticalPositions_mainPanelVerticalPosition (relativeTop : ℚ) :
    (s.setVerticalPositions relativeTop).mainPanelVerticalPosition =
      max s.minTop (min s.maxTop relativeTop) := rfl

/-- The vertical write keeps the main panel below the input band. -/
theorem setVerticalPositions_ge (relativeTop : ℚ) :
    s.pxToRelativeHeight (topBottomMargin + panelHeight + verticalPanelsMargin) ≤
      (s.setVerticalPositions relativeTop).mainPanelVerticalPosition :=
  le_max_left _ _

/-- Snap the main panel to a named target, `setPositionByName`. -/
def setPositionByName (position : PositionName) : Panels :=
  let positionByName : PositionName → JsNumber
    | .minLeft => .num s.minimumLeftPosition
    | .maxRight => .num s.maximumRightPosition
    | .initial => s.getInitialLeftPosition (.num s.mainPanelDimensions.relativeWidth)
  s.setPositions (positionByName position)

theorem setPositionByName_minLeft :
    s.setPositionByName .minLeft = s.setPositions (.num s.minimumLeftPosition) := rfl

theorem setPositionByName_maxRight :
    s.setPositionByName .maxRight = s.setPositions (.num s.maximumRightPosition) := rfl

theorem setPositionByName_initial :
    s.setPositionByName .initial =
      s.setPositions (s.getInitialLeftPosition (.num s.mainPanelDimensions.relativeWidth)) := rfl

/-! ## `setPositions` as target plus placement -/

/-- The left edge `setPositions` works with: the argument, or the `||` fallback. -/
def targetLeft (relativeLeft : JsNumber) : ℚ :=
  relativeLeft.orElse (1 - s.calculatedPositions.inputPanelRelativeRight)

/-- The edges `setPositions` writes. -/
def placement (relativeLeft : JsNumber) : ℚ × ℚ :=
  placeMainPanel (decide (s.currentNodePaneType = .inputless)) s.minimumLeftPosition
    s.maximumRightPosition s.mainPanelDimensions.relativeWidth (s.targetLeft relativeLeft)

theorem setPositions_eq (x : JsNumber) :
    s.setPositions x = s.setMainPanelDimensions s.currentNodePaneType
      (.position (s.placement x).1 (s.placement x).2) := by
  simp only [setPositions, placement, placeMainPanel, targetLeft, decide_eq_true_eq]
  split_ifs <;> rfl

theorem setMainPanelWidth_eq (m : ℕ) (x : JsNumber) :
    s.setMainPanelWidth m x = s.setMainPanelDimensions s.currentNodePaneType
      (.width (x.orElse (s.pxToRelativeWidth (initialMainPanelWidth m s.currentNodePaneType)))) :=
  rfl

/-- A nonzero target is taken as it is; only `0` (or `NaN`) falls back. -/
@[simp] theorem targetLeft_num {x : ℚ} (hx : x ≠ 0) : s.targetLeft (.num x) = x := by
  simp [targetLeft, hx]

theorem mainPanelDimensions_setPositions (x : JsNumber) :
    (s.setPositions x).mainPanelDimensions =
      ⟨(s.placement x).1, (s.placement x).2, s.mainPanelDimensions.relativeWidth⟩ := by
  rw [setPositions_eq, mainPanelDimensions_setMainPanelDimensions, if_pos rfl]
  rfl

theorem mainPanelDimensions_setMainPanelWidth (m : ℕ) (x : JsNumber) :
    (s.setMainPanelWidth m x).mainPanelDimensions =
      { s.mainPanelDimensions with
        relativeWidth := x.orElse (s.pxToRelativeWidth (initialMainPanelWidth m s.currentNodePaneType)) } := by
  rw [setMainPanelWidth_eq, mainPanelDimensions_setMainPanelDimensions, if_pos rfl]
  rfl

/-! ## What the writes leave alone

`setPositions` and `setMainPanelWidth` write one store entry; every other field,
and every computed value that does not read the store, is unchanged.  The
lemmas are stated once here so that handlers are evaluated through them, never
by unfolding the state. -/

section Frame

variable (x : JsNumber)

@[simp] theorem setPositions_props : (s.setPositions x).props = s.props := by
  rw [setPositions_eq, setMainPanelDimensions_props]

@[simp] theorem setPositions_containerWidth : (s.setPositions x).containerWidth = s.containerWidth := by
  rw [setPositions_eq, setMainPanelDimensions_containerWidth]

@[simp] theorem setPositions_appGridDimensions :
    (s.setPositions x).appGridDimensions = s.appGridDimensions := by
  rw [setPositions_eq, setMainPanelDimensions_appGridDimensions]

@[simp] theorem setPositions_storage : (s.setPositions x).storage = s.storage := by
  rw [setPositions_eq, setMainPanelDimensions_storage]

@[simp] theorem setPositions_mounted : (s.setPositions x).mounted = s.mounted := by
  rw [setPositions_eq, setMainPanelDimensions_mounted]

@[simp] theorem setPositions_initialized : (s.setPositions x).initialized = s.initialized := by
  rw [setPositions_eq, setMainPanelDimensions_initialized]

@[simp] theorem setPositions_isDragging : (s.setPositions x).isDragging = s.isDragging := by
  rw [setPositions_eq, setMainPanelDimensions_isDragging]

@[simp] theorem setPositions_isTouchDevice : (s.setPositions x).isTouchDevice = s.isTouchDevice := by
  rw [setPositions_eq, setMainPanelDimensions_isTouchDevice]

@[simp] theorem setPositions_mainPanelVerticalPosition :
    (s.setPositions x).mainPanelVerticalPosition = s.mainPanelVerticalPosition := by
  rw [setPositions_eq, setMainPanelDimensions_mainPanelVerticalPosition]

@[simp] theorem setPositions_currentNodePaneType :
    (s.setPositions x).currentNodePaneType = s.currentNodePaneType := by
  rw [setPositions_eq, currentNodePaneType_setMainPanelDimensions]

@[simp] theorem setPositions_pxToRelativeWidth (px : ℚ) :
    (s.setPositions x).pxToRelativeWidth px = s.pxToRelativeWidth px := by
  rw [setPositions_eq, pxToRelativeWidth_setMainPanelDimensions]

@[simp] theorem setPositions_minimumLeftPosition :
    (s.setPositions x).minimumLeftPosition = s.minimumLeftPosition := by
  rw [setPositions_eq, minimumLeftPosition_setMainPanelDimensions]

@[simp] theorem setPositions_maximumRightPosition :
    (s.setPositions x).maximumRightPosition = s.maximumRightPosition := by
  rw [setPositions_eq, maximumRightPosition_setMainPanelDimensions]

@[simp] theorem setPositions_getInitialLeftPosition (w : JsNumber) :
    (s.setPositions x).getInitialLeftPosition w = s.getInitialLeftPosition w := by
  rw [setPositions_eq, getInitialLeftPosition_setMainPanelDimensions]

@[simp] theorem setPositions_useVerticalLayout :
    (s.setPositions x).useVerticalLayout = s.useVerticalLayout := by
  rw [setPositions_eq, useVerticalLayout_setMainPanelDimensions]

@[simp] theorem setPositions_relativeWidth :
    (s.setPositions x).mainPanelDimensions.relativeWidth = s.mainPanelDimensions.relativeWidth := by
  rw [mainPanelDimensions_setPositions]

@[simp] theorem setPositions_relativeLeft :
    (s.setPositions x).mainPanelDimensions.relativeLeft = (s.placement x).1 := by
  rw [mainPanelDimensions_setPositions]

@[simp] theorem setPositions_relativeRight :
    (s.setPositions x).mainPanelDimensions.relativeRight = (s.placement x).2 := by
  rw [mainPanelDimensions_setPositions]

end Frame

section FrameWidth

variable (m : ℕ) (x : JsNumber)

@[simp] theorem setMainPanelWidth_props :
    (s.setMainPanelWidth m x).props = s.props := by
  rw [setMainPanelWidth_eq, setMainPanelDimensions_props]

@[simp] theorem setMainPanelWidth_containerWidth :
    (s.setMainPanelWidth m x).containerWidth = s.containerWidth := by
  rw [setMainPanelWidth_eq, setMainPanelDimensions_containerWidth]

@[simp] theorem setMainPanelWidth_appGridDimensions :
    (s.setMainPanelWidth m x).appGridDimensions = s.appGridDimensions := by
  rw [setMainPanelWidth_eq, setMainPanelDimensions_appGridDimensions]

@[simp] theorem setMainPanelWidth_storage :
    (s.setMainPanelWidth m x).storage = s.storage := by
  rw [setMainPanelWidth_eq, setMainPanelDimensions_storage]

@[simp] theorem setMainPanelWidth_mounted :
    (s.setMainPanelWidth m x).mounted = s.mounted := by
  rw [setMainPanelWidth_eq, setMainPanelDimensions_mounted]

@[simp] theorem setMainPanelWidth_initialized :
    (s.setMainPanelWidth m x).initialized = s.initialized := by
  rw [setMainPanelWidth_eq, setMainPanelDimensions_initialized]

@[simp] theorem setMainPanelWidth_isDragging :
    (s.setMainPanelWidth m x).isDragging = s.isDragging := by
  rw [setMainPanelWidth_eq, setMainPanelDimensions_isDragging]

@[simp] theorem setMainPanelWidth_isTouchDevice :
    (s.setMainPanelWidth m x).isTouchDevice = s.isTouchDevice := by
  rw [setMainPanelWidth_eq, setMainPanelDimensions_isTouchDevice]

@[simp] theorem setMainPanelWidth_mainPanelVerticalPosition :
    (s.setMainPanelWidth m x).mainPanelVerticalPosition = s.mainPanelVerticalPosition := by
  rw [setMainPanelWidth_eq, setMainPanelDimensions_mainPanelVerticalPosition]

@[simp] theorem setMainPanelWidth_currentNodePaneType :
    (s.setMainPanelWidth m x).currentNodePaneType = s.currentNodePaneType := by
  rw [setMainPanelWidth_eq, currentNodePaneType_setMainPanelDimensions]

@[simp] theorem setMainPanelWidth_pxToRelativeWidth (px : ℚ) :
    (s.setMainPanelWidth m x).pxToRelativeWidth px = s.pxToRelativeWidth px := by
  rw [setMainPanelWidth_eq, pxToRelativeWidth_setMainPanelDimensions]

@[simp] theorem setMainPanelWidth_minimumLeftPosition :
    (s.setMainPanelWidth m x).minimumLeftPosition = s.minimumLeftPosition := by
  rw [setMainPanelWidth_eq, minimumLeftPosition_setMainPanelDimensions]

@[simp] theorem setMainPanelWidth_maximumRightPosition :
    (s.setMainPanelWidth m x).maximumRightPosition = s.maximumRightPosition := by
  rw [setMainPanelWidth_eq, maximumRightPosition_setMainPanelDimensions]

@[simp] theorem setMainPanelWidth_getInitialLeftPosition (w : JsNumber) :
    (s.setMainPanelWidth m x).getInitialLeftPosition w = s.getInitialLeftPosition w := by
  rw [setMainPanelWidth_eq, getInitialLeftPosition_setMainPanelDimensions]

@[simp] theorem setMainPanelWidth_useVerticalLayout :
    (s.setMainPanelWidth m x).useVerticalLayout = s.useVerticalLayout := by
  rw [setMainPanelWidth_eq, useVerticalLayout_setMainPanelDimensions]

@[simp] theorem setMainPanelWidth_relativeWidth :
    (s.setMainPanelWidth m x).mainPanelDimensions.relativeWidth =
      x.orElse (s.pxToRelativeWidth (initialMainPanelWidth m s.currentNodePaneType)) := by
  rw [mainPanelDimensions_setMainPanelWidth]

@[simp] theorem setMainPanelWidth_relativeLeft :
    (s.setMainPanelWidth m x).mainPanelDimensions.relativeLeft = s.mainPanelDimensions.relativeLeft := by
  rw [mainPanelDimensions_setMainPanelWidth]

@[simp] theorem setMainPanelWidth_relativeRight :
    (s.setMainPanelWidth m x).mainPanelDimensions.relativeRight = s.mainPanelDimensions.relativeRight := by
  rw [mainPanelDimensions_setMainPanelWidth]

end FrameWidth

/-- For a width that fits between the margins, `setPositions` leaves the main
panel between them, whatever the target. -/
theorem setPositions_within_margins (x : JsNumber)
    (hfit : s.mainPanelDimensions.relativeWidth ≤ 1 - s.minimumLeftPosition - s.maximumRightPosition) :
    s.minimumLeftPosition ≤ (s.setPositions x).mainPanelDimensions.relativeLeft ∧
      s.maximumRightPosition ≤ (s.setPositions x).mainPanelDimensions.relativeRight := by
  rw [mainPanelDimensions_setPositions]
  exact placeMainPanel_within hfit

end Panels

end NdvLayout
