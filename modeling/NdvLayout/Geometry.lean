import NdvLayout.Basic

/-!
# NDV draggable panels: computed geometry

The `computed` values of `NDVDraggablePanels.vue`, each a function of the
current `Panels` record: the panel type, the pixel/relative conversions, the
margins `minimumLeftPosition` and `maximumRightPosition`, the initial left
position, the orientation switch `useVerticalLayout`, and the pixel boxes the
template binds as styles (lengths in pixels, without the `px` suffix).

None of them reads the NDV store except through `mainPanelDimensions`, so a
store write leaves all the others unchanged; the `*_setMainPanelDimensions`
lemmas at the end say so once, and the operations' proofs never unfold them.
-/

namespace NdvLayout

/-- The return value of `calculatedPositions`. -/
structure CalculatedPositions where
  inputPanelRelativeRight : ℚ
  outputPanelRelativeLeft : ℚ

/-- The return value of `calculatedVerticalPositions`. -/
structure CalculatedVerticalPositions where
  inputPanelRelativeBottom : ℚ
  outputPanelRelativeTop : ℚ
  mainPanelRelativeTop : ℚ
  mainPanelRelativeBottom : ℚ

/-- A horizontal style `{left, right}` in pixels. -/
structure HorizontalStyles where
  left : ℚ
  right : ℚ

/-- A vertical style `{top, bottom, left, right}` in pixels. -/
structure VerticalStyles where
  top : ℚ
  bottom : ℚ
  left : ℚ
  right : ℚ

namespace Panels

variable (s : Panels)

/-- The panel type, `currentNodePaneType`. -/
def currentNodePaneType : MainPanelType :=
  if !s.props.hasInputSlot then .inputless
  else if !s.props.isDraggable then .dragless
  else match s.props.nodeType with
    | none => .unknown
    | some nodeType => nodeType.parameterPane.getD .regular

/-- The current type's store entry, `mainPanelDimensions`. -/
def mainPanelDimensions : MainPanelDimensions := s.ndvStore s.currentNodePaneType

/-- Pixels to a fraction of the container width, `pxToRelativeWidth`. -/
def pxToRelativeWidth (px : ℚ) : ℚ := px / s.containerWidth

/-- A fraction of the container width to pixels, `relativeWidthToPx`. -/
def relativeWidthToPx (relativeWidth : ℚ) : ℚ := relativeWidth * s.containerWidth

/-- Pixels to a fraction of the app-grid height, `pxToRelativeHeight`. -/
def pxToRelativeHeight (px : ℚ) : ℚ := px / s.appGridDimensions.height

/-- A fraction of the app-grid height to pixels, `relativeHeightToPx`. -/
def relativeHeightToPx (relativeHeight : ℚ) : ℚ := relativeHeight * s.appGridDimensions.height

/-- The horizontal edges of the input and output panels, `calculatedPositions`. -/
def calculatedPositions : CalculatedPositions :=
  let outputPanelRelativeLeft :=
    s.mainPanelDimensions.relativeLeft + s.mainPanelDimensions.relativeWidth
  { inputPanelRelativeRight :=
      if s.props.hasInputSlot then 1 - outputPanelRelativeLeft + s.mainPanelDimensions.relativeWidth
      else 1 - s.pxToRelativeWidth sideMargin
    outputPanelRelativeLeft }

/-- The default stacked layout, `calculatedVerticalPositions`. -/
def calculatedVerticalPositions : CalculatedVerticalPositions :=
  let containerHeight := s.appGridDimensions.height
  let inputPanelHeight : ℚ := if s.props.hasInputSlot then panelHeight else 0
  let mainPanelHeight := initialMainPanelHeight s.currentNodePaneType
  let inputPanelRelativeHeight := inputPanelHeight / containerHeight
  let mainPanelRelativeHeight := mainPanelHeight / containerHeight
  let inputPanelRelativeTop := s.pxToRelativeHeight topBottomMargin
  let mainPanelRelativeTop :=
    inputPanelRelativeTop + inputPanelRelativeHeight + s.pxToRelativeHeight verticalPanelsMargin
  { inputPanelRelativeBottom := 1 - inputPanelRelativeTop - inputPanelRelativeHeight
    outputPanelRelativeTop :=
      mainPanelRelativeTop + mainPanelRelativeHeight + s.pxToRelativeHeight verticalPanelsMargin
    mainPanelRelativeTop
    mainPanelRelativeBottom := 1 - mainPanelRelativeTop - mainPanelRelativeHeight }

/-- Resize handles offered to `N8nResizeWrapper`, `supportedResizeDirections`. -/
def supportedResizeDirections : List String :=
  if s.props.isDraggable then ["right", "left"] else ["right"]

/-- The margin kept for the input panel, `inputPanelMargin`. -/
def inputPanelMargin : ℚ := s.pxToRelativeWidth sidePanelsMargin

/-- The smallest left edge of the main panel, `minimumLeftPosition`. -/
def minimumLeftPosition : ℚ :=
  if s.containerWidth < minWindowWidth then s.pxToRelativeWidth 1
  else if !s.props.hasInputSlot then s.pxToRelativeWidth sideMargin
  else s.pxToRelativeWidth (sideMargin + 20) + s.inputPanelMargin

/-- The smallest right edge of the main panel, `maximumRightPosition`. -/
def maximumRightPosition : ℚ :=
  if s.containerWidth < minWindowWidth then s.pxToRelativeWidth 1
  else s.pxToRelativeWidth (sideMargin + 20) + s.inputPanelMargin

/-- Whether the left arrow is shown, `canMoveLeft`. -/
def canMoveLeft : Bool := decide (s.mainPanelDimensions.relativeLeft > s.minimumLeftPosition)

/-- Whether the right arrow is shown, `canMoveRight`. -/
def canMoveRight : Bool := decide (s.mainPanelDimensions.relativeRight > s.maximumRightPosition)

/-- Pixel style of the main panel, `mainPanelStyles`. -/
def mainPanelStyles : HorizontalStyles where
  left := s.relativeWidthToPx s.mainPanelDimensions.relativeLeft
  right := s.relativeWidthToPx s.mainPanelDimensions.relativeRight

/-- The relative top of the main panel that the three vertical styles share:
`mainPanelVerticalPosition || calculatedVerticalPositions.mainPanelRelativeTop`. -/
def mainPanelTop : ℚ :=
  (JsNumber.num s.mainPanelVerticalPosition).orElse
    s.calculatedVerticalPositions.mainPanelRelativeTop

/-- Pixel box of the input panel in the vertical layout, `verticalInputPanelStyles`. -/
def verticalInputPanelStyles : VerticalStyles :=
  let inputBottom := 1 - s.mainPanelTop + s.pxToRelativeHeight verticalPanelsMargin
  { top := topBottomMargin
    bottom := s.relativeHeightToPx inputBottom
    left := sideMargin
    right := sideMargin }

/-- Pixel box of the main panel in the vertical layout, `verticalMainPanelStyles`. -/
def verticalMainPanelStyles : VerticalStyles :=
  let mainPanelHeight := initialMainPanelHeight s.currentNodePaneType
  let bottomPosition := 1 - s.mainPanelTop - mainPanelHeight / s.appGridDimensions.height
  { top := s.relativeHeightToPx s.mainPanelTop
    bottom := s.relativeHeightToPx bottomPosition
    left := sideMargin
    right := sideMargin }

/-- Pixel box of the output panel in the vertical layout, `verticalOutputPanelStyles`. -/
def verticalOutputPanelStyles : VerticalStyles :=
  let mainPanelHeight := initialMainPanelHeight s.currentNodePaneType
  let outputTop := s.mainPanelTop + mainPanelHeight / s.appGridDimensions.height +
    s.pxToRelativeHeight verticalPanelsMargin
  { top := s.relativeHeightToPx outputTop
    bottom := topBottomMargin
    left := sideMargin
    right := sideMargin }

/-- Whether the node type asks for a double-width panel, `hasDoubleWidth`. -/
def hasDoubleWidth : Bool :=
  match s.props.nodeType with
  | some nodeType => decide (nodeType.parameterPane = some .wide)
  | none => false

/-- The width reserved for a fixed side panel, `fixedPanelWidth`. -/
def fixedPanelWidth : ℚ :=
  let multiplier : ℚ := if s.hasDoubleWidth then 2 else 1
  if s.containerWidth > 1700 then panelWidthLarge * multiplier else panelWidth * multiplier

theorem fixedPanelWidth_pos : 0 < s.fixedPanelWidth := by
  unfold fixedPanelWidth
  split_ifs <;> norm_num

/-- The left edge a freshly placed main panel of the given width gets,
`getInitialLeftPosition`. -/
def getInitialLeftPosition (width : JsNumber) : JsNumber :=
  if s.currentNodePaneType = .dragless then
    .num (s.pxToRelativeWidth (sideMargin + 1 + s.fixedPanelWidth))
  else if s.props.hasInputSlot then width.map (fun w => 0.5 - w / 2)
  else .num s.minimumLeftPosition

/-- The orientation switch, `useVerticalLayout`. -/
def useVerticalLayout : Bool :=
  let width := s.appGridDimensions.width
  let height := s.appGridDimensions.height
  let isMobile := decide (width < 768)
  let isPortrait := decide (height > width)
  isPortrait && s.isTouchDevice || isMobile

/-! ## Small facts -/

/-- The `||` fallback of `setPositions` reads back the current left edge when an
input slot is present, and the side margin otherwise. -/
theorem one_sub_inputPanelRelativeRight :
    1 - s.calculatedPositions.inputPanelRelativeRight =
      if s.props.hasInputSlot then s.mainPanelDimensions.relativeLeft
      else s.pxToRelativeWidth sideMargin := by
  by_cases h : s.props.hasInputSlot
  · simp only [calculatedPositions, h, if_true]
    ring
  · simp [calculatedPositions, h]

theorem currentNodePaneType_eq_inputless_of_not_hasInputSlot (h : s.props.hasInputSlot = false) :
    s.currentNodePaneType = .inputless := by
  simp [currentNodePaneType, h]

theorem pxToRelativeWidth_pos {px : ℚ} (hpx : 0 < px) (h : 0 < s.containerWidth) :
    0 < s.pxToRelativeWidth px :=
  div_pos hpx h

theorem minimumLeftPosition_pos (h : 0 < s.containerWidth) : 0 < s.minimumLeftPosition := by
  unfold minimumLeftPosition inputPanelMargin
  split_ifs <;> first
    | exact s.pxToRelativeWidth_pos (by norm_num) h
    | exact add_pos (s.pxToRelativeWidth_pos (by norm_num) h) (s.pxToRelativeWidth_pos (by norm_num) h)

theorem maximumRightPosition_pos (h : 0 < s.containerWidth) : 0 < s.maximumRightPosition := by
  unfold maximumRightPosition inputPanelMargin
  split_ifs
  · exact s.pxToRelativeWidth_pos one_pos h
  · exact add_pos (s.pxToRelativeWidth_pos (by norm_num) h) (s.pxToRelativeWidth_pos (by norm_num) h)

/-- From `MIN_WINDOW_WIDTH` on, with an input slot, the left margin is 124 px. -/
theorem minimumLeftPosition_eq_of_hasInputSlot (hw : ¬ s.containerWidth < minWindowWidth)
    (h : s.props.hasInputSlot = true) : s.minimumLeftPosition = 124 / s.containerWidth := by
  simp only [minimumLeftPosition, inputPanelMargin, pxToRelativeWidth, if_neg hw, h, Bool.not_true,
    Bool.false_eq_true, if_false, ← add_div]
  norm_num

/-- From `MIN_WINDOW_WIDTH` on, the right margin is 124 px. -/
theorem maximumRightPosition_eq (hw : ¬ s.containerWidth < minWindowWidth) :
    s.maximumRightPosition = 124 / s.containerWidth := by
  simp only [maximumRightPosition, inputPanelMargin, pxToRelativeWidth, if_neg hw, ← add_div]
  norm_num

/-- With an input slot, outside the dragless type, a fresh panel is centred. -/
theorem getInitialLeftPosition_of_hasInputSlot (ht : s.currentNodePaneType ≠ .dragless)
    (h : s.props.hasInputSlot = true) (w : ℚ) :
    s.getInitialLeftPosition (.num w) = .num (0.5 - w / 2) := by
  simp only [getInitialLeftPosition, if_neg ht, h, if_true, JsNumber.map_num]

theorem useVerticalLayout_eq_true_iff :
    s.useVerticalLayout = true ↔
      (s.appGridDimensions.width < s.appGridDimensions.height ∧ s.isTouchDevice = true) ∨
        s.appGridDimensions.width < 768 := by
  simp [useVerticalLayout]

/-- The orientation reads only the app grid and the touch probe. -/
theorem useVerticalLayout_congr {s' : Panels} (hg : s'.appGridDimensions = s.appGridDimensions)
    (ht : s'.isTouchDevice = s.isTouchDevice) : s'.useVerticalLayout = s.useVerticalLayout := by
  simp only [useVerticalLayout, hg, ht]

/-! ## Store writes leave the computed values alone -/

section Frame

variable (t : MainPanelType) (p : DimensionsPatch)

@[simp] theorem currentNodePaneType_setMainPanelDimensions :
    (s.setMainPanelDimensions t p).currentNodePaneType = s.currentNodePaneType := by
  simp only [currentNodePaneType, setMainPanelDimensions_props]

@[simp] theorem pxToRelativeWidth_setMainPanelDimensions (px : ℚ) :
    (s.setMainPanelDimensions t p).pxToRelativeWidth px = s.pxToRelativeWidth px := by
  simp only [pxToRelativeWidth, setMainPanelDimensions_containerWidth]

@[simp] theorem minimumLeftPosition_setMainPanelDimensions :
    (s.setMainPanelDimensions t p).minimumLeftPosition = s.minimumLeftPosition := by
  simp only [minimumLeftPosition, inputPanelMargin, pxToRelativeWidth_setMainPanelDimensions,
    setMainPanelDimensions_containerWidth, setMainPanelDimensions_props]

@[simp] theorem maximumRightPosition_setMainPanelDimensions :
    (s.setMainPanelDimensions t p).maximumRightPosition = s.maximumRightPosition := by
  simp only [maximumRightPosition, inputPanelMargin, pxToRelativeWidth_setMainPanelDimensions,
    setMainPanelDimensions_containerWidth]

@[simp] theorem getInitialLeftPosition_setMainPanelDimensions (w : JsNumber) :
    (s.setMainPanelDimensions t p).getInitialLeftPosition w = s.getInitialLeftPosition w := by
  simp only [getInitialLeftPosition, fixedPanelWidth, hasDoubleWidth,
    currentNodePaneType_setMainPanelDimensions, pxToRelativeWidth_setMainPanelDimensions,
    minimumLeftPosition_setMainPanelDimensions, setMainPanelDimensions_containerWidth,
    setMainPanelDimensions_props]

@[simp] theorem useVerticalLayout_setMainPanelDimensions :
    (s.setMainPanelDimensions t p).useVerticalLayout = s.useVerticalLayout := by
  simp only [useVerticalLayout, setMainPanelDimensions_appGridDimensions,
    setMainPanelDimensions_isTouchDevice]

@[simp] theorem mainPanelDimensions_setMainPanelDimensions :
    (s.setMainPanelDimensions t p).mainPanelDimensions =
      if t = s.currentNodePaneType then s.mainPanelDimensions.merge p else s.mainPanelDimensions := by
  by_cases h : t = s.currentNodePaneType
  · subst h
    simp [mainPanelDimensions]
  · simp [mainPanelDimensions, h, Ne.symm h]

end Frame

end Panels

end NdvLayout
