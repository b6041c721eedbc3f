import NdvLayout.Writes

/-!
# NDV draggable panels: handlers and the editor session

The component's lifecycle hooks, its viewport watcher and its event handlers,
and the step function of an editor session built from them.

**Handlers.**  `mount` is the setup of the refs followed by `onMounted`;
`onAppGridDimensionsChange` is the watcher on `uiStore.appGridDimensions`, run
after the store has taken the new dimensions (the `#ndv` element's measured
width, when the element exists, is the argument `ndvWidth`); `onResize`,
`onDrag`, `onDragStart`, `onDragEnd` and `onResizeEnd` are the template's
handlers.  The `setTimeout` callbacks are events of their own.

**Session.**  `step` applies one `Event`.  The template decides which events
reach a handler: drags only while `PanelDragButton` is rendered
(`!hideInputAndOutput && isDraggable`), resizes only while `N8nResizeWrapper`
is enabled (`currentNodePaneType !== 'unknown'`) in a supported direction, and
`onResize` only once `initialized` is set.  Each `resize` event stands for one
call that `useThrottleFn` lets through.  While no panels are mounted, a viewport
change only updates the store.  `Reachable` collects the states of every finite
session from a page load.
-/

namespace NdvLayout

/-- The payload of the wrapper's `resize` event. -/
structure ResizeData where
  direction : String
  x : ℚ
  width : ℚ

/-- What can happen to the panels during an editor session. -/
inductive Event
  | mount (props : Props)
  | unmount
  | appGridResize (dimensions : GridDimensions) (ndvWidth : Option ℚ)
  | initTimeout
  | dragStart
  | drag (position : ℚ × ℚ)
  | dragEnd
  | dragEndTimeout
  | resize (data : ResizeData)
  | resizeEnd
  | setPositionByName (position : PositionName)

namespace Panels

variable (s : Panels) (m : ℕ)

/-- Persist the current width under the type's key, `storePositionData`. -/
def storePositionData : Panels :=
  { s with
    storage := Function.update s.storage s.currentNodePaneType
      (some (.num s.mainPanelDimensions.relativeWidth)) }

/-- Re-apply the persisted width, `restorePositionData`; the flag is its return value. -/
def restorePositionData : Panels × Bool :=
  match s.storage s.currentNodePaneType with
  | some parsedWidth =>
    let s := s.setMainPanelWidth m parsedWidth
    let initialPosition := s.getInitialLeftPosition parsedWidth
    (s.setPositions initialPosition, true)
  | none => (s, false)

/-- Place the panel if its entry is still the default, `onMounted`. -/
def onMounted : Panels :=
  if s.mainPanelDimensions.relativeLeft = 1 ∧ s.mainPanelDimensions.relativeRight = 1 then
    let s := s.setMainPanelWidth m .undefined
    let s := s.setPositions (s.getInitialLeftPosition (.num s.mainPanelDimensions.relativeWidth))
    (s.restorePositionData m).1
  else s

/-- A new instance's props and refs, before `onMounted`. -/
def setup (props : Props) : Panels :=
  { s with
    props := props
    isDragging := false
    initialized := false
    containerWidth := s.appGridDimensions.width
    mainPanelVerticalPosition := 0
    mounted := true }

/-- Set up a new instance with the given props, then run `onMounted`. -/
def mount (props : Props) : Panels := (s.setup props).onMounted m

/-- The watcher on `uiStore.appGridDimensions`. -/
def onAppGridDimensionsChange (dimensions : GridDimensions) (ndvWidth : Option ℚ) : Panels :=
  let s : Panels := { s with containerWidth := ndvWidth.getD dimensions.width }
  let minRelativeWidth := s.pxToRelativeWidth minPanelWidth
  let isBelowMinWidthMainPanel := s.mainPanelDimensions.relativeWidth < minRelativeWidth
  let s := if isBelowMinWidthMainPanel then s.setMainPanelWidth m (.num minRelativeWidth) else s
  let isBelowMinLeft := s.minimumLeftPosition > s.mainPanelDimensions.relativeLeft
  let isMaxRight := s.maximumRightPosition > s.mainPanelDimensions.relativeRight
  let s :=
    if dimensions.width > minWindowWidth ∧ isBelowMinLeft ∧ isMaxRight then
      let s := s.setMainPanelWidth m (.num minRelativeWidth)
      s.setPositions (s.getInitialLeftPosition (.num s.mainPanelDimensions.relativeWidth))
    else s
  s.setPositions (.num s.mainPanelDimensions.relativeLeft)

/-! The watcher in three writes: the measured width, the width floor, the refit. -/

/-- The watcher's first write: the measured container width. -/
def withContainerWidth (width : ℚ) : Panels := { s with containerWidth := width }

/-- The watcher's width floor: a main panel narrower than `minRelativeWidth` is widened to it. -/
def floorWidth (minRelativeWidth : ℚ) : Panels :=
  if s.mainPanelDimensions.relativeWidth < minRelativeWidth then
    s.setMainPanelWidth m (.num minRelativeWidth)
  else s

/-- The watcher's refit: a main panel past both margins, in an app grid wider than
`MIN_WINDOW_WIDTH`, is narrowed to `minRelativeWidth` and placed afresh. -/
def refit (appGridWidth minRelativeWidth : ℚ) : Panels :=
  if appGridWidth > minWindowWidth ∧ s.minimumLeftPosition > s.mainPanelDimensions.relativeLeft ∧
      s.maximumRightPosition > s.mainPanelDimensions.relativeRight then
    let s := s.setMainPanelWidth m (.num minRelativeWidth)
    s.setPositions (s.getInitialLeftPosition (.num s.mainPanelDimensions.relativeWidth))
  else s

theorem onAppGridDimensionsChange_eq (dimensions : GridDimensions) (ndvWidth : Option ℚ) :
    s.onAppGridDimensionsChange m dimensions ndvWidth =
      let s₁ := s.withContainerWidth (ndvWidth.getD dimensions.width)
      let minRelativeWidth := s₁.pxToRelativeWidth minPanelWidth
      let s₂ := (s₁.floorWidth m minRelativeWidth).refit m dimensions.width minRelativeWidth
      s₂.setPositions (.num s₂.mainPanelDimensions.relativeLeft) := rfl

/-- Resize the main panel from one of its edges, `onResize`. -/
def onResize (data : ResizeData) : Panels :=
  let relativeDistance := s.pxToRelativeWidth data.x
  let relativeWidth := s.pxToRelativeWidth data.width
  if data.direction = "left" ∧ relativeDistance ≤ s.minimumLeftPosition then s
  else if data.direction = "right" ∧ 1 - relativeDistance ≤ s.maximumRightPosition then s
  else if data.width ≤ minPanelWidth then s
  else
    let s := s.setMainPanelWidth m (.num relativeWidth)
    s.setPositions
      (.num (if data.direction = "left" then relativeDistance else s.mainPanelDimensions.relativeLeft))

/-- Forward a resize once the panels are initialised, `onResizeThrottle`. -/
def onResizeThrottle (data : ResizeData) : Panels :=
  if s.initialized then s.onResize m data else s

/-- Persist the width when a resize ends, `onResizeEnd`. -/
def onResizeEnd : Panels := s.storePositionData

/-- Start a drag, `onDragStart`. -/
def onDragStart : Panels := { s with isDragging := true }

/-- Move the main panel with the pointer, `onDrag`. -/
def onDrag (position : ℚ × ℚ) : Panels :=
  if s.useVerticalLayout then
    let relativeTop := s.pxToRelativeHeight position.2 -
      initialMainPanelHeight s.currentNodePaneType / s.appGridDimensions.height / 2
    s.setVerticalPositions relativeTop
  else
    let relativeLeft := s.pxToRelativeWidth position.1 - s.mainPanelDimensions.relativeWidth / 2
    s.setPositions (.num relativeLeft)

/-- End a drag, `onDragEnd`: the width is persisted at once, `isDragging` is
cleared by the deferred `dragEndTimeout`. -/
def onDragEnd : Panels := s.storePositionData

/-- Whether `PanelDragButton` is rendered. -/
def dragEnabled : Prop := s.mounted ∧ s.props.hideInputAndOutput = false ∧ s.props.isDraggable

/-- Whether `N8nResizeWrapper` can report a resize in this direction. -/
def resizeEnabled (direction : String) : Prop :=
  s.mounted ∧ s.currentNodePaneType ≠ .unknown ∧ direction ∈ s.supportedResizeDirections

instance : Decidable s.dragEnabled := inferInstanceAs (Decidable (_ ∧ _))

theorem dragEnabled_congr {s' : Panels} (hp : s'.props = s.props) (hm : s'.mounted = s.mounted) :
    s'.dragEnabled ↔ s.dragEnabled := by
  simp only [dragEnabled, hp, hm]

instance (direction : String) : Decidable (s.resizeEnabled direction) :=
  inferInstanceAs (Decidable (_ ∧ _))

end Panels

/-- One event of an editor session. -/
def step (m : ℕ) (s : Panels) : Event → Panels
  | .mount props => if s.mounted then s else s.mount m props
  | .unmount => { s with mounted := false }
  | .appGridResize dimensions ndvWidth =>
    let s : Panels := { s with appGridDimensions := dimensions }
    if s.mounted then s.onAppGridDimensionsChange m dimensions ndvWidth else s
  | .initTimeout => if s.mounted then { s with initialized := true } else s
  | .dragStart => if s.dragEnabled then s.onDragStart else s
  | .drag position => if s.dragEnabled then s.onDrag position else s
  | .dragEnd => if s.dragEnabled then s.onDragEnd else s
  | .dragEndTimeout => if s.mounted then { s with isDragging := false } else s
  | .resize data => if s.resizeEnabled data.direction then s.onResizeThrottle m data else s
  | .resizeEnd => if s.mounted ∧ s.currentNodePaneType ≠ .unknown then s.onResizeEnd else s
  | .setPositionByName position => if s.mounted then s.setPositionByName position else s

theorem step_appGridResize (m : ℕ) (s : Panels) (dimensions : GridDimensions) (ndvWidth : Option ℚ) :
    step m s (.appGridResize dimensions ndvWidth) =
      if s.mounted then
        ({ s with appGridDimensions := dimensions } : Panels).onAppGridDimensionsChange m dimensions ndvWidth
      else { s with appGridDimensions := dimensions } := rfl

theorem step_drag (m : ℕ) (s : Panels) (position : ℚ × ℚ) :
    step m s (.drag position) = if s.dragEnabled then s.onDrag position else s := rfl

theorem step_setPositionByName (m : ℕ) (s : Panels) (position : PositionName) :
    step m s (.setPositionByName position) =
      if s.mounted then s.setPositionByName position else s := rfl

/-- A session: the events in order. -/
def run (m : ℕ) (s : Panels) (events : List Event) : Panels := events.foldl (step m) s

theorem run_nil (m : ℕ) (s : Panels) : run m s [] = s := rfl

theorem run_cons (m : ℕ) (s : Panels) (e : Event) (events : List Event) :
    run m s (e :: events) = run m (step m s e) events := rfl

/-- A page load: every store entry is the default and no panels are mounted; the
persisted widths, the viewport and the touch probe are whatever they are. -/
def Panels.Initial (s : Panels) : Prop :=
  (∀ t, s.ndvStore t = defaultMainPanelDimensions) ∧ s.mounted = false

/-- States of a session from a page load. -/
inductive Reachable (m : ℕ) : Panels → Prop
  | init {s : Panels} : s.Initial → Reachable m s
  | step {s : Panels} (e : Event) : Reachable m s → Reachable m (step m s e)

theorem Reachable.run {m : ℕ} {s : Panels} (h : Reachable m s) (events : List Event) :
    Reachable m (run m s events) := by
  induction events generalizing s with
  | nil => exact h
  | cons e events ih => exact ih (h.step e)

end NdvLayout
