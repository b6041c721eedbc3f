import Mathlib.Algebra.Order.Field.Rat
import Mathlib.Logic.Function.Basic
import Mathlib.Tactic.NormNum
import Mathlib.Tactic.Linarith
import Mathlib.Tactic.Positivity
import Mathlib.Tactic.Ring

/-!
# NDV draggable panels: data model

This module fixes the data that `NDVDraggablePanels.vue` reads and writes.

**Numbers.**  Geometry is computed over exact rationals.  Relative positions are
fractions of the container width (horizontal layout) or of the app-grid height
(vertical layout).  A JavaScript number that may be `NaN` or `undefined` is a
`JsNumber`; `JsNumber.orElse` is the `x || fallback` idiom of the component, for
which `0`, `NaN` and `undefined` are all falsy.

**Constants.**  The pixel constants at the top of the component, under the
component's names.  `MAIN_NODE_PANEL_WIDTH` comes from `@/constants`, which is
not part of the sources; it is a parameter `mainNodePanelWidth` of every
operation that reads it.

**State.**  `Panels` is one flat record: the component's props and slots, its
own refs (`isDragging`, `initialized`, `containerWidth`,
`mainPanelVerticalPosition`), and the shared stores it reads (`ndvStore`,
`uiStore.appGridDimensions`, the local storage of persisted widths).  The NDV
store keeps one `MainPanelDimensions` per panel type, all equal to the default
sentinel `{relativeLeft: 1, relativeRight: 1, relativeWidth: 1}` described in
`onMounted`; `setMainPanelDimensions` merges the supplied fields into one entry.
-/

namespace NdvLayout

/-! ## JavaScript numbers -/

/-- A number argument of the component: a finite value, `NaN` (what `parseFloat`
returns for a string without a numeric prefix, and any arithmetic on it), or
`undefined` (an omitted optional argument). -/
inductive JsNumber
  | num (value : ℚ)
  | nan
  | undefined
deriving DecidableEq, Repr

namespace JsNumber

/-- The idiom `x || fallback`: `0`, `NaN` and `undefined` are falsy. -/
def orElse : JsNumber → ℚ → ℚ
  | num x, fallback => if x = 0 then fallback else x
  | _, fallback => fallback

/-- Arithmetic on a number argument; `NaN` and `undefined` give `NaN`. -/
def map (f : ℚ → ℚ) : JsNumber → JsNumber
  | num x => num (f x)
  | _ => nan

@[simp] theorem orElse_num_of_ne {x : ℚ} (hx : x ≠ 0) (fallback : ℚ) :
    (num x).orElse fallback = x := by
  simp [orElse, hx]

@[simp] theorem orElse_zero (fallback : ℚ) : (num 0).orElse fallback = fallback := by
  simp [orElse]

@[simp] theorem orElse_nan (fallback : ℚ) : nan.orElse fallback = fallback := rfl

@[simp] theorem orElse_undefined (fallback : ℚ) : undefined.orElse fallback = fallback := rfl

@[simp] theorem map_num (f : ℚ → ℚ) (x : ℚ) : (num x).map f = num (f x) := rfl

@[simp] theorem map_nan (f : ℚ → ℚ) : nan.map f = nan := rfl

end JsNumber

/-! ## Constants -/

/-- Side margin, `SIDE_MARGIN`. -/
@[simp] def sideMargin : ℚ := 24
/-- Room kept for the side panels, `SIDE_PANELS_MARGIN`. -/
@[simp] def sidePanelsMargin : ℚ := 80
/-- Minimum main panel width, `MIN_PANEL_WIDTH`. -/
@[simp] def minPanelWidth : ℚ := 310
/-- Fixed panel width, `PANEL_WIDTH`. -/
@[simp] def panelWidth : ℚ := 350
/-- Fixed panel width on large screens, `PANEL_WIDTH_LARGE`. -/
@[simp] def panelWidthLarge : ℚ := 420
/-- Narrowest supported container, `MIN_WINDOW_WIDTH`. -/
@[simp] def minWindowWidth : ℚ := 2 * (sideMargin + sidePanelsMargin) + minPanelWidth

/-- Vertical outer margin, `TOP_BOTTOM_MARGIN`. -/
@[simp] def topBottomMargin : ℚ := 24
/-- Gap between stacked panels, `VERTICAL_PANELS_MARGIN`. -/
@[simp] def verticalPanelsMargin : ℚ := 60
/-- Minimum panel height, `MIN_PANEL_HEIGHT`. -/
@[simp] def minPanelHeight : ℚ := 200
/-- Default panel height, `PANEL_HEIGHT`. -/
@[simp] def panelHeight : ℚ := 250
/-- Default height of a wide main panel, `PANEL_HEIGHT_LARGE`. -/
@[simp] def panelHeightLarge : ℚ := 300
/-- Lowest supported viewport, `MIN_WINDOW_HEIGHT`. -/
@[simp] def minWindowHeight : ℚ :=
  3 * minPanelHeight + 2 * verticalPanelsMargin + 2 * topBottomMargin

/-! ## Panel types and the NDV store -/

/-- Layout variants of the main panel, `MainPanelType`. -/
inductive MainPanelType
  | regular
  | dragless
  | unknown
  | inputless
  | wide
deriving DecidableEq, Repr

/-- Default main panel width in pixels, `initialMainPanelWidth`. -/
def initialMainPanelWidth (mainNodePanelWidth : ℕ) : MainPanelType → ℚ
  | .wide => mainNodePanelWidth * 2
  | _ => mainNodePanelWidth

/-- Main panel height in pixels, `initialMainPanelHeight`. -/
def initialMainPanelHeight : MainPanelType → ℚ
  | .wide => panelHeightLarge
  | _ => panelHeight

/-- One entry of `ndvStore.mainPanelDimensions`. -/
structure MainPanelDimensions where
  relativeLeft : ℚ
  relativeRight : ℚ
  relativeWidth : ℚ
deriving DecidableEq, Repr

/-- The default state every entry starts in (see the comment in `onMounted`). -/
def defaultMainPanelDimensions : MainPanelDimensions := ⟨1, 1, 1⟩

/-- The `dimensions` argument of `setMainPanelDimensions`: only the given fields
are written. -/
structure DimensionsPatch where
  relativeLeft : Option ℚ
  relativeRight : Option ℚ
  relativeWidth : Option ℚ

/-- The object spread `{...entry, ...dimensions}` of the store's setter. -/
def MainPanelDimensions.merge (d : MainPanelDimensions) (p : DimensionsPatch) :
    MainPanelDimensions where
  relativeLeft := p.relativeLeft.getD d.relativeLeft
  relativeRight := p.relativeRight.getD d.relativeRight
  relativeWidth := p.relativeWidth.getD d.relativeWidth

/-- The two shapes of patch the component writes. -/
def DimensionsPatch.width (w : ℚ) : DimensionsPatch := ⟨none, none, some w⟩

/-- A patch of `relativeLeft` and `relativeRight`. -/
def DimensionsPatch.position (left right : ℚ) : DimensionsPatch := ⟨some left, some right, none⟩

@[simp] theorem merge_width (d : MainPanelDimensions) (w : ℚ) :
    d.merge (.width w) = { d with relativeWidth := w } := by
  cases d; rfl

@[simp] theorem merge_position (d : MainPanelDimensions) (left right : ℚ) :
    d.merge (.position left right) = { d with relativeLeft := left, relativeRight := right } := by
  cases d; rfl

/-! ## Props, viewport and component state -/

/-- The part of `INodeTypeDescription` the panels read. -/
structure NodeTypeDescription where
  parameterPane : Option MainPanelType
deriving DecidableEq, Repr

/-- The component's props, and whether the parent filled the `input` slot. -/
structure Props where
  isDraggable : Bool
  hideInputAndOutput : Bool
  nodeType : Option NodeTypeDescription
  hasInputSlot : Bool
deriving DecidableEq, Repr

/-- Viewport size in pixels, `uiStore.appGridDimensions`. -/
structure GridDimensions where
  width : ℚ
  height : ℚ
deriving DecidableEq, Repr

/-- One `NDVDraggablePanels` instance together with the stores it shares with the
editor.  The instance fields are meaningful while `mounted` holds. -/
structure Panels where
  props : Props
  isDragging : Bool
  initialized : Bool
  containerWidth : ℚ
  mainPanelVerticalPosition : ℚ
  /-- The store entries `ndvStore.mainPanelDimensions`; they outlive the component. -/
  ndvStore : MainPanelType → MainPanelDimensions
  appGridDimensions : GridDimensions
  /-- The persisted width per panel type, as `parseFloat` reads it back; `none`
  is an absent or empty entry. -/
  storage : MainPanelType → Option JsNumber
  isTouchDevice : Bool
  mounted : Bool

namespace Panels

/-- The store setter `ndvStore.setMainPanelDimensions({panelType, dimensions})`. -/
def setMainPanelDimensions (s : Panels) (panelType : MainPanelType) (p : DimensionsPatch) :
    Panels :=
  { s with ndvStore := Function.update s.ndvStore panelType ((s.ndvStore panelType).merge p) }

@[simp] theorem setMainPanelDimensions_ndvStore_self (s : Panels) (t : MainPanelType)
    (p : DimensionsPatch) :
    (s.setMainPanelDimensions t p).ndvStore t = (s.ndvStore t).merge p := by
  simp [setMainPanelDimensions]

@[simp] theorem setMainPanelDimensions_ndvStore_of_ne (s : Panels) {t t' : MainPanelType}
    (h : t' ≠ t) (p : DimensionsPatch) :
    (s.setMainPanelDimensions t p).ndvStore t' = s.ndvStore t' := by
  simp [setMainPanelDimensions, h]

@[simp] theorem setMainPanelDimensions_props (s : Panels) (t : MainPanelType) (p : DimensionsPatch) :
    (s.setMainPanelDimensions t p).props = s.props := by
  simp only [setMainPanelDimensions]

@[simp] theorem setMainPanelDimensions_containerWidth (s : Panels) (t : MainPanelType)
    (p : DimensionsPatch) :
    (s.setMainPanelDimensions t p).containerWidth = s.containerWidth := by
  simp only [setMainPanelDimensions]

@[simp] theorem setMainPanelDimensions_appGridDimensions (s : Panels) (t : MainPanelType)
    (p : DimensionsPatch) :
    (s.setMainPanelDimensions t p).appGridDimensions = s.appGridDimensions := by
  simp only [setMainPanelDimensions]

@[simp] theorem setMainPanelDimensions_mainPanelVerticalPosition (s : Panels) (t : MainPanelType)
    (p : DimensionsPatch) :
    (s.setMainPanelDimensions t p).mainPanelVerticalPosition = s.mainPanelVerticalPosition := by
  simp only [setMainPanelDimensions]

@[simp] theorem setMainPanelDimensions_storage (s : Panels) (t : MainPanelType)
    (p : DimensionsPatch) :
    (s.setMainPanelDimensions t p).storage = s.storage := by
  simp only [setMainPanelDimensions]

@[simp] theorem setMainPanelDimensions_mounted (s : Panels) (t : MainPanelType)
    (p : DimensionsPatch) :
    (s.setMainPanelDimensions t p).mounted = s.mounted := by
  simp only [setMainPanelDimensions]

@[simp] theorem setMainPanelDimensions_initialized (s : Panels) (t : MainPanelType)
    (p : DimensionsPatch) :
    (s.setMainPanelDimensions t p).initialized = s.initialized := by
  simp only [setMainPanelDimensions]

@[simp] theorem setMainPanelDimensions_isDragging (s : Panels) (t : MainPanelType)
    (p : DimensionsPatch) :
    (s.setMainPanelDimensions t p).isDragging = s.isDragging := by
  simp only [setMainPanelDimensions]

@[simp] theorem setMainPanelDimensions_isTouchDevice (s : Panels) (t : MainPanelType)
    (p : DimensionsPatch) :
    (s.setMainPanelDimensions t p).isTouchDevice = s.isTouchDevice := by
  simp only [setMainPanelDimensions]

end Panels

end NdvLayout
