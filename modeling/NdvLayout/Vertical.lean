import NdvLayout.Restore
import Mathlib.Tactic.FieldSimp

/-!
# NDV draggable panels: the vertical layout

In the vertical layout the three panels are stacked.  The input box runs from
`TOP_BOTTOM_MARGIN` down to `VERTICAL_PANELS_MARGIN` above the main panel, the
main panel has its fixed height from `mainPanelTop`, and the output box runs
from `VERTICAL_PANELS_MARGIN` below the main panel down to
`TOP_BOTTOM_MARGIN` above the bottom.  So the boxes are always stacked and
within the margins; only their heights depend on where the main panel is.

`mainPanelTop` is `calculatedVerticalPositions` while no vertical drag has
happened, and afterwards the position `setVerticalPositions` clamped to
`[minTop, maxTop]`, both at least 334 px from an edge.  Nothing else clamps:
`MIN_WINDOW_HEIGHT` is not read, and a change of the app-grid height keeps the
relative position.

**Results.**
* `verticalStacked_of_mainPanelTop`: the stacking, and the heights from the
  position of the main panel.
* `vertical_drags_keep_boxes`: from the default stacking in an app grid at
  least `618 px` taller than the main panel, every sequence of drags keeps
  each box at least `MIN_PANEL_HEIGHT` tall.
* `vertical_stacking_needs_fixed_tall_grid`: both restrictions are needed.  At
  `MIN_WINDOW_HEIGHT` the default stacking leaves the output box 100 px tall,
  and a top clamped for a 2000 px grid leaves the input box 83 px tall once
  the grid is lowered to 1000 px.
-/

namespace NdvLayout

/-- The pixel height of a vertical box in an app grid of height `H`. -/
def VerticalStyles.height (v : VerticalStyles) (H : ℚ) : ℚ := H - v.top - v.bottom

/-- The three vertical boxes are stacked, input over main over output, with
`VERTICAL_PANELS_MARGIN` between them and `TOP_BOTTOM_MARGIN` at both ends, and
each is at least `MIN_PANEL_HEIGHT` tall (the input box when there is an input
slot). -/
structure Panels.VerticalStacked (s : Panels) : Prop where
  input_top : s.verticalInputPanelStyles.top = topBottomMargin
  input_main : s.appGridDimensions.height - s.verticalInputPanelStyles.bottom + verticalPanelsMargin =
    s.verticalMainPanelStyles.top
  main_output : s.appGridDimensions.height - s.verticalMainPanelStyles.bottom + verticalPanelsMargin =
    s.verticalOutputPanelStyles.top
  output_bottom : s.verticalOutputPanelStyles.bottom = topBottomMargin
  input_height : s.props.hasInputSlot = true →
    minPanelHeight ≤ s.verticalInputPanelStyles.height s.appGridDimensions.height
  main_height : minPanelHeight ≤ s.verticalMainPanelStyles.height s.appGridDimensions.height
  output_height : minPanelHeight ≤ s.verticalOutputPanelStyles.height s.appGridDimensions.height

namespace Panels

variable (s : Panels)

/-! ## The boxes from the main panel's top -/

section Boxes

variable {s} (hH : s.appGridDimensions.height ≠ 0)
include hH

theorem verticalInputPanelStyles_height :
    s.verticalInputPanelStyles.height s.appGridDimensions.height =
      s.relativeHeightToPx s.mainPanelTop - topBottomMargin - verticalPanelsMargin := by
  simp only [VerticalStyles.height, verticalInputPanelStyles, relativeHeightToPx, pxToRelativeHeight]
  field_simp
  ring

theorem verticalMainPanelStyles_height :
    s.verticalMainPanelStyles.height s.appGridDimensions.height =
      initialMainPanelHeight s.currentNodePaneType := by
  simp only [VerticalStyles.height, verticalMainPanelStyles, relativeHeightToPx]
  field_simp
  ring

theorem verticalOutputPanelStyles_height :
    s.verticalOutputPanelStyles.height s.appGridDimensions.height =
      s.appGridDimensions.height - s.relativeHeightToPx s.mainPanelTop -
        initialMainPanelHeight s.currentNodePaneType - verticalPanelsMargin - topBottomMargin := by
  simp only [VerticalStyles.height, verticalOutputPanelStyles, relativeHeightToPx, pxToRelativeHeight]
  field_simp
  ring

/-- The boxes are stacked for every position of the main panel; their heights
follow from where the main panel's top is, in pixels. -/
theorem verticalStacked_of_mainPanelTop
    (hin : s.props.hasInputSlot = true → 284 ≤ s.relativeHeightToPx s.mainPanelTop)
    (hout : s.relativeHeightToPx s.mainPanelTop ≤
      s.appGridDimensions.height - initialMainPanelHeight s.currentNodePaneType - 284) :
    s.VerticalStacked where
  input_top := rfl
  input_main := by
    simp only [verticalInputPanelStyles, verticalMainPanelStyles, relativeHeightToPx, pxToRelativeHeight]
    field_simp
    ring
  main_output := by
    simp only [verticalMainPanelStyles, verticalOutputPanelStyles, relativeHeightToPx, pxToRelativeHeight]
    field_simp
    ring
  output_bottom := rfl
  input_height h := by
    rw [verticalInputPanelStyles_height hH]
    have := hin h
    norm_num at this ⊢
    linarith
  main_height := by
    rw [verticalMainPanelStyles_height hH]
    cases s.currentNodePaneType <;> norm_num [initialMainPanelHeight]
  output_height := by
    rw [verticalOutputPanelStyles_height hH]
    norm_num at hout ⊢
    linarith

/-- The default stacking puts the main panel's top below the input band. -/
theorem relativeHeightToPx_mainPanelRelativeTop :
    s.relativeHeightToPx s.calculatedVerticalPositions.mainPanelRelativeTop =
      topBottomMargin + (if s.props.hasInputSlot then panelHeight else 0) + verticalPanelsMargin := by
  simp only [calculatedVerticalPositions, relativeHeightToPx, pxToRelativeHeight]
  field_simp

end Boxes

theorem mainPanelTop_of_eq_zero (h : s.mainPanelVerticalPosition = 0) :
    s.mainPanelTop = s.calculatedVerticalPositions.mainPanelRelativeTop := by
  rw [mainPanelTop, h, JsNumber.orElse_zero]

theorem mainPanelTop_of_ne_zero (h : s.mainPanelVerticalPosition ≠ 0) :
    s.mainPanelTop = s.mainPanelVerticalPosition := by
  rw [mainPanelTop, JsNumber.orElse_num_of_ne h]

/-- A top set by a drag is a fraction of the app-grid height: the input box is
that fraction of the height, less the margins above the main panel, whatever
height the fraction was clamped for. -/
theorem verticalInputPanelStyles_height_of_ne_zero (hH : s.appGridDimensions.height ≠ 0)
    (h : s.mainPanelVerticalPosition ≠ 0) :
    s.verticalInputPanelStyles.height s.appGridDimensions.height =
      s.mainPanelVerticalPosition * s.appGridDimensions.height - topBottomMargin - verticalPanelsMargin := by
  rw [verticalInputPanelStyles_height hH, mainPanelTop_of_ne_zero s h, relativeHeightToPx]

/-! ## Vertical drags -/

/-- Where the main panel's top can be: at the default stacking
(`mainPanelVerticalPosition = 0`), or inside the clamp of `setVerticalPositions`. -/
def TopInRange : Prop :=
  s.mainPanelVerticalPosition = 0 ∨
    s.pxToRelativeHeight (topBottomMargin + panelHeight + verticalPanelsMargin) ≤
        s.mainPanelVerticalPosition ∧
      s.mainPanelVerticalPosition ≤
        max (s.pxToRelativeHeight (topBottomMargin + panelHeight + verticalPanelsMargin))
          (1 - s.pxToRelativeHeight (topBottomMargin + panelHeight + verticalPanelsMargin) -
            initialMainPanelHeight s.currentNodePaneType / s.appGridDimensions.height)

theorem topInRange_setVerticalPositions (relativeTop : ℚ) :
    (s.setVerticalPositions relativeTop).TopInRange :=
  .inr ⟨le_max_left _ _, max_le_max le_rfl (min_le_left _ _)⟩

/-- In pixels, a top that `TopInRange` allows is below the input band and at
most `maxTop`, the farthest `setVerticalPositions` moves it. -/
theorem relativeHeightToPx_mainPanelTop_bounds (hH : 0 < s.appGridDimensions.height)
    (h : s.TopInRange) :
    (s.props.hasInputSlot = true →
        topBottomMargin + panelHeight + verticalPanelsMargin ≤ s.relativeHeightToPx s.mainPanelTop) ∧
      s.relativeHeightToPx s.mainPanelTop ≤
        max (topBottomMargin + panelHeight + verticalPanelsMargin)
          (s.appGridDimensions.height - (topBottomMargin + panelHeight + verticalPanelsMargin) -
            initialMainPanelHeight s.currentNodePaneType) := by
  rcases h with h0 | ⟨hlo, hhi⟩
  · rw [mainPanelTop_of_eq_zero s h0, relativeHeightToPx_mainPanelRelativeTop hH.ne']
    refine ⟨fun hi => by rw [if_pos hi], le_max_of_le_left ?_⟩
    split_ifs <;> norm_num
  · have hne : s.mainPanelVerticalPosition ≠ 0 :=
      (lt_of_lt_of_le (div_pos (by norm_num) hH) hlo).ne'
    rw [mainPanelTop_of_ne_zero s hne, relativeHeightToPx]
    refine ⟨fun _ => (div_le_iff₀ hH).mp hlo, ?_⟩
    calc s.mainPanelVerticalPosition * s.appGridDimensions.height
        ≤ max (s.pxToRelativeHeight (topBottomMargin + panelHeight + verticalPanelsMargin))
            (1 - s.pxToRelativeHeight (topBottomMargin + panelHeight + verticalPanelsMargin) -
              initialMainPanelHeight s.currentNodePaneType / s.appGridDimensions.height) *
            s.appGridDimensions.height := mul_le_mul_of_nonneg_right hhi hH.le
      _ = _ := by
        rw [max_mul_of_nonneg _ _ hH.le, pxToRelativeHeight]
        congr 1 <;> field_simp

end Panels

open Panels

variable (m : ℕ) (s : Panels)

/-- A drag of the vertical layout writes the top that `setVerticalPositions`
clamps, and nothing else. -/
theorem step_drag_of_vertical (p : ℚ × ℚ) (he : s.dragEnabled) (hv : s.useVerticalLayout = true) :
    step m s (.drag p) = { s with mainPanelVerticalPosition := max s.minTop (min s.maxTop
      (s.pxToRelativeHeight p.2 - initialMainPanelHeight s.currentNodePaneType / s.appGridDimensions.height / 2)) } := by
  rw [step_drag, if_pos he, onDrag_of_vertical s p hv]
  rfl

/-- A drag keeps the props and the app grid, and leaves the main panel's top
where `TopInRange` allows. -/
theorem step_drag_topInRange (p : ℚ × ℚ) (h : s.TopInRange) :
    (step m s (.drag p)).props = s.props ∧
      (step m s (.drag p)).appGridDimensions = s.appGridDimensions ∧
      (step m s (.drag p)).TopInRange := by
  rw [step_drag]
  split
  · cases hv : s.useVerticalLayout
    · have h' := storeOnly_onDrag_of_horizontal s p hv
      refine ⟨h'.props, h'.appGridDimensions, ?_⟩
      rw [TopInRange, pxToRelativeHeight, h'.mainPanelVerticalPosition, h'.appGridDimensions,
        h'.currentNodePaneType]
      exact h
    · rw [onDrag_of_vertical s p hv]
      exact ⟨rfl, rfl, s.topInRange_setVerticalPositions _⟩
  · exact ⟨rfl, rfl, h⟩

theorem run_drags_topInRange (ps : List (ℚ × ℚ)) (h : s.TopInRange) :
    (run m s (ps.map .drag)).props = s.props ∧
      (run m s (ps.map .drag)).appGridDimensions = s.appGridDimensions ∧
      (run m s (ps.map .drag)).TopInRange := by
  induction ps generalizing s with
  | nil => exact ⟨rfl, rfl, h⟩
  | cons p ps ih =>
      obtain ⟨hp, hg, h'⟩ := step_drag_topInRange m s p h
      obtain ⟨hp', hg', h''⟩ := ih _ h'
      exact ⟨hp'.trans hp, hg'.trans hg, h''⟩

/-- From the default stacking, in an app grid at least `618 px` taller than
the main panel, every sequence of drags keeps the boxes stacked and each at
least `MIN_PANEL_HEIGHT` tall. -/
theorem vertical_drags_keep_boxes (ps : List (ℚ × ℚ)) (h0 : s.mainPanelVerticalPosition = 0)
    (hH : 618 + initialMainPanelHeight s.currentNodePaneType ≤ s.appGridDimensions.height) :
    (run m s (ps.map .drag)).VerticalStacked := by
  obtain ⟨hp, hg, hr⟩ := run_drags_topInRange m s ps (.inl h0)
  have hc : (run m s (ps.map .drag)).currentNodePaneType = s.currentNodePaneType := by
    simp only [currentNodePaneType, hp]
  have hmh : 0 < initialMainPanelHeight s.currentNodePaneType := by
    cases s.currentNodePaneType <;> norm_num [initialMainPanelHeight]
  have hpos : 0 < (run m s (ps.map .drag)).appGridDimensions.height := by
    rw [hg]
    linarith
  obtain ⟨hin, hout⟩ := relativeHeightToPx_mainPanelTop_bounds _ hpos hr
  refine verticalStacked_of_mainPanelTop hpos.ne' (fun hi => le_trans (by norm_num) (hin hi))
    (hout.trans (max_le ?_ ?_))
  all_goals
    rw [hg, hc]
    norm_num
    linarith

/-- Mounted regular panels in a 500 × 900 window, in the vertical layout: any
two drags keep the boxes. -/
theorem vertical_drags_keep_boxes_in_tall_grid :
    ({ regularWith defaultMainPanelDimensions with
        containerWidth := 500, appGridDimensions := ⟨500, 900⟩ } : Panels).mainPanelVerticalPosition = 0 ∧
      618 + initialMainPanelHeight ({ regularWith defaultMainPanelDimensions with
        containerWidth := 500, appGridDimensions := ⟨500, 900⟩ } : Panels).currentNodePaneType ≤ 900 ∧
      (run 360 { regularWith defaultMainPanelDimensions with
        containerWidth := 500, appGridDimensions := ⟨500, 900⟩ }
          ([(250, 800), (250, 100)].map .drag)).VerticalStacked :=
  ⟨rfl, by norm_num [initialMainPanelHeight, currentNodePaneType, regularWith, regularProps],
    vertical_drags_keep_boxes 360 _ _ rfl
      (by norm_num [initialMainPanelHeight, currentNodePaneType, regularWith, regularProps])⟩

/-- Mount a regular panel, narrow the window to 500 × 2000, drag the panel to
the top, and lower the window to 500 × 1000. -/
def dragThenLower : List Event :=
  [.mount regularProps, .appGridResize ⟨500, 2000⟩ none, .drag (250, 0), .appGridResize ⟨500, 1000⟩ none]

/-- Both restrictions of the stacking law are needed.  At `MIN_WINDOW_HEIGHT`
the default stacking of a regular node with an input slot leaves the output box
100 px tall.  And in an app grid tall enough for the law, 1000 px, a top that a
drag clamped for a 2000 px grid leaves the input box 83 px tall: a change of
height re-clamps nothing. -/
theorem vertical_stacking_needs_fixed_tall_grid :
    ((run 360 (pageLoad none) [.mount regularProps, .appGridResize ⟨375, 768⟩ none]).useVerticalLayout = true ∧
      (run 360 (pageLoad none)
        [.mount regularProps, .appGridResize ⟨375, 768⟩ none]).mainPanelVerticalPosition = 0 ∧
      (run 360 (pageLoad none) [.mount regularProps, .appGridResize ⟨375, 768⟩ none]).verticalOutputPanelStyles.height
        minWindowHeight = 100) ∧
    ((run 360 (pageLoad none) dragThenLower).useVerticalLayout = true ∧
      618 + initialMainPanelHeight (run 360 (pageLoad none) dragThenLower).currentNodePaneType ≤ 1000 ∧
      (run 360 (pageLoad none) dragThenLower).verticalInputPanelStyles.height 1000 = 83) := by
  simp only [dragThenLower, run_cons, run_nil]
  obtain ⟨hp₁, -, -, -, hm₁, hv₁⟩ := step_mount_fields 360 (pageLoad none) regularProps rfl
  generalize step 360 (pageLoad none) (.mount regularProps) = S₁ at hp₁ hm₁ hv₁ ⊢
  have hc : ∀ X : Panels, X.props = regularProps → X.currentNodePaneType = .regular := fun X hX => by
    simp only [currentNodePaneType, hX]
    rfl
  constructor
  · -- the default stacking at `MIN_WINDOW_HEIGHT`
    obtain ⟨hp₂, -, hg₂, -, -, hv₂⟩ := step_appGridResize_fields 360 S₁ ⟨375, 768⟩ none hm₁
    generalize step 360 S₁ (.appGridResize ⟨375, 768⟩ none) = S₂ at hp₂ hg₂ hv₂ ⊢
    have hH : S₂.appGridDimensions.height = minWindowHeight := by
      rw [hg₂]
      norm_num
    have hv : S₂.mainPanelVerticalPosition = 0 := hv₂.trans hv₁
    refine ⟨by rw [useVerticalLayout_eq_true_iff, hg₂]; norm_num, hv, ?_⟩
    have hne : S₂.appGridDimensions.height ≠ 0 := by
      rw [hH]
      norm_num
    rw [← hH, verticalOutputPanelStyles_height hne, mainPanelTop_of_eq_zero S₂ hv,
      relativeHeightToPx_mainPanelRelativeTop hne, hH, hc S₂ (hp₂.trans hp₁), hp₂.trans hp₁]
    norm_num [regularProps, initialMainPanelHeight]
  · -- the drag clamps the top to `334 / 2000` of a 2000 px grid
    obtain ⟨hp₂, -, hg₂, -, hm₂, -⟩ := step_appGridResize_fields 360 S₁ ⟨500, 2000⟩ none hm₁
    generalize step 360 S₁ (.appGridResize ⟨500, 2000⟩ none) = S₂ at hp₂ hg₂ hm₂ ⊢
    have hu₂ : S₂.useVerticalLayout = true := by
      rw [useVerticalLayout_eq_true_iff, hg₂]
      norm_num
    have he₂ : S₂.dragEnabled := ⟨hm₂.trans hm₁, by rw [hp₂, hp₁]; rfl, by rw [hp₂, hp₁]; rfl⟩
    have hy₃ : (step 360 S₂ (.drag (250, 0))).mainPanelVerticalPosition = 167 / 1000 := by
      rw [step_drag_of_vertical 360 S₂ _ he₂ hu₂, maxTop, minTop, hc S₂ (hp₂.trans hp₁)]
      norm_num [initialMainPanelHeight, pxToRelativeHeight, hg₂]
    have hm₃ : (step 360 S₂ (.drag (250, 0))).mounted = true ∧ (step 360 S₂ (.drag (250, 0))).props = regularProps := by
      rw [step_drag_of_vertical 360 S₂ _ he₂ hu₂]
      exact ⟨hm₂.trans hm₁, hp₂.trans hp₁⟩
    generalize step 360 S₂ (.drag (250, 0)) = S₃ at hy₃ hm₃ ⊢
    -- lowering the grid to 1000 px keeps the fraction
    obtain ⟨hp₄, -, hg₄, -, -, hv₄⟩ := step_appGridResize_fields 360 S₃ ⟨500, 1000⟩ none hm₃.1
    generalize step 360 S₃ (.appGridResize ⟨500, 1000⟩ none) = S₄ at hp₄ hg₄ hv₄ ⊢
    have hH : S₄.appGridDimensions.height = 1000 := by rw [hg₄]
    refine ⟨by rw [useVerticalLayout_eq_true_iff, hg₄]; norm_num,
      by rw [hc S₄ (hp₄.trans hm₃.2)]; norm_num [initialMainPanelHeight], ?_⟩
    rw [← hH, verticalInputPanelStyles_height_of_ne_zero S₄ (by rw [hH]; norm_num) (by rw [hv₄, hy₃]; norm_num),
      hv₄, hy₃, hH]
    norm_num

end NdvLayout
