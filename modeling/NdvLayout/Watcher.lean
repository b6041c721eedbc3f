import NdvLayout.Session

/-!
# NDV draggable panels: the viewport watcher at rest

The watcher on `uiStore.appGridDimensions` records the measured container
width, widens a panel narrower than `MIN_PANEL_WIDTH`, refits one past both
margins, and ends with `setPositions` at the panel's own left edge.  For a panel
that is wide enough and between the margins of the new container, each of these
writes gives back what it is given: the watcher records the new sizes and
moves nothing.  The watcher's own result is of that kind whenever the panel
fits between its margins, so a notification repeated with the same sizes
changes nothing.

**Results.**
* `Panels.setPositions_self`: a panel between the margins that fills the
  container is where `setPositions` puts it when asked for its own left edge.
* `step_appGridResize_of_settled`: in every reachable state, a viewport change
  in which the panel stays wide enough and between the margins only records
  the new sizes.
* `appGridResize_idempotent`: a viewport notification repeated with the same
  sizes changes nothing, once the panel fits between the margins the first one
  left.
-/

namespace NdvLayout

open Panels

namespace Panels

variable (s : Panels) (m : ℕ)

/-- Writing back an entry's own edges changes nothing. -/
theorem setMainPanelDimensions_position_self (t : MainPanelType) :
    s.setMainPanelDimensions t (.position (s.ndvStore t).relativeLeft (s.ndvStore t).relativeRight) = s := by
  have h : (s.ndvStore t).merge (.position (s.ndvStore t).relativeLeft (s.ndvStore t).relativeRight) =
      s.ndvStore t := by
    rw [merge_position]
  simp only [setMainPanelDimensions, h, Function.update_eq_self]

/-- With an input slot, `setPositions` asked for the panel's own left edge
works with that edge, `0` included: there the `||` fallback reads the same edge
back. -/
theorem targetLeft_relativeLeft (hslot : s.props.hasInputSlot = true) :
    s.targetLeft (.num s.mainPanelDimensions.relativeLeft) = s.mainPanelDimensions.relativeLeft := by
  by_cases h0 : s.mainPanelDimensions.relativeLeft = 0
  · rw [targetLeft, h0, JsNumber.orElse_zero, one_sub_inputPanelRelativeRight, if_pos hslot, h0]
  · exact s.targetLeft_num h0

/-- A panel outside the inputless type, between the margins and filling the
container, is where `setPositions` puts it when asked for its own left edge. -/
theorem setPositions_self (ht : s.currentNodePaneType ≠ .inputless)
    (hl : s.minimumLeftPosition ≤ s.mainPanelDimensions.relativeLeft)
    (hr : s.maximumRightPosition ≤ s.mainPanelDimensions.relativeRight) (hf : s.mainPanelDimensions.Fills) :
    s.setPositions (.num s.mainPanelDimensions.relativeLeft) = s := by
  have hright : 1 - s.mainPanelDimensions.relativeLeft - s.mainPanelDimensions.relativeWidth =
      s.mainPanelDimensions.relativeRight := by
    unfold MainPanelDimensions.Fills at hf
    linarith
  have hp : s.placement (.num s.mainPanelDimensions.relativeLeft) =
      (s.mainPanelDimensions.relativeLeft, s.mainPanelDimensions.relativeRight) := by
    rw [placement, targetLeft_relativeLeft s (hasInputSlot_of_ne_inputless ht), decide_eq_false ht]
    simp only [placeMainPanel, hright, not_lt.mpr hl, not_lt.mpr hr, if_false, Bool.false_eq_true]
  rw [setPositions_eq, hp]
  exact s.setMainPanelDimensions_position_self _

theorem refit_of_le {a r : ℚ} (h : s.minimumLeftPosition ≤ s.mainPanelDimensions.relativeLeft) :
    s.refit m a r = s :=
  if_neg fun h' => not_lt.mpr h h'.2.1

/-- At container width `w` the current panel is at least `MIN_PANEL_WIDTH` wide
and between the margins: the watcher has nothing to write. -/
structure SettledAt (w : ℚ) : Prop where
  wide : (s.withContainerWidth w).pxToRelativeWidth minPanelWidth ≤ s.mainPanelDimensions.relativeWidth
  left : (s.withContainerWidth w).minimumLeftPosition ≤ s.mainPanelDimensions.relativeLeft
  right : (s.withContainerWidth w).maximumRightPosition ≤ s.mainPanelDimensions.relativeRight

variable {s} in
/-- Whether the panel is settled reads only the props and the current entry. -/
theorem SettledAt.congr {s' : Panels} {w : ℚ} (h : s.SettledAt w) (hp : s'.props = s.props)
    (hd : s'.mainPanelDimensions = s.mainPanelDimensions) : s'.SettledAt w where
  wide := by
    rw [hd]
    exact h.wide
  left := by
    rw [hd, show (s'.withContainerWidth w).minimumLeftPosition = (s.withContainerWidth w).minimumLeftPosition by
      simp only [minimumLeftPosition, inputPanelMargin, pxToRelativeWidth, withContainerWidth, hp]]
    exact h.left
  right := by
    rw [hd]
    exact h.right

/-- For a panel that is wide enough and between the margins of the new
container, the watcher records the container width and moves nothing. -/
theorem onAppGridDimensionsChange_of_settled (d : GridDimensions) (n : Option ℚ)
    (ht : s.currentNodePaneType ≠ .inputless) (hf : s.mainPanelDimensions.Fills)
    (h : s.SettledAt (n.getD d.width)) :
    s.onAppGridDimensionsChange m d n = s.withContainerWidth (n.getD d.width) := by
  rw [onAppGridDimensionsChange_eq]
  dsimp only
  rw [floorWidth_of_not_lt (s.withContainerWidth (n.getD d.width)) m (not_lt.mpr h.wide),
    refit_of_le (s.withContainerWidth (n.getD d.width)) m h.left]
  exact (s.withContainerWidth (n.getD d.width)).setPositions_self ht h.left h.right hf

/-- The watcher leaves alone a state whose container width is already the
notified one, with the panel wide enough and between the margins. -/
theorem onAppGridDimensionsChange_self {d : GridDimensions} {n : Option ℚ}
    (hw : s.containerWidth = n.getD d.width) (ht : s.currentNodePaneType ≠ .inputless)
    (hf : s.mainPanelDimensions.Fills)
    (hmin : s.pxToRelativeWidth minPanelWidth ≤ s.mainPanelDimensions.relativeWidth)
    (hl : s.minimumLeftPosition ≤ s.mainPanelDimensions.relativeLeft)
    (hr : s.maximumRightPosition ≤ s.mainPanelDimensions.relativeRight) :
    s.onAppGridDimensionsChange m d n = s := by
  have hs : s.withContainerWidth (n.getD d.width) = s := by
    rw [← hw]
    rfl
  rw [onAppGridDimensionsChange_of_settled s m d n ht hf ⟨by rwa [hs], by rwa [hs], by rwa [hs]⟩, hs]

/-- The watcher leaves the panel at least `MIN_PANEL_WIDTH` wide in its new
container. -/
theorem onAppGridDimensionsChange_widthFloor (d : GridDimensions) (n : Option ℚ) (hc : 0 < n.getD d.width) :
    (s.onAppGridDimensionsChange m d n).pxToRelativeWidth minPanelWidth ≤
      (s.onAppGridDimensionsChange m d n).mainPanelDimensions.relativeWidth := by
  rw [(storeOnly_onAppGridDimensionsChange s m d n).pxToRelativeWidth, onAppGridDimensionsChange_eq]
  dsimp only
  rw [setPositions_relativeWidth]
  have hr : (s.withContainerWidth (n.getD d.width)).pxToRelativeWidth minPanelWidth ≠ 0 :=
    ((s.withContainerWidth _).pxToRelativeWidth_pos (by norm_num) hc).ne'
  exact le_refit_relativeWidth _ hr (le_floorWidth_relativeWidth hr)

end Panels

variable (m : ℕ) (s : Panels)

/-- In every reachable state, a viewport change in which a mounted panel
outside the inputless type stays at least `MIN_PANEL_WIDTH` wide and between
the margins of the new container only records the new sizes: every write of
the watcher gives back the entry it is given. -/
theorem step_appGridResize_of_settled (d : GridDimensions) (n : Option ℚ) (hs : Reachable m s)
    (hm : s.mounted = true) (ht : s.currentNodePaneType ≠ .inputless)
    (hmin : ({ s with appGridDimensions := d, containerWidth := n.getD d.width } : Panels).pxToRelativeWidth
      minPanelWidth ≤ s.mainPanelDimensions.relativeWidth)
    (hl : ({ s with appGridDimensions := d, containerWidth := n.getD d.width } : Panels).minimumLeftPosition ≤
      s.mainPanelDimensions.relativeLeft)
    (hr : ({ s with appGridDimensions := d, containerWidth := n.getD d.width } : Panels).maximumRightPosition ≤
      s.mainPanelDimensions.relativeRight) :
    step m s (.appGridResize d n) = { s with appGridDimensions := d, containerWidth := n.getD d.width } := by
  rw [step_appGridResize, if_pos hm]
  exact onAppGridDimensionsChange_of_settled _ m d n ht (hs.mainPanelDimensions_fills m hm ht) ⟨hmin, hl, hr⟩

/-- A viewport notification repeated with the same sizes changes nothing, once
the panel fits between the margins the first one left. -/
theorem appGridResize_idempotent (d : GridDimensions) (n : Option ℚ) (hm : s.mounted = true)
    (hc : 0 < n.getD d.width) (ht : s.currentNodePaneType ≠ .inputless)
    (hfit : (step m s (.appGridResize d n)).mainPanelDimensions.relativeWidth ≤
      1 - (step m s (.appGridResize d n)).minimumLeftPosition -
        (step m s (.appGridResize d n)).maximumRightPosition) :
    step m (step m s (.appGridResize d n)) (.appGridResize d n) = step m s (.appGridResize d n) := by
  obtain ⟨hp, hcw, hg, -, hmX, -⟩ := step_appGridResize_fields m s d n hm
  obtain ⟨s₀, x, hs₀, -⟩ := Repositions.endsInSetPositions m s (e := .appGridResize d n) hm
  have hW := ({ s with appGridDimensions := d } : Panels).onAppGridDimensionsChange_widthFloor m d n hc
  rw [← show step m s (.appGridResize d n) = _ from (step_appGridResize m s d n).trans (if_pos hm)] at hW
  generalize step m s (.appGridResize d n) = X at *
  subst hg hs₀
  have ht₀ : s₀.currentNodePaneType ≠ .inputless := by
    rwa [← setPositions_currentNodePaneType s₀ x, currentNodePaneType_congr hp]
  simp only [setPositions_minimumLeftPosition, setPositions_maximumRightPosition,
    setPositions_relativeWidth] at hfit
  obtain ⟨hl, hr⟩ := s₀.setPositions_within_margins x hfit
  rw [step_appGridResize, if_pos (hmX.trans hm)]
  exact onAppGridDimensionsChange_self (s₀.setPositions x) m hcw (by rwa [setPositions_currentNodePaneType])
    (s₀.setPositions_fills x ht₀) hW (by rwa [setPositions_minimumLeftPosition])
    (by rwa [setPositions_maximumRightPosition])

/-! ## A round trip through the vertical layout -/

/-- `s'` differs from `s` at most in its vertical position. -/
def Panels.VerticalOnly (s s' : Panels) : Prop :=
  s' = { s with mainPanelVerticalPosition := s'.mainPanelVerticalPosition }

theorem Panels.VerticalOnly.trans {s s' s'' : Panels} (h₁ : s.VerticalOnly s') (h₂ : s'.VerticalOnly s'') :
    s.VerticalOnly s'' := by
  unfold VerticalOnly at *
  rw [h₂, h₁]

theorem run_append (es es' : List Event) : run m s (es ++ es') = run m (run m s es) es' :=
  List.foldl_append _ _ _ _

/-- In the vertical layout a drag moves the vertical position and nothing else. -/
theorem step_drag_verticalOnly (p : ℚ × ℚ) (hv : s.useVerticalLayout = true) :
    s.VerticalOnly (step m s (.drag p)) := by
  rw [VerticalOnly, step_drag]
  split
  · rw [onDrag_of_vertical s p hv]
    rfl
  · rfl

theorem run_drags_verticalOnly (ps : List (ℚ × ℚ)) (hv : s.useVerticalLayout = true) :
    s.VerticalOnly (run m s (ps.map .drag)) := by
  induction ps generalizing s with
  | nil => rfl
  | cons p ps ih =>
      have h := step_drag_verticalOnly m s p hv
      exact h.trans (ih _ (h ▸ hv))

/-- Turning the device to the vertical layout, dragging there, and turning it
back to the old app grid leaves the horizontal store as it was, when the panel
is settled at both container widths. -/
theorem rotation_keeps_horizontal_store (d₁ : GridDimensions) (n₁ n₀ : Option ℚ) (ps : List (ℚ × ℚ))
    (hs : Reachable m s) (hm : s.mounted = true) (ht : s.currentNodePaneType ≠ .inputless)
    (hv : ({ s with appGridDimensions := d₁ } : Panels).useVerticalLayout = true)
    (h₁ : s.SettledAt (n₁.getD d₁.width)) (h₀ : s.SettledAt (n₀.getD s.appGridDimensions.width)) :
    (run m s (.appGridResize d₁ n₁ :: ps.map .drag ++ [.appGridResize s.appGridDimensions n₀])).ndvStore =
      s.ndvStore := by
  have hf := hs.mainPanelDimensions_fills m hm ht
  have hX₁ : step m s (.appGridResize d₁ n₁) =
      ({ s with appGridDimensions := d₁ } : Panels).withContainerWidth (n₁.getD d₁.width) := by
    rw [step_appGridResize, if_pos hm]
    exact onAppGridDimensionsChange_of_settled _ m d₁ n₁ ht hf (h₁.congr rfl rfl)
  have h₂ := run_drags_verticalOnly m
    (({ s with appGridDimensions := d₁ } : Panels).withContainerWidth (n₁.getD d₁.width)) ps hv
  rw [run_append, run_cons, run_nil, run_cons, hX₁]
  generalize run m _ (ps.map .drag) = X₂ at h₂ ⊢
  have hm₂ : X₂.mounted = true := h₂ ▸ hm
  have hp₂ : X₂.props = s.props := h₂ ▸ rfl
  have hd₂ : X₂.mainPanelDimensions = s.mainPanelDimensions := h₂ ▸ rfl
  have ht₂ : X₂.currentNodePaneType ≠ .inputless := by rwa [currentNodePaneType_congr hp₂]
  rw [step_appGridResize, if_pos hm₂, onAppGridDimensionsChange_of_settled
    ({ X₂ with appGridDimensions := s.appGridDimensions } : Panels) m _ n₀ ht₂ (hd₂ ▸ hf) (h₀.congr hp₂ hd₂)]
  show X₂.ndvStore = s.ndvStore
  rw [h₂]
  rfl

/-- From 620 px on, the half-width panel is settled. -/
theorem halfMount_settledAt {w : ℚ} (hw : 620 ≤ w) : halfMount.SettledAt w := by
  obtain ⟨hp, -, -, -, hd⟩ := halfMount_fields
  have hslot : (halfMount.withContainerWidth w).props.hasInputSlot = true := by
    rw [show (halfMount.withContainerWidth w).props = halfMount.props from rfl, hp]
    rfl
  have hcw : (halfMount.withContainerWidth w).containerWidth = w := rfl
  have hw' : ¬ (halfMount.withContainerWidth w).containerWidth < minWindowWidth := by
    rw [hcw]
    norm_num
    linarith
  have hpos : (0 : ℚ) < w := by linarith
  refine ⟨?_, ?_, ?_⟩
  · rw [hd, pxToRelativeWidth, hcw, div_le_iff₀ hpos]
    norm_num
    linarith
  · rw [minimumLeftPosition_eq_of_hasInputSlot _ hw' hslot, hd, hcw, div_le_iff₀ hpos]
    norm_num
    linarith
  · rw [maximumRightPosition_eq _ hw', hd, hcw, div_le_iff₀ hpos]
    norm_num
    linarith

/-- The half-width panel turned to a 700 × 1000 portrait window, dragged down
and up there, and turned back. -/
theorem rotation_keeps_horizontal_store_of_half :
    Reachable 360 halfMount ∧ halfMount.mounted = true ∧ halfMount.currentNodePaneType ≠ .inputless ∧
      ({ halfMount with appGridDimensions := ⟨700, 1000⟩ } : Panels).useVerticalLayout = true ∧
      halfMount.SettledAt ((none : Option ℚ).getD (⟨700, 1000⟩ : GridDimensions).width) ∧
      halfMount.SettledAt ((none : Option ℚ).getD halfMount.appGridDimensions.width) ∧
      (run 360 halfMount (.appGridResize ⟨700, 1000⟩ none :: [(350, 800), (350, 200)].map .drag ++
        [.appGridResize halfMount.appGridDimensions none])).ndvStore = halfMount.ndvStore := by
  obtain ⟨-, hm, -, hg, -⟩ := halfMount_fields
  have ht := halfMount_ne_inputless
  have hv : ({ halfMount with appGridDimensions := ⟨700, 1000⟩ } : Panels).useVerticalLayout = true := by
    rw [useVerticalLayout_eq_true_iff]
    norm_num
  have h₁ : halfMount.SettledAt ((none : Option ℚ).getD (⟨700, 1000⟩ : GridDimensions).width) :=
    halfMount_settledAt (by norm_num)
  have h₀ : halfMount.SettledAt ((none : Option ℚ).getD halfMount.appGridDimensions.width) := by
    rw [hg]
    exact halfMount_settledAt (by norm_num)
  exact ⟨halfMount_reachable, hm, ht, hv, h₁, h₀,
    rotation_keeps_horizontal_store 360 halfMount _ _ _ _ halfMount_reachable hm ht hv h₁ h₀⟩

/-- At 1200 px the half-width panel is wide enough and between the margins of 124 px. -/
theorem halfMount_settled_at_1200 :
    ({ halfMount with appGridDimensions := ⟨1200, 800⟩, containerWidth := 1200 } : Panels).pxToRelativeWidth
        minPanelWidth ≤ halfMount.mainPanelDimensions.relativeWidth ∧
      ({ halfMount with appGridDimensions := ⟨1200, 800⟩, containerWidth := 1200 } : Panels).minimumLeftPosition ≤
        halfMount.mainPanelDimensions.relativeLeft ∧
      ({ halfMount with appGridDimensions := ⟨1200, 800⟩, containerWidth := 1200 } : Panels).maximumRightPosition ≤
        halfMount.mainPanelDimensions.relativeRight :=
  have h : ({ halfMount with appGridDimensions := ⟨1200, 800⟩, containerWidth := 1200 } : Panels).SettledAt 1200 :=
    (halfMount_settledAt (by norm_num)).congr rfl rfl
  ⟨h.wide, h.left, h.right⟩

/-- Widening the window of the half-width panel to 1200 px only records the new sizes. -/
theorem step_appGridResize_of_settled_after_mount :
    Reachable 360 halfMount ∧ halfMount.mounted = true ∧ halfMount.currentNodePaneType ≠ .inputless ∧
      ({ halfMount with appGridDimensions := ⟨1200, 800⟩, containerWidth := 1200 } : Panels).pxToRelativeWidth
          minPanelWidth ≤ halfMount.mainPanelDimensions.relativeWidth ∧
      ({ halfMount with appGridDimensions := ⟨1200, 800⟩, containerWidth := 1200 } : Panels).minimumLeftPosition ≤
        halfMount.mainPanelDimensions.relativeLeft ∧
      ({ halfMount with appGridDimensions := ⟨1200, 800⟩, containerWidth := 1200 } : Panels).maximumRightPosition ≤
        halfMount.mainPanelDimensions.relativeRight ∧
      step 360 halfMount (.appGridResize ⟨1200, 800⟩ none) =
        { halfMount with appGridDimensions := ⟨1200, 800⟩, containerWidth := 1200 } :=
  have hm := halfMount_fields.2.1
  have ⟨hmin, hl, hr⟩ := halfMount_settled_at_1200
  ⟨halfMount_reachable, hm, halfMount_ne_inputless, hmin, hl, hr,
    step_appGridResize_of_settled 360 halfMount ⟨1200, 800⟩ none halfMount_reachable hm halfMount_ne_inputless
      hmin hl hr⟩

theorem halfMount_widened :
    step 360 halfMount (.appGridResize ⟨1200, 800⟩ none) =
      { halfMount with appGridDimensions := ⟨1200, 800⟩, containerWidth := 1200 } := by
  obtain ⟨-, hm, -, -, hd⟩ := halfMount_fields
  obtain ⟨hmin, hl, hr⟩ := halfMount_settled_at_1200
  have hf : halfMount.mainPanelDimensions.Fills := by
    rw [MainPanelDimensions.Fills, hd]
    norm_num
  rw [step_appGridResize, if_pos hm]
  exact onAppGridDimensionsChange_of_settled _ 360 _ none halfMount_ne_inputless hf ⟨hmin, hl, hr⟩

/-- Widening the window of the half-width panel to 1200 px twice. -/
theorem appGridResize_idempotent_after_mount :
    halfMount.mounted = true ∧ 0 < (none : Option ℚ).getD (⟨1200, 800⟩ : GridDimensions).width ∧
      halfMount.currentNodePaneType ≠ .inputless ∧
      (step 360 halfMount (.appGridResize ⟨1200, 800⟩ none)).mainPanelDimensions.relativeWidth ≤
        1 - (step 360 halfMount (.appGridResize ⟨1200, 800⟩ none)).minimumLeftPosition -
          (step 360 halfMount (.appGridResize ⟨1200, 800⟩ none)).maximumRightPosition ∧
      step 360 (step 360 halfMount (.appGridResize ⟨1200, 800⟩ none)) (.appGridResize ⟨1200, 800⟩ none) =
        step 360 halfMount (.appGridResize ⟨1200, 800⟩ none) := by
  obtain ⟨-, hm, -, -, hd⟩ := halfMount_fields
  obtain ⟨-, hl, hr⟩ := halfMount_settled_at_1200
  have ht := halfMount_ne_inputless
  have hc : 0 < (none : Option ℚ).getD (⟨1200, 800⟩ : GridDimensions).width := by norm_num
  have hfit : (step 360 halfMount (.appGridResize ⟨1200, 800⟩ none)).mainPanelDimensions.relativeWidth ≤
      1 - (step 360 halfMount (.appGridResize ⟨1200, 800⟩ none)).minimumLeftPosition -
        (step 360 halfMount (.appGridResize ⟨1200, 800⟩ none)).maximumRightPosition := by
    rw [halfMount_widened, show ({ halfMount with appGridDimensions := ⟨1200, 800⟩, containerWidth := 1200 } :
      Panels).mainPanelDimensions = halfMount.mainPanelDimensions from rfl, hd]
    rw [hd] at hl hr
    dsimp only at hl hr ⊢
    linarith
  exact ⟨hm, hc, ht, hfit, appGridResize_idempotent 360 halfMount ⟨1200, 800⟩ none hm hc ht hfit⟩

end NdvLayout
