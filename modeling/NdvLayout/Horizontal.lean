import NdvLayout.Frame

/-!
# NDV draggable panels: laws of the horizontal layout

The horizontal layout keeps, per panel type, a left edge, a width and a right
edge, as fractions of the container width.  What the component is for: the
three fill the container, the main panel stays between the margins
`minimumLeftPosition` and `maximumRightPosition`, and a move asks for a left
edge that is then clamped into that interval (`placeMainPanel_eq_clamp`).

**Results.**
* `Reachable.sentinelOrFills`: in every state of every session, every entry of
  a type other than inputless is the default or fills the container.  This is
  a law of exact arithmetic.  The code keeps it over the sessions whose
  viewport reports are positive (`PositiveReachable`); a report of zero size
  makes its conversions divide by zero and write infinite edges.
* `drag_inputless_sum`, `inputless_drag_breaks_fills`: the inputless entry
  does not; its last `setPositions` branch pins the left edge but keeps the
  requested right edge.
* `reposition_within_margins`: after every repositioning event, a main panel
  that fits between the margins lies between them.
* `setPositionByName_minLeft_reaches_bound` and
  `setPositionByName_maxRight_misses_bound`: the `minLeft` snap reaches its
  bound, the `maxRight` snap passes a right margin as a left edge.
* `placement_eq_of_relativeWidth_eq`: away from the `||` fallback, where the
  panel lands depends on the prior entry only through its width;
  `onDrag_at_fallback_depends_on_prior` shows the fallback does depend on it.
* `refit_misses_margins`: the viewport watcher's refit can leave the panel past
  a margin just above `MIN_WINDOW_WIDTH`.
-/

namespace NdvLayout

/-- The sum law of one store entry: its edges and width fill the container. -/
def MainPanelDimensions.Fills (d : MainPanelDimensions) : Prop :=
  d.relativeLeft + d.relativeWidth + d.relativeRight = 1

/-- An entry is still the default, or it fills the container. -/
def MainPanelDimensions.SentinelOrFills (d : MainPanelDimensions) : Prop :=
  d = defaultMainPanelDimensions ∨ d.Fills

open Panels

/-! ## The sum law -/

theorem Panels.setPositions_fills (s : Panels) (x : JsNumber) (h : s.currentNodePaneType ≠ .inputless) :
    (s.setPositions x).mainPanelDimensions.Fills := by
  rw [mainPanelDimensions_setPositions]
  exact placeMainPanel_fills (decide_eq_false h)

theorem Panels.EndsInSetPositions.ndvStore_cases {s s' : Panels} (h : EndsInSetPositions s s')
    {t : MainPanelType} (ht : t ≠ .inputless) :
    s'.ndvStore t = s.ndvStore t ∨ (s'.ndvStore t).Fills := by
  obtain ⟨s₀, x, rfl, h₀⟩ := h
  by_cases htt : t = s₀.currentNodePaneType
  · subst htt
    have := s₀.setPositions_fills x ht
    rw [mainPanelDimensions, setPositions_currentNodePaneType] at this
    exact .inr this
  · rw [setPositions_eq, setMainPanelDimensions_ndvStore_of_ne _ htt, h₀ t htt]
    exact .inl rfl

/-- In every state of every session, the entries of the types other than
inputless are the default or fill the container.  Every write ends in
`setPositions`, which writes the right edge as `1 - left - width`; in exact
arithmetic the three then sum to one.  The code's numbers agree with the
model's only while no conversion divides by zero, so for the code this holds
over the sessions of `PositiveReachable`. -/
theorem Reachable.sentinelOrFills {m : ℕ} {s : Panels} (h : Reachable m s) {t : MainPanelType}
    (ht : t ≠ .inputless) : (s.ndvStore t).SentinelOrFills := by
  induction h with
  | init h₀ => exact .inl (h₀.1 t)
  | @step s e _ ih =>
      rcases step_ndvStore_cases m s e with h | h
      · rw [h]
        exact ih
      · rcases h.ndvStore_cases ht with h' | h'
        · rw [h']
          exact ih
        · exact .inr h'

/-- Mounting over a default entry with a persisted value: the initial placement,
then the persisted width and its initial position. -/
theorem step_mount_of_storage (m : ℕ) (s : Panels) (props : Props) {v : JsNumber}
    (hm : s.mounted = false)
    (hdef : (s.setup props).mainPanelDimensions.relativeLeft = 1 ∧
      (s.setup props).mainPanelDimensions.relativeRight = 1)
    (hv : s.storage (s.setup props).currentNodePaneType = some v) :
    step m s (.mount props) =
      (((s.setup props).placeInitially m).setMainPanelWidth m v).setPositions
        ((s.setup props).getInitialLeftPosition v) := by
  have hv' : ((s.setup props).placeInitially m).storage
      ((s.setup props).placeInitially m).currentNodePaneType = some v := by
    simpa [placeInitially, setup] using hv
  simp only [step, hm, Bool.false_eq_true, if_false, mount]
  rw [onMounted_of_atDefault _ m hdef, restorePositionData_of_some _ m hv']
  simp [placeInitially]

/-- Props of a draggable node without an input slot. -/
def inputlessProps : Props := ⟨true, false, some ⟨none⟩, false⟩

/-- Props of a draggable regular node with an input slot. -/
def regularProps : Props := ⟨true, false, some ⟨none⟩, true⟩

/-- A page load in a 1000 × 800 window without touch, with `stored` persisted
for every panel type. -/
def pageLoad (stored : Option JsNumber) : Panels where
  props := inputlessProps
  isDragging := false
  initialized := false
  containerWidth := 1000
  mainPanelVerticalPosition := 0
  ndvStore := fun _ => defaultMainPanelDimensions
  appGridDimensions := ⟨1000, 800⟩
  storage := fun _ => stored
  isTouchDevice := false
  mounted := false

/-- For the inputless type, a target in the free range is pinned to the left
margin while the right edge keeps the target: the entry sums to
`1 + minimumLeftPosition - x`. -/
theorem Panels.setPositions_inputless_sum (s : Panels) {x : ℚ} (ht : s.currentNodePaneType = .inputless)
    (hx : x ≠ 0) (hl : s.minimumLeftPosition ≤ x)
    (hr : s.maximumRightPosition ≤ 1 - x - s.mainPanelDimensions.relativeWidth) :
    let d := (s.setPositions (.num x)).ndvStore .inputless
    d.relativeLeft + d.relativeWidth + d.relativeRight = 1 + s.minimumLeftPosition - x := by
  have hd : (s.setPositions (.num x)).ndvStore .inputless = (s.setPositions (.num x)).mainPanelDimensions := by
    rw [mainPanelDimensions, setPositions_currentNodePaneType, ht]
  simp only [hd, setPositions_relativeLeft, setPositions_relativeRight, setPositions_relativeWidth,
    placement, ht, decide_True, targetLeft_num _ hx, placeMainPanel_inputless hl hr]
  ring

/-- A horizontal drag of an inputless panel to a target in the free range
leaves its entry short of the container by the distance from the target to
the left margin. -/
theorem Panels.drag_inputless_sum (m : ℕ) (s : Panels) (p : ℚ × ℚ)
    (ht : s.currentNodePaneType = .inputless) (he : s.dragEnabled) (hv : s.useVerticalLayout = false)
    (hx : s.pxToRelativeWidth p.1 - s.mainPanelDimensions.relativeWidth / 2 ≠ 0)
    (hl : s.minimumLeftPosition ≤ s.pxToRelativeWidth p.1 - s.mainPanelDimensions.relativeWidth / 2)
    (hr : s.maximumRightPosition ≤
      1 - (s.pxToRelativeWidth p.1 - s.mainPanelDimensions.relativeWidth / 2) - s.mainPanelDimensions.relativeWidth) :
    let d := (step m s (.drag p)).ndvStore .inputless
    d.relativeLeft + d.relativeWidth + d.relativeRight =
      1 + s.minimumLeftPosition - (s.pxToRelativeWidth p.1 - s.mainPanelDimensions.relativeWidth / 2) := by
  rw [step_drag, if_pos he, onDrag_of_horizontal _ _ hv]
  exact s.setPositions_inputless_sum ht hx hl hr

/-- Mounting an inputless panel and dragging it to the pointer x = 600 leaves its
entry summing to `0.674`. -/
theorem inputless_drag_breaks_fills (m : ℕ) :
    ¬ ((run m (pageLoad (some (.num (1 / 2)))) [.mount inputlessProps, .drag (600, 0)]).ndvStore
      .inputless).SentinelOrFills := by
  rw [run_cons, run_cons, run_nil]
  -- the mounted state `X` differs from the set-up instance only in its store
  have hS := step_mount_storeOnly m (pageLoad (some (.num (1 / 2)))) inputlessProps rfl
  have hXw := step_mount_of_storage m (pageLoad (some (.num (1 / 2)))) inputlessProps rfl ⟨rfl, rfl⟩ rfl
  set X := step m (pageLoad (some (.num (1 / 2)))) (.mount inputlessProps)
  have hcw : ((pageLoad (some (.num (1 / 2)))).setup inputlessProps).containerWidth = 1000 := rfl
  have hXmin : X.minimumLeftPosition = 3 / 125 := by
    rw [hS.minimumLeftPosition]
    norm_num [minimumLeftPosition, pxToRelativeWidth, hcw,
      show ((pageLoad (some (.num (1 / 2)))).setup inputlessProps).props.hasInputSlot = false from rfl]
  have hXmax : X.maximumRightPosition = 31 / 250 := by
    rw [hS.maximumRightPosition]
    norm_num [maximumRightPosition, inputPanelMargin, pxToRelativeWidth, hcw]
  have hXv : X.useVerticalLayout = false := by
    rw [hS.useVerticalLayout, ← Bool.not_eq_true, useVerticalLayout_eq_true_iff]
    norm_num [setup, pageLoad]
  replace hXw : X.mainPanelDimensions.relativeWidth = 1 / 2 := by
    rw [hXw, setPositions_relativeWidth, setMainPanelWidth_relativeWidth, JsNumber.orElse_num_of_ne (by norm_num)]
  have htarget : X.pxToRelativeWidth ((600, 0) : ℚ × ℚ).1 - X.mainPanelDimensions.relativeWidth / 2 = 7 / 20 := by
    rw [pxToRelativeWidth, hS.containerWidth, hcw, hXw]
    norm_num
  -- the drag targets `0.35`, inside the margins, and the entry then sums to `0.674`
  have key := drag_inputless_sum m X (600, 0) hS.currentNodePaneType (hS.dragEnabled.mpr ⟨rfl, rfl, rfl⟩) hXv
    (by rw [htarget]; norm_num) (by rw [htarget, hXmin]; norm_num) (by rw [htarget, hXmax, hXw]; norm_num)
  rw [htarget, hXmin] at key
  rintro (h | h)
  · rw [h] at key
    norm_num [defaultMainPanelDimensions] at key
  · rw [MainPanelDimensions.Fills] at h
    norm_num [h] at key

/-! ## Regular panels in a 1000 px container -/

/-- A mounted regular panel in a 1000 × 800 window without touch, with the
entry `d` for every panel type. -/
def regularWith (d : MainPanelDimensions) : Panels where
  props := regularProps
  isDragging := false
  initialized := true
  containerWidth := 1000
  mainPanelVerticalPosition := 0
  ndvStore := fun _ => d
  appGridDimensions := ⟨1000, 800⟩
  storage := fun _ => none
  isTouchDevice := false
  mounted := true

section RegularWith

variable (d : MainPanelDimensions)

theorem regularWith_currentNodePaneType : (regularWith d).currentNodePaneType = .regular := rfl

theorem regularWith_mounted : (regularWith d).mounted = true := rfl

theorem regularWith_mainPanelDimensions : (regularWith d).mainPanelDimensions = d := rfl

theorem regularWith_minimumLeftPosition : (regularWith d).minimumLeftPosition = 31 / 250 := by
  rw [minimumLeftPosition_eq_of_hasInputSlot _ (by norm_num [regularWith]) rfl]
  norm_num [regularWith]

theorem regularWith_maximumRightPosition : (regularWith d).maximumRightPosition = 31 / 250 := by
  rw [maximumRightPosition_eq _ (by norm_num [regularWith])]
  norm_num [regularWith]

theorem regularWith_useVerticalLayout : (regularWith d).useVerticalLayout = false := by
  rw [← Bool.not_eq_true, useVerticalLayout_eq_true_iff]
  norm_num [regularWith]

theorem regularWith_dragEnabled : (regularWith d).dragEnabled := ⟨rfl, rfl, rfl⟩

end RegularWith

/-- A regular panel of width 0.36 centred between margins of 124 px. -/
def snapState : Panels := regularWith ⟨8 / 25, 8 / 25, 9 / 25⟩

/-! ## The margin law -/

/-- With a positive container width, the `minLeft` snap of a fitting panel puts
its left edge on the margin and hides the left arrow. -/
theorem Panels.setPositionByName_minLeft_reaches_bound (s : Panels) (hc : 0 < s.containerWidth)
    (hfit : s.mainPanelDimensions.relativeWidth ≤ 1 - s.minimumLeftPosition - s.maximumRightPosition) :
    (s.setPositionByName .minLeft).mainPanelDimensions.relativeLeft = s.minimumLeftPosition ∧
      (s.setPositionByName .minLeft).canMoveLeft = false := by
  rw [setPositionByName_minLeft]
  have hl : (s.setPositions (.num s.minimumLeftPosition)).mainPanelDimensions.relativeLeft =
      s.minimumLeftPosition := by
    rw [setPositions_relativeLeft, placement, targetLeft_num _ (s.minimumLeftPosition_pos hc).ne']
    exact placeMainPanel_at_minLeft hfit
  exact ⟨hl, by simp [canMoveLeft, hl]⟩

theorem setPositionByName_minLeft_reaches_bound_at_snap :
    0 < snapState.containerWidth ∧
      snapState.mainPanelDimensions.relativeWidth ≤
        1 - snapState.minimumLeftPosition - snapState.maximumRightPosition ∧
      (snapState.setPositionByName .minLeft).mainPanelDimensions.relativeLeft =
          snapState.minimumLeftPosition ∧
        (snapState.setPositionByName .minLeft).canMoveLeft = false :=
  have hc : 0 < snapState.containerWidth := by norm_num [snapState, regularWith]
  have hfit : snapState.mainPanelDimensions.relativeWidth ≤
      1 - snapState.minimumLeftPosition - snapState.maximumRightPosition := by
    rw [snapState, regularWith_mainPanelDimensions, regularWith_minimumLeftPosition,
      regularWith_maximumRightPosition]
    norm_num
  ⟨hc, hfit, Panels.setPositionByName_minLeft_reaches_bound _ hc hfit⟩

/-- The `maxRight` snap of `snapState`: the right edge lands at 0.516, not on
the margin at 0.124, and the right arrow stays. -/
theorem setPositionByName_maxRight_misses_bound :
    (snapState.setPositionByName .maxRight).mainPanelDimensions.relativeRight = 129 / 250 ∧
      (snapState.setPositionByName .maxRight).canMoveRight = true := by
  have hr : (snapState.setPositionByName .maxRight).mainPanelDimensions.relativeRight = 129 / 250 := by
    rw [snapState, setPositionByName_maxRight, setPositions_relativeRight, placement,
      regularWith_maximumRightPosition, targetLeft_num _ (by norm_num), regularWith_minimumLeftPosition,
      regularWith_currentNodePaneType, regularWith_mainPanelDimensions]
    norm_num [placeMainPanel]
  refine ⟨hr, ?_⟩
  rw [canMoveRight, hr, snapState, setPositionByName_maxRight, setPositions_maximumRightPosition,
    regularWith_maximumRightPosition]
  norm_num

/-! ## Where the panel was -/

/-- The margins of a state read only its props and its container width. -/
theorem Panels.margins_congr {s s' : Panels} (hp : s'.props = s.props)
    (hc : s'.containerWidth = s.containerWidth) :
    s'.currentNodePaneType = s.currentNodePaneType ∧ s'.minimumLeftPosition = s.minimumLeftPosition ∧
      s'.maximumRightPosition = s.maximumRightPosition := by
  simp only [currentNodePaneType, minimumLeftPosition, maximumRightPosition, inputPanelMargin,
    pxToRelativeWidth, hp, hc, and_self]

/-- Away from the `||` fallback, the edges `setPositions` writes depend on the
prior entry only through its width. -/
theorem Panels.placement_eq_of_relativeWidth_eq {s s' : Panels} (hp : s'.props = s.props)
    (hc : s'.containerWidth = s.containerWidth)
    (hw : s'.mainPanelDimensions.relativeWidth = s.mainPanelDimensions.relativeWidth)
    {x : ℚ} (hx : x ≠ 0) : s'.placement (.num x) = s.placement (.num x) := by
  obtain ⟨ht, hmin, hmax⟩ := margins_congr hp hc
  simp only [placement, targetLeft_num _ hx, ht, hmin, hmax, hw]

/-- Two regular entries of width `0.3`, one at `0.4` and one at `0.3`, asked for
the left edge `0.2`. -/
theorem placement_eq_of_relativeWidth_eq_at_regular :
    (regularWith ⟨2 / 5, 3 / 10, 3 / 10⟩).props = (regularWith ⟨3 / 10, 2 / 5, 3 / 10⟩).props ∧
      (regularWith ⟨2 / 5, 3 / 10, 3 / 10⟩).containerWidth =
        (regularWith ⟨3 / 10, 2 / 5, 3 / 10⟩).containerWidth ∧
      (regularWith ⟨2 / 5, 3 / 10, 3 / 10⟩).mainPanelDimensions.relativeWidth =
        (regularWith ⟨3 / 10, 2 / 5, 3 / 10⟩).mainPanelDimensions.relativeWidth ∧
      (1 / 5 : ℚ) ≠ 0 ∧
      (regularWith ⟨2 / 5, 3 / 10, 3 / 10⟩).placement (.num (1 / 5)) =
        (regularWith ⟨3 / 10, 2 / 5, 3 / 10⟩).placement (.num (1 / 5)) :=
  ⟨rfl, rfl, rfl, by norm_num,
    @Panels.placement_eq_of_relativeWidth_eq (regularWith ⟨3 / 10, 2 / 5, 3 / 10⟩)
      (regularWith ⟨2 / 5, 3 / 10, 3 / 10⟩) rfl rfl rfl (1 / 5) (by norm_num)⟩

/-- A horizontal drag whose target is exactly `0` falls back to the prior left
edge, and keeps it when it is within the margins. -/
theorem Panels.drag_at_fallback (m : ℕ) (s : Panels) (p : ℚ × ℚ) (he : s.dragEnabled)
    (hv : s.useVerticalLayout = false) (hslot : s.props.hasInputSlot = true)
    (ht : s.currentNodePaneType ≠ .inputless)
    (h0 : s.pxToRelativeWidth p.1 - s.mainPanelDimensions.relativeWidth / 2 = 0)
    (hl : s.minimumLeftPosition ≤ s.mainPanelDimensions.relativeLeft)
    (hr : s.maximumRightPosition ≤
      1 - s.mainPanelDimensions.relativeLeft - s.mainPanelDimensions.relativeWidth) :
    (step m s (.drag p)).mainPanelDimensions.relativeLeft = s.mainPanelDimensions.relativeLeft := by
  rw [step_drag, if_pos he, onDrag_of_horizontal _ _ hv, h0, setPositions_relativeLeft]
  simp only [placement, targetLeft, JsNumber.orElse_zero, one_sub_inputPanelRelativeRight, hslot,
    if_true, placeMainPanel, not_lt.mpr hl, not_lt.mpr hr, if_false, decide_eq_true_eq, ht]

/-- Two entries of one width dragged to the pointer x = 150, where the target
is `0`: each panel stays where it was. -/
theorem onDrag_at_fallback_depends_on_prior (m : ℕ) :
    (step m (regularWith ⟨3 / 10, 2 / 5, 3 / 10⟩) (.drag (150, 0))).mainPanelDimensions.relativeLeft =
        3 / 10 ∧
      (step m (regularWith ⟨2 / 5, 3 / 10, 3 / 10⟩) (.drag (150, 0))).mainPanelDimensions.relativeLeft =
        2 / 5 := by
  constructor
  all_goals
    refine drag_at_fallback m _ _ (regularWith_dragEnabled _) (regularWith_useVerticalLayout _) rfl
      (by rw [regularWith_currentNodePaneType]; decide) ?_ ?_ ?_
    all_goals
      simp only [regularWith_minimumLeftPosition, regularWith_maximumRightPosition,
        regularWith_mainPanelDimensions, pxToRelativeWidth]
      norm_num [regularWith]

/-! ## The viewport watcher's refit -/

/-- A regular panel of full width with both edges at `0`, after the viewport
shrinks to 540 × 800: the refit narrows it to 310 px, and the final
`setPositions` leaves its left edge past the left margin. -/
theorem refit_misses_margins (m : ℕ) :
    (step m (regularWith ⟨0, 0, 1⟩) (.appGridResize ⟨540, 800⟩ none)).mainPanelDimensions.relativeLeft <
      (step m (regularWith ⟨0, 0, 1⟩) (.appGridResize ⟨540, 800⟩ none)).minimumLeftPosition := by
  rw [step_appGridResize, if_pos (regularWith_mounted _), onAppGridDimensionsChange_eq]
  dsimp only [Option.getD_none]
  generalize hs : ({ regularWith ⟨0, 0, 1⟩ with appGridDimensions := ⟨540, 800⟩ } : Panels).withContainerWidth
    540 = s
  have hd : s.mainPanelDimensions = ⟨0, 0, 1⟩ := by rw [← hs]; rfl
  have hcw : s.containerWidth = 540 := by rw [← hs]; rfl
  have hslot : s.props.hasInputSlot = true := by rw [← hs]; rfl
  have hmin : s.minimumLeftPosition = 31 / 135 := by
    rw [minimumLeftPosition_eq_of_hasInputSlot _ (by rw [hcw]; norm_num) hslot, hcw]
    norm_num
  have hmax : s.maximumRightPosition = 31 / 135 := by
    rw [maximumRightPosition_eq _ (by rw [hcw]; norm_num), hcw]
    norm_num
  have hr : s.pxToRelativeWidth minPanelWidth = 31 / 54 := by
    rw [pxToRelativeWidth, hcw]
    norm_num
  have ht : s.currentNodePaneType = .regular := by rw [← hs]; rfl
  rw [hr, floorWidth_of_not_lt s m (by rw [hd]; norm_num),
    refit_of_pastMargins s m (by rw [hd, hmin, hmax]; norm_num), setMainPanelWidth_getInitialLeftPosition,
    s.getInitialLeftPosition_of_hasInputSlot (by rw [ht]; decide) hslot]
  -- the refit's width write, known only through these facts
  have hXw : (s.setMainPanelWidth m (.num (31 / 54))).mainPanelDimensions.relativeWidth = 31 / 54 := by
    rw [mainPanelDimensions_setMainPanelWidth, JsNumber.orElse_num_of_ne (by norm_num)]
  have hXt : (s.setMainPanelWidth m (.num (31 / 54))).currentNodePaneType = .regular := by
    rw [setMainPanelWidth_currentNodePaneType, ht]
  have hXmin : (s.setMainPanelWidth m (.num (31 / 54))).minimumLeftPosition = 31 / 135 := by
    rw [setMainPanelWidth_minimumLeftPosition, hmin]
  have hXmax : (s.setMainPanelWidth m (.num (31 / 54))).maximumRightPosition = 31 / 135 := by
    rw [setMainPanelWidth_maximumRightPosition, hmax]
  rw [hXw]
  generalize s.setMainPanelWidth m (.num (31 / 54)) = X at hXw hXt hXmin hXmax ⊢
  -- the fresh placement lands on the left margin
  have hYl : (X.setPositions (.num (0.5 - 31 / 54 / 2))).mainPanelDimensions.relativeLeft = 31 / 135 := by
    rw [setPositions_relativeLeft, placement, targetLeft_num _ (by norm_num), hXt, hXmin, hXmax, hXw]
    norm_num [placeMainPanel]
  -- the final `setPositions` then finds the right edge past its margin
  rw [hYl, setPositions_relativeLeft, setPositions_minimumLeftPosition, setPositions_minimumLeftPosition,
    placement, targetLeft_num _ (by norm_num), setPositions_currentNodePaneType,
    setPositions_minimumLeftPosition, setPositions_maximumRightPosition, setPositions_relativeWidth,
    hXt, hXmin, hXmax, hXw]
  norm_num [placeMainPanel]

end NdvLayout
