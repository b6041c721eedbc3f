import NdvLayout.Resize

/-!
# NDV draggable panels: where the panel opens

`getInitialLeftPosition` gives a panel with an input slot, other than
dragless, the left edge `0.5 - width / 2`.  When the container is at least
`MIN_WINDOW_WIDTH` wide the two margins are equal, so whenever that panel fits
between them `setPositions` leaves the two edges equal: the panel is centred.
Two code paths ask for that position:

* the first opening of a panel type, when its store entry is still the
  default and nothing is persisted for it (`onMounted`);
* the `initial` snap of `ndvEventBus` (`setPositionByName`).

Drags move the panel but keep its width, so the snap brings a dragged panel
back to the centre it opened at.  A dragless panel opens instead just right of
the fixed input panel, `SIDE_MARGIN + 1 + fixedPanelWidth` pixels from the
left edge, at the main node panel width.  Every named snap asks for a left edge
that a snap does not move, so sending one twice is sending it once.

A reopening is not a first opening: the store entry outlives the instance, and
`onMounted` leaves an entry that is no longer the default alone.  So a user who
opens a node of another type and comes back finds the first panel as it was.

**Results.**
* `first_open_centred`: the first opening centres the panel at its initial width.
* `initial_snap_recentres`: after any drags, the `initial` snap centres the
  panel at the width it had before them.
* `first_open_dragless`: where the dragless panel opens, in pixels.
* `snap_idempotent`: a named snap sent twice acts once.
* `switch_node_and_back`: opening a node of another type, working there and
  coming back finds the first node's panel where it was.
-/

namespace NdvLayout

open Panels

namespace Panels

variable (s : Panels)

/-- With an input slot and a container at least `MIN_WINDOW_WIDTH` wide, the
two margins are equal. -/
theorem minimumLeftPosition_eq_maximumRightPosition (hw : ¬ s.containerWidth < minWindowWidth)
    (hslot : s.props.hasInputSlot = true) : s.minimumLeftPosition = s.maximumRightPosition := by
  rw [minimumLeftPosition_eq_of_hasInputSlot s hw hslot, maximumRightPosition_eq s hw]

/-- Outside the inputless type, a left edge between the margins is where
`setPositions` puts the panel. -/
theorem setPositions_of_within {x : ℚ} (ht : s.currentNodePaneType ≠ .inputless) (hc : 0 < s.containerWidth)
    (hl : s.minimumLeftPosition ≤ x) (hr : s.maximumRightPosition ≤ 1 - x - s.mainPanelDimensions.relativeWidth) :
    (s.setPositions (.num x)).mainPanelDimensions =
      ⟨x, 1 - x - s.mainPanelDimensions.relativeWidth, s.mainPanelDimensions.relativeWidth⟩ := by
  rw [mainPanelDimensions_setPositions, placement, targetLeft_num _ (lt_of_lt_of_le (s.minimumLeftPosition_pos hc) hl).ne',
    decide_eq_false ht]
  simp only [placeMainPanel, gt_iff_lt, not_lt.mpr hl, not_lt.mpr hr, if_false, Bool.false_eq_true]

/-- Asked for its initial position, a panel with an input slot, other than
dragless, that fits between the margins is centred at its width. -/
theorem setPositions_initial_centred (ht : s.currentNodePaneType ≠ .inputless)
    (hd : s.currentNodePaneType ≠ .dragless) (hw : ¬ s.containerWidth < minWindowWidth)
    (hfit : s.mainPanelDimensions.relativeWidth ≤ 1 - s.minimumLeftPosition - s.maximumRightPosition) :
    (s.setPositions (s.getInitialLeftPosition (.num s.mainPanelDimensions.relativeWidth))).mainPanelDimensions =
      ⟨(1 - s.mainPanelDimensions.relativeWidth) / 2, (1 - s.mainPanelDimensions.relativeWidth) / 2,
        s.mainPanelDimensions.relativeWidth⟩ := by
  have hm := s.minimumLeftPosition_eq_maximumRightPosition hw (hasInputSlot_of_ne_inputless ht)
  rw [getInitialLeftPosition_of_hasInputSlot s hd (hasInputSlot_of_ne_inputless ht),
    s.setPositions_of_within ht (lt_of_lt_of_le (by norm_num) (not_lt.mp hw)) (by linarith) (by linarith)]
  congr 1 <;> ring

/-- The left edge `getInitialLeftPosition` gives is a number other than `0`, so
`setPositions` takes it as it is, unless the width is the whole container. -/
theorem getInitialLeftPosition_eq_num (hc : 0 < s.containerWidth) {w : ℚ} (hw : w ≠ 1) :
    ∃ x, x ≠ 0 ∧ s.getInitialLeftPosition (.num w) = .num x := by
  unfold getInitialLeftPosition
  split_ifs
  · refine ⟨_, (s.pxToRelativeWidth_pos ?_ hc).ne', rfl⟩
    have := s.fixedPanelWidth_pos
    simp only [sideMargin]
    linarith
  · exact ⟨0.5 - w / 2, fun h => hw (by linarith), rfl⟩
  · exact ⟨_, (s.minimumLeftPosition_pos hc).ne', rfl⟩

/-- A named snap applied to its own result changes nothing. -/
theorem setPositionByName_setPositionByName (p : PositionName) (hc : 0 < s.containerWidth)
    (hw : s.mainPanelDimensions.relativeWidth ≠ 1) :
    (s.setPositionByName p).setPositionByName p = s.setPositionByName p := by
  cases p with
  | minLeft =>
      rw [setPositionByName_minLeft, setPositionByName_minLeft, setPositions_minimumLeftPosition,
        setPositions_setPositions s (s.minimumLeftPosition_pos hc).ne']
  | maxRight =>
      rw [setPositionByName_maxRight, setPositionByName_maxRight, setPositions_maximumRightPosition,
        setPositions_setPositions s (s.maximumRightPosition_pos hc).ne']
  | initial =>
      obtain ⟨x, hx, hg⟩ := s.getInitialLeftPosition_eq_num hc hw
      rw [setPositionByName_initial, setPositionByName_initial, setPositions_relativeWidth,
        (storeOnly_setPositions _).getInitialLeftPosition, hg, setPositions_setPositions s hx]

end Panels

variable (m : ℕ)

/-- The first opening of a panel type, over the default entry and with nothing
persisted for it: a panel with an input slot, other than dragless, gets its
initial width `w` and is centred, whenever it fits between the margins. -/
theorem first_open_centred (s : Panels) (props : Props) (hm : s.mounted = false)
    (hdef : (s.setup props).mainPanelDimensions.relativeLeft = 1 ∧
      (s.setup props).mainPanelDimensions.relativeRight = 1)
    (hv : s.storage (s.setup props).currentNodePaneType = none)
    (ht : (s.setup props).currentNodePaneType ≠ .inputless) (hd : (s.setup props).currentNodePaneType ≠ .dragless)
    (hw : ¬ s.appGridDimensions.width < minWindowWidth) {w : ℚ}
    (hw₀ : w = (s.setup props).pxToRelativeWidth (initialMainPanelWidth m (s.setup props).currentNodePaneType))
    (hfit : w ≤ 1 - (s.setup props).minimumLeftPosition - (s.setup props).maximumRightPosition) :
    (step m s (.mount props)).mainPanelDimensions = ⟨(1 - w) / 2, (1 - w) / 2, w⟩ := by
  set T := (s.setup props).setMainPanelWidth m .undefined with hT
  have hTw : T.mainPanelDimensions.relativeWidth = w := by
    rw [hT, setMainPanelWidth_relativeWidth, JsNumber.orElse_undefined, hw₀]
  rw [step_mount_of_no_storage m s props hm hdef hv, placeInitially, ← hT,
    T.setPositions_initial_centred (by rwa [hT, setMainPanelWidth_currentNodePaneType])
      (by rwa [hT, setMainPanelWidth_currentNodePaneType]) (by rwa [hT, setMainPanelWidth_containerWidth])
      (by rwa [hTw, hT, setMainPanelWidth_minimumLeftPosition, setMainPanelWidth_maximumRightPosition]),
    hTw]

/-- Opening a regular panel on a 1000 px page with nothing persisted centres it
at 360 px. -/
theorem first_open_centred_on_page_load :
    (pageLoad none).mounted = false ∧
      (((pageLoad none).setup regularProps).mainPanelDimensions.relativeLeft = 1 ∧
        ((pageLoad none).setup regularProps).mainPanelDimensions.relativeRight = 1) ∧
      (pageLoad none).storage ((pageLoad none).setup regularProps).currentNodePaneType = none ∧
      ((pageLoad none).setup regularProps).currentNodePaneType ≠ .inputless ∧
      ((pageLoad none).setup regularProps).currentNodePaneType ≠ .dragless ∧
      ¬ (pageLoad none).appGridDimensions.width < minWindowWidth ∧
      (step 360 (pageLoad none) (.mount regularProps)).mainPanelDimensions = ⟨8 / 25, 8 / 25, 9 / 25⟩ := by
  have hdef : ((pageLoad none).setup regularProps).mainPanelDimensions.relativeLeft = 1 ∧
      ((pageLoad none).setup regularProps).mainPanelDimensions.relativeRight = 1 := ⟨rfl, rfl⟩
  have ht : ((pageLoad none).setup regularProps).currentNodePaneType = .regular := rfl
  have hw : ¬ (pageLoad none).appGridDimensions.width < minWindowWidth := by norm_num [pageLoad]
  have hcw : ((pageLoad none).setup regularProps).containerWidth = 1000 := rfl
  have hw₀ : (9 / 25 : ℚ) = ((pageLoad none).setup regularProps).pxToRelativeWidth
      (initialMainPanelWidth 360 ((pageLoad none).setup regularProps).currentNodePaneType) := by
    rw [ht, pxToRelativeWidth, hcw]
    norm_num [initialMainPanelWidth]
  have hfit : (9 / 25 : ℚ) ≤ 1 - ((pageLoad none).setup regularProps).minimumLeftPosition -
      ((pageLoad none).setup regularProps).maximumRightPosition := by
    rw [minimumLeftPosition_eq_of_hasInputSlot _ (by rw [hcw]; norm_num) rfl,
      maximumRightPosition_eq _ (by rw [hcw]; norm_num), hcw]
    norm_num
  refine ⟨rfl, hdef, rfl, by rw [ht]; decide, by rw [ht]; decide, hw, ?_⟩
  rw [first_open_centred 360 (pageLoad none) regularProps rfl hdef rfl (by rw [ht]; decide) (by rw [ht]; decide)
    hw hw₀ hfit]
  norm_num

/-- The dragless panel's first opening, over the default entry and with nothing
persisted for it: its left edge is `SIDE_MARGIN + 1 + fixedPanelWidth` pixels
from the container's left edge and it is the main node panel width wide,
whenever that position is between the margins. -/
theorem first_open_dragless (s : Panels) (props : Props) (hm : s.mounted = false)
    (hdef : (s.setup props).mainPanelDimensions.relativeLeft = 1 ∧
      (s.setup props).mainPanelDimensions.relativeRight = 1)
    (hv : s.storage (s.setup props).currentNodePaneType = none)
    (hd : (s.setup props).currentNodePaneType = .dragless) (hc : 0 < s.appGridDimensions.width)
    (hl : (s.setup props).minimumLeftPosition ≤
      (s.setup props).pxToRelativeWidth (sideMargin + 1 + (s.setup props).fixedPanelWidth))
    (hr : (s.setup props).maximumRightPosition ≤
      1 - (s.setup props).pxToRelativeWidth (sideMargin + 1 + (s.setup props).fixedPanelWidth) -
        (s.setup props).pxToRelativeWidth m) :
    (step m s (.mount props)).mainPanelStyles.left = sideMargin + 1 + (s.setup props).fixedPanelWidth ∧
      (step m s (.mount props)).relativeWidthToPx (step m s (.mount props)).mainPanelDimensions.relativeWidth = m := by
  set U := s.setup props
  set T := U.setMainPanelWidth m .undefined with hT
  have hU : U.StoreOnly T := storeOnly_setMainPanelWidth .undefined
  have hcU : 0 < U.containerWidth := hc
  have hTw : T.mainPanelDimensions.relativeWidth = U.pxToRelativeWidth m := by
    rw [hT, setMainPanelWidth_relativeWidth, JsNumber.orElse_undefined, hd]
    rfl
  have hdim : (step m s (.mount props)).mainPanelDimensions =
      ⟨U.pxToRelativeWidth (sideMargin + 1 + U.fixedPanelWidth),
        1 - U.pxToRelativeWidth (sideMargin + 1 + U.fixedPanelWidth) - U.pxToRelativeWidth m, U.pxToRelativeWidth m⟩ := by
    rw [step_mount_of_no_storage m s props hm hdef hv, placeInitially, ← hT, hU.getInitialLeftPosition,
      getInitialLeftPosition, if_pos hd, T.setPositions_of_within (by rw [hU.currentNodePaneType, hd]; decide)
        (by rwa [hU.containerWidth]) (by rwa [hU.minimumLeftPosition]) (by rwa [hU.maximumRightPosition, hTw]), hTw]
  have hcw := (step_mount_storeOnly m s props hm).containerWidth
  constructor
  · show (step m s (.mount props)).relativeWidthToPx (step m s (.mount props)).mainPanelDimensions.relativeLeft = _
    rw [relativeWidthToPx, hdim, hcw]
    exact div_mul_cancel₀ _ hcU.ne'
  · rw [relativeWidthToPx, hdim, hcw]
    exact div_mul_cancel₀ _ hcU.ne'

/-- A node that cannot be dragged, opened on a 1000 px page: its panel starts
375 px from the left and is 360 px wide. -/
theorem first_open_dragless_on_page_load :
    (pageLoad none).mounted = false ∧
      (((pageLoad none).setup draglessProps).mainPanelDimensions.relativeLeft = 1 ∧
        ((pageLoad none).setup draglessProps).mainPanelDimensions.relativeRight = 1) ∧
      (pageLoad none).storage ((pageLoad none).setup draglessProps).currentNodePaneType = none ∧
      ((pageLoad none).setup draglessProps).currentNodePaneType = .dragless ∧
      0 < (pageLoad none).appGridDimensions.width ∧
      (step 360 (pageLoad none) (.mount draglessProps)).mainPanelStyles.left = 375 ∧
      (step 360 (pageLoad none) (.mount draglessProps)).relativeWidthToPx
        (step 360 (pageLoad none) (.mount draglessProps)).mainPanelDimensions.relativeWidth = 360 := by
  have hcw : ((pageLoad none).setup draglessProps).containerWidth = 1000 := rfl
  have hdw : ((pageLoad none).setup draglessProps).hasDoubleWidth = false := rfl
  have hf : ((pageLoad none).setup draglessProps).fixedPanelWidth = 350 := by
    simp only [fixedPanelWidth, hcw, hdw]
    norm_num
  have hw : ¬ ((pageLoad none).setup draglessProps).containerWidth < minWindowWidth := by
    rw [hcw]
    norm_num
  have hl : ((pageLoad none).setup draglessProps).minimumLeftPosition ≤
      ((pageLoad none).setup draglessProps).pxToRelativeWidth
        (sideMargin + 1 + ((pageLoad none).setup draglessProps).fixedPanelWidth) := by
    rw [minimumLeftPosition_eq_of_hasInputSlot _ hw rfl, pxToRelativeWidth, hf, hcw]
    norm_num
  have hr : ((pageLoad none).setup draglessProps).maximumRightPosition ≤
      1 - ((pageLoad none).setup draglessProps).pxToRelativeWidth
        (sideMargin + 1 + ((pageLoad none).setup draglessProps).fixedPanelWidth) -
        ((pageLoad none).setup draglessProps).pxToRelativeWidth (360 : ℕ) := by
    rw [maximumRightPosition_eq _ hw, pxToRelativeWidth, pxToRelativeWidth, hf, hcw]
    norm_num
  obtain ⟨hleft, hwidth⟩ := first_open_dragless 360 (pageLoad none) draglessProps rfl ⟨rfl, rfl⟩ rfl rfl
    (by norm_num [pageLoad]) hl hr
  refine ⟨rfl, ⟨rfl, rfl⟩, rfl, rfl, by norm_num [pageLoad], ?_, by rw [hwidth]; norm_num⟩
  rw [hleft, hf]
  norm_num

/-- A named snap sent twice acts once, for a panel narrower than the container. -/
theorem snap_idempotent (s : Panels) (p : PositionName) (hc : 0 < s.containerWidth)
    (hw : s.mainPanelDimensions.relativeWidth ≠ 1) :
    step m (step m s (.setPositionByName p)) (.setPositionByName p) = step m s (.setPositionByName p) := by
  cases hm : s.mounted
  · have h0 : step m s (.setPositionByName p) = s := by
      rw [step_setPositionByName, if_neg (by simp [hm])]
    rw [h0]
    exact h0
  · have hS : (s.setPositionByName p).mounted = true := by
      cases p <;> exact (storeOnly_setPositions _).mounted.trans hm
    rw [step_setPositionByName m s, if_pos hm, step_setPositionByName, if_pos hS,
      s.setPositionByName_setPositionByName p hc hw]

/-- The `maxRight` snap sent twice to the centred snap state. -/
theorem snap_idempotent_at_maxRight :
    0 < snapState.containerWidth ∧ snapState.mainPanelDimensions.relativeWidth ≠ 1 ∧
      step 360 (step 360 snapState (.setPositionByName .maxRight)) (.setPositionByName .maxRight) =
        step 360 snapState (.setPositionByName .maxRight) :=
  have hc : 0 < snapState.containerWidth := by norm_num [snapState, regularWith]
  have hw : snapState.mainPanelDimensions.relativeWidth ≠ 1 := by
    rw [snapState, regularWith_mainPanelDimensions]
    norm_num
  ⟨hc, hw, snap_idempotent 360 snapState .maxRight hc hw⟩

/-- A session without mounts keeps the props, and with them the panel type, and
leaves the store entry of every other type as it was. -/
theorem run_of_no_mount (s : Panels) (es : List Event) (hes : ∀ props, Event.mount props ∉ es) :
    (run m s es).props = s.props ∧
      ∀ t, t ≠ s.currentNodePaneType → (run m s es).ndvStore t = s.ndvStore t := by
  induction es generalizing s with
  | nil => exact ⟨rfl, fun _ _ => rfl⟩
  | cons e es ih =>
      have hp : (step m s e).props = s.props := by
        rcases step_mounts_or_keeps_props m s e with ⟨props, rfl, -⟩ | ⟨hp, -⟩
        · exact absurd (List.mem_cons_self _ _) (hes props)
        · exact hp
      have htype := currentNodePaneType_congr hp
      obtain ⟨hp', hst'⟩ := ih (step m s e) fun props h => hes props (List.mem_cons_of_mem _ h)
      refine ⟨hp'.trans hp, fun t ht => ?_⟩
      rw [run_cons, hst' t (htype ▸ ht), step_ndvStore_of_ne m s e (htype ▸ ht)]

/-- Switching to a node of another type and back: close the panels, open them
for the other node, run any session without mounts there, close them and
reopen the first node.  Its panel is exactly where it was, when it had left
the default edges; closed panels are switched the same way. -/
theorem switch_node_and_back (s : Panels) (props : Props) (es : List Event)
    (hdef : ¬ (s.mainPanelDimensions.relativeLeft = 1 ∧ s.mainPanelDimensions.relativeRight = 1))
    (ht : (s.setup props).currentNodePaneType ≠ s.currentNodePaneType) (hes : ∀ props, Event.mount props ∉ es) :
    (run m s ([.unmount, .mount props] ++ es ++ [.unmount, .mount s.props])).mainPanelDimensions =
      s.mainPanelDimensions := by
  set S₁ : Panels := { s with mounted := false }
  have h₂ := step_mount_storeOnly m S₁ props rfl
  have hst₂ : (step m S₁ (.mount props)).ndvStore s.currentNodePaneType = s.ndvStore s.currentNodePaneType :=
    step_ndvStore_of_ne m S₁ _ (h₂.currentNodePaneType ▸ Ne.symm ht)
  have hst₃ := (run_of_no_mount m (step m S₁ (.mount props)) es hes).2 s.currentNodePaneType
    (by rw [h₂.currentNodePaneType]; exact Ne.symm ht)
  rw [run_append, run_append, show run m s [.unmount, .mount props] = step m S₁ (.mount props) from rfl]
  generalize run m (step m S₁ (.mount props)) es = S₃ at hst₃
  -- the first node's entry is back in place, so reopening it takes the entry as it is
  have hS₃ : (S₃.setup s.props).mainPanelDimensions = s.mainPanelDimensions := hst₃.trans hst₂
  rw [reopen_keeps_entry m S₃ s.props (by rwa [hS₃]), hS₃]

/-- The half-width regular panel, left for a dragless node that is dragged,
resized and widened, and opened again. -/
theorem switch_node_and_back_via_dragless :
    ¬ (halfMount.mainPanelDimensions.relativeLeft = 1 ∧ halfMount.mainPanelDimensions.relativeRight = 1) ∧
      (halfMount.setup draglessProps).currentNodePaneType ≠ halfMount.currentNodePaneType ∧
      (∀ props, Event.mount props ∉ [.drag (300, 0), .resize ⟨"right", 700, 400⟩, .appGridResize ⟨1200, 800⟩ none]) ∧
      (run 360 halfMount ([.unmount, .mount draglessProps] ++
          [.drag (300, 0), .resize ⟨"right", 700, 400⟩, .appGridResize ⟨1200, 800⟩ none] ++
          [.unmount, .mount halfMount.props])).mainPanelDimensions = ⟨1 / 4, 1 / 4, 1 / 2⟩ := by
  obtain ⟨hp, -, -, -, hd⟩ := halfMount_fields
  have hdef : ¬ (halfMount.mainPanelDimensions.relativeLeft = 1 ∧ halfMount.mainPanelDimensions.relativeRight = 1) := by
    rw [hd]
    norm_num
  have ht : (halfMount.setup draglessProps).currentNodePaneType ≠ halfMount.currentNodePaneType := by
    rw [show (halfMount.setup draglessProps).currentNodePaneType = .dragless from rfl]
    simp only [currentNodePaneType, hp]
    decide
  have hes : ∀ props, Event.mount props ∉
      [.drag (300, 0), .resize ⟨"right", 700, 400⟩, .appGridResize ⟨1200, 800⟩ none] := by
    simp
  refine ⟨hdef, ht, hes, ?_⟩
  rw [switch_node_and_back 360 halfMount draglessProps _ hdef ht hes, hd]

end NdvLayout
