import NdvLayout.Viewport

/-!
# NDV draggable panels: the persisted width and the minimum width

`restorePositionData` reads the width persisted for the panel type and hands
the parsed number to `setMainPanelWidth`, whose `||` turns `NaN` and `0` into
the type's default width and keeps every other number, negative or above one
included.  `getInitialLeftPosition` then sees the parsed number itself, with no
fallback.

Nothing on the way clamps the width to `MIN_PANEL_WIDTH`: only the viewport
watcher and an accepted resize do.

**Results.**
* `step_mount_relativeWidth`: a mount over the default entry restores the
  persisted width as `parsed || default`.
* `mount_restores_parsed_width`: that, and with `NaN` persisted the whole
  geometry is the one of a mount with nothing persisted: for every node
  without an input slot, for the dragless type in a window of positive width,
  and for the other types but inputless when the default width fits.  A node
  type whose `parameterPane` is inputless while it has an input slot is left
  out: its two placements differ.
* `negative_stored_width_kept`: a persisted `-1` is used as it is.
* `clamps_min_width`: right after a viewport change of mounted panels and
  after an accepted resize, the panel is at least `MIN_PANEL_WIDTH` wide.
* `restored_width_below_minimum`: a width persisted at another container
  width is mounted as it is, below `MIN_PANEL_WIDTH`.
* `persisted_width_restored`: the width a drag end or a resize end persists is
  the width the next page load mounts the same panel type with.
-/

namespace NdvLayout

open Panels

/-! ## Mounting over the default entry -/

section Mount

variable (m : ℕ) (s : Panels) (props : Props)

theorem step_mount_of_no_storage (hm : s.mounted = false)
    (hdef : (s.setup props).mainPanelDimensions.relativeLeft = 1 ∧
      (s.setup props).mainPanelDimensions.relativeRight = 1)
    (hv : s.storage (s.setup props).currentNodePaneType = none) :
    step m s (.mount props) = (s.setup props).placeInitially m := by
  have hv' : ((s.setup props).placeInitially m).storage
      ((s.setup props).placeInitially m).currentNodePaneType = none := by
    rw [(storeOnly_placeInitially _ m).currentNodePaneType]
    simpa [placeInitially, setup] using hv
  simp only [step, hm, Bool.false_eq_true, if_false, mount]
  rw [onMounted_of_atDefault _ m hdef, restorePositionData_of_none _ m hv']

/-- The first two writes of a mount leave the default width. -/
theorem placeInitially_relativeWidth :
    (s.placeInitially m).mainPanelDimensions.relativeWidth =
      s.pxToRelativeWidth (initialMainPanelWidth m s.currentNodePaneType) := by
  rw [placeInitially, setPositions_relativeWidth, setMainPanelWidth_relativeWidth,
    JsNumber.orElse_undefined]

/-- A mount over the default entry restores the persisted width as
`parsed || default`. -/
theorem step_mount_relativeWidth {v : JsNumber} (hm : s.mounted = false)
    (hdef : (s.setup props).mainPanelDimensions.relativeLeft = 1 ∧
      (s.setup props).mainPanelDimensions.relativeRight = 1)
    (hv : s.storage (s.setup props).currentNodePaneType = some v) :
    (step m s (.mount props)).mainPanelDimensions.relativeWidth =
      v.orElse ((s.setup props).pxToRelativeWidth
        (initialMainPanelWidth m (s.setup props).currentNodePaneType)) := by
  have h := storeOnly_placeInitially (s.setup props) m
  rw [step_mount_of_storage m s props hm hdef hv, setPositions_relativeWidth,
    setMainPanelWidth_relativeWidth, h.pxToRelativeWidth, h.currentNodePaneType]

/-- A mount over the default entry, of a type with an input slot other than
dragless, with a nonzero width `w` persisted: the panel gets width `w` and is
placed from the centred target `0.5 - w / 2`. -/
theorem step_mount_mainPanelDimensions_of_num {w : ℚ} (hm : s.mounted = false)
    (hdef : (s.setup props).mainPanelDimensions.relativeLeft = 1 ∧
      (s.setup props).mainPanelDimensions.relativeRight = 1)
    (hv : s.storage (s.setup props).currentNodePaneType = some (.num w)) (hw : w ≠ 0)
    (hslot : props.hasInputSlot = true) (hd : (s.setup props).currentNodePaneType ≠ .dragless)
    (hi : (s.setup props).currentNodePaneType ≠ .inputless) (h0 : (0.5 : ℚ) - w / 2 ≠ 0) :
    (step m s (.mount props)).mainPanelDimensions =
      ⟨(placeMainPanel false (s.setup props).minimumLeftPosition (s.setup props).maximumRightPosition w
          (0.5 - w / 2)).1,
        (placeMainPanel false (s.setup props).minimumLeftPosition (s.setup props).maximumRightPosition w
          (0.5 - w / 2)).2, w⟩ := by
  have hX := (storeOnly_placeInitially (s.setup props) m).setMainPanelWidth (m := m) (.num w)
  have hXw : (((s.setup props).placeInitially m).setMainPanelWidth m (.num w)).mainPanelDimensions.relativeWidth =
      w := by
    rw [setMainPanelWidth_relativeWidth, JsNumber.orElse_num_of_ne hw]
  rw [step_mount_of_storage m s props hm hdef hv, mainPanelDimensions_setPositions, placement,
    (s.setup props).getInitialLeftPosition_of_hasInputSlot hd hslot, targetLeft_num _ h0,
    hX.currentNodePaneType, decide_eq_false hi, hX.minimumLeftPosition, hX.maximumRightPosition, hXw]

end Mount

/-- The persisted widths do not change what the first two writes of a mount do. -/
theorem setup_placeInitially_storage (m : ℕ) (s : Panels) (props : Props)
    (f : MainPanelType → Option JsNumber) :
    ((({ s with storage := f } : Panels).setup props).placeInitially m).mainPanelDimensions =
      ((s.setup props).placeInitially m).mainPanelDimensions := by
  simp only [placeInitially, mainPanelDimensions_setPositions, placement, targetLeft,
    one_sub_inputPanelRelativeRight, setMainPanelWidth_currentNodePaneType,
    setMainPanelWidth_minimumLeftPosition, setMainPanelWidth_maximumRightPosition,
    setMainPanelWidth_relativeWidth, setMainPanelWidth_relativeLeft, setMainPanelWidth_props,
    setMainPanelWidth_pxToRelativeWidth, setMainPanelWidth_getInitialLeftPosition]
  rfl

/-- Without an input slot the `||` of `setPositions` falls back to the side
margin, whatever the entry. -/
theorem targetLeft_of_not_hasInputSlot (s : Panels) (h : s.props.hasInputSlot = false) (x : JsNumber) :
    s.targetLeft x = x.orElse (s.pxToRelativeWidth sideMargin) := by
  rw [targetLeft, one_sub_inputPanelRelativeRight, h]
  rfl

/-- The cases in which `NaN` persisted acts as nothing persisted: a node
without an input slot; the dragless type in a window of positive width; every
other type but inputless when its default width fits between the margins. -/
def NanRestoresDefault (m : ℕ) (s : Panels) (props : Props) : Prop :=
  props.hasInputSlot = false ∨
    ((s.setup props).currentNodePaneType = .dragless ∧ 0 < s.appGridDimensions.width) ∨
    ((s.setup props).currentNodePaneType ≠ .inputless ∧ (s.setup props).currentNodePaneType ≠ .dragless ∧
      (s.setup props).pxToRelativeWidth (initialMainPanelWidth m (s.setup props).currentNodePaneType) ≤
        1 - (s.setup props).minimumLeftPosition - (s.setup props).maximumRightPosition)

/-- With `NaN` persisted, in the cases of `NanRestoresDefault`, a mount places
the panel as it does with nothing persisted: the restore keeps the default
width, and its second placement asks for the left edge the first one gave. -/
theorem step_mount_nan (m : ℕ) (s : Panels) (props : Props) (hm : s.mounted = false)
    (hdef : (s.setup props).mainPanelDimensions.relativeLeft = 1 ∧
      (s.setup props).mainPanelDimensions.relativeRight = 1)
    (hv : s.storage (s.setup props).currentNodePaneType = some .nan) (hcase : NanRestoresDefault m s props) :
    (step m s (.mount props)).mainPanelDimensions =
      (step m { s with storage := fun _ => none } (.mount props)).mainPanelDimensions := by
  rw [step_mount_of_no_storage m { s with storage := fun _ => none } props hm hdef rfl,
    setup_placeInitially_storage,
    step_mount_of_storage m s props hm hdef hv]
  have hcs : (s.setup props).containerWidth = s.appGridDimensions.width := rfl
  have hps : (s.setup props).props = props := rfl
  unfold NanRestoresDefault at hcase
  generalize s.setup props = P₀ at hcase hcs hps ⊢
  subst hps
  -- the first two writes, as a width and a placement
  have hP := storeOnly_placeInitially P₀ m
  have hW := placeInitially_relativeWidth m P₀
  have hPd : (P₀.placeInitially m).mainPanelDimensions =
      ⟨((P₀.setMainPanelWidth m .undefined).placement (P₀.getInitialLeftPosition
          (.num (P₀.pxToRelativeWidth (initialMainPanelWidth m P₀.currentNodePaneType))))).1,
        ((P₀.setMainPanelWidth m .undefined).placement (P₀.getInitialLeftPosition
          (.num (P₀.pxToRelativeWidth (initialMainPanelWidth m P₀.currentNodePaneType))))).2,
        P₀.pxToRelativeWidth (initialMainPanelWidth m P₀.currentNodePaneType)⟩ := by
    simp only [placeInitially, mainPanelDimensions_setPositions, setMainPanelWidth_relativeWidth,
      JsNumber.orElse_undefined, setMainPanelWidth_getInitialLeftPosition]
  -- the restore with `NaN` keeps the width
  have hQd : ((P₀.placeInitially m).setMainPanelWidth m .nan).mainPanelDimensions =
      (P₀.placeInitially m).mainPanelDimensions := by
    rw [mainPanelDimensions_setMainPanelWidth, JsNumber.orElse_nan, hP.pxToRelativeWidth,
      hP.currentNodePaneType, ← hW]
  -- both placements see the same type, margins and width
  have hplace : ∀ (X : Panels) (x : JsNumber), StoreOnly P₀ X →
      X.mainPanelDimensions.relativeWidth = P₀.pxToRelativeWidth (initialMainPanelWidth m P₀.currentNodePaneType) →
      X.placement x = placeMainPanel (decide (P₀.currentNodePaneType = .inputless)) P₀.minimumLeftPosition
        P₀.maximumRightPosition (P₀.pxToRelativeWidth (initialMainPanelWidth m P₀.currentNodePaneType))
        (X.targetLeft x) := by
    intro X x hX hXw
    rw [placement, hX.currentNodePaneType, hX.minimumLeftPosition, hX.maximumRightPosition, hXw]
  have hQs := hP.setMainPanelWidth (m := m) .nan
  have hP₁s : StoreOnly P₀ (P₀.setMainPanelWidth m .undefined) := storeOnly_setMainPanelWidth .undefined
  have hQ := hplace _ (P₀.getInitialLeftPosition .nan) hQs (by rw [hQd, hW])
  have hP₁ := hplace _ (P₀.getInitialLeftPosition
    (.num (P₀.pxToRelativeWidth (initialMainPanelWidth m P₀.currentNodePaneType))))
    hP₁s (by rw [setMainPanelWidth_relativeWidth, JsNumber.orElse_undefined])
  rw [mainPanelDimensions_setPositions, hQd, hPd, hQ, hP₁]
  rcases hcase with hslot | ⟨hd, hc⟩ | ⟨ht, hd, hfit⟩
  · -- no input slot: both placements ask for the left margin, with the side margin as fallback
    have hd : P₀.currentNodePaneType ≠ .dragless := by
      rw [currentNodePaneType_eq_inputless_of_not_hasInputSlot _ hslot]
      decide
    have hg : ∀ w, P₀.getInitialLeftPosition w = .num P₀.minimumLeftPosition := fun w => by
      simp only [getInitialLeftPosition, if_neg hd, hslot, Bool.false_eq_true, if_false]
    rw [hg, hg, targetLeft_of_not_hasInputSlot _ (hQs.props ▸ hslot),
      targetLeft_of_not_hasInputSlot _ (hP₁s.props ▸ hslot), hQs.pxToRelativeWidth, hP₁s.pxToRelativeWidth]
  · -- dragless: both placements ask for the same nonzero left edge
    have hg : ∀ w, P₀.getInitialLeftPosition w =
        .num (P₀.pxToRelativeWidth (sideMargin + 1 + P₀.fixedPanelWidth)) := fun w => by
      simp only [getInitialLeftPosition, if_pos hd]
    have hx : P₀.pxToRelativeWidth (sideMargin + 1 + P₀.fixedPanelWidth) ≠ 0 :=
      (P₀.pxToRelativeWidth_pos (by have := P₀.fixedPanelWidth_pos; simp only [sideMargin]; linarith)
        (hcs ▸ hc)).ne'
    rw [hg, hg, targetLeft_num _ hx, targetLeft_num _ hx]
  · -- an input slot: the restore asks for `NaN`, whose fallback is the left edge the first
    -- placement gave, and a fitting panel placed at its own left edge stays
    have hslot : P₀.props.hasInputSlot = true := by
      by_contra h
      exact ht (currentNodePaneType_eq_inputless_of_not_hasInputSlot _ (by simpa using h))
    rw [P₀.getInitialLeftPosition_of_hasInputSlot hd hslot]
    have hnan : P₀.getInitialLeftPosition .nan = .nan := by
      simp only [getInitialLeftPosition, if_neg hd, hslot, if_true, JsNumber.map_nan]
    rw [hnan, targetLeft, JsNumber.orElse_nan, one_sub_inputPanelRelativeRight, hQs.props, hslot, if_pos rfl,
      hQd, hPd, hP₁, decide_eq_false ht, placeMainPanel_idem hfit, P₀.getInitialLeftPosition_of_hasInputSlot hd hslot]

/-- The width a mount over the default entry restores is `parsed || default`:
`NaN` and `0` give the default width, every other number is kept.  With `NaN`
persisted, in the cases of `NanRestoresDefault`, the geometry is the one of a
mount with nothing persisted. -/
theorem mount_restores_parsed_width (m : ℕ) (s : Panels) (props : Props) (hm : s.mounted = false)
    (hdef : (s.setup props).mainPanelDimensions.relativeLeft = 1 ∧
      (s.setup props).mainPanelDimensions.relativeRight = 1) :
    (∀ v, s.storage (s.setup props).currentNodePaneType = some v →
      (step m s (.mount props)).mainPanelDimensions.relativeWidth =
        v.orElse ((s.setup props).pxToRelativeWidth
          (initialMainPanelWidth m (s.setup props).currentNodePaneType))) ∧
    (s.storage (s.setup props).currentNodePaneType = some .nan → NanRestoresDefault m s props →
      (step m s (.mount props)).mainPanelDimensions =
        (step m { s with storage := fun _ => none } (.mount props)).mainPanelDimensions) :=
  ⟨fun _ hv => step_mount_relativeWidth m s props hm hdef hv,
    fun hv hcase => step_mount_nan m s props hm hdef hv hcase⟩

theorem mount_restores_parsed_width_after_pageLoad :
    (pageLoad (some .nan)).mounted = false ∧
      (((pageLoad (some .nan)).setup regularProps).mainPanelDimensions.relativeLeft = 1 ∧
        ((pageLoad (some .nan)).setup regularProps).mainPanelDimensions.relativeRight = 1) ∧
      ((∀ v, (pageLoad (some .nan)).storage
          ((pageLoad (some .nan)).setup regularProps).currentNodePaneType = some v →
        (step 360 (pageLoad (some .nan)) (.mount regularProps)).mainPanelDimensions.relativeWidth =
          v.orElse (((pageLoad (some .nan)).setup regularProps).pxToRelativeWidth
            (initialMainPanelWidth 360 ((pageLoad (some .nan)).setup regularProps).currentNodePaneType))) ∧
      ((pageLoad (some .nan)).storage ((pageLoad (some .nan)).setup regularProps).currentNodePaneType =
          some .nan →
        NanRestoresDefault 360 (pageLoad (some .nan)) regularProps →
        (step 360 (pageLoad (some .nan)) (.mount regularProps)).mainPanelDimensions =
          (step 360 { pageLoad (some .nan) with storage := fun _ => none }
            (.mount regularProps)).mainPanelDimensions)) :=
  ⟨rfl, ⟨rfl, rfl⟩, mount_restores_parsed_width 360 _ regularProps rfl ⟨rfl, rfl⟩⟩

/-- A width of `-1` persisted for the regular panel is used as it is; with
nothing persisted the panel gets its default width `360 / 1000`. -/
theorem negative_stored_width_kept :
    (step 360 (pageLoad (some (.num (-1)))) (.mount regularProps)).mainPanelDimensions.relativeWidth = -1 ∧
      (step 360 (pageLoad none) (.mount regularProps)).mainPanelDimensions.relativeWidth = 360 / 1000 := by
  constructor
  · rw [step_mount_relativeWidth 360 (pageLoad (some (.num (-1)))) regularProps rfl ⟨rfl, rfl⟩ rfl,
      JsNumber.orElse_num_of_ne (by norm_num)]
  · rw [step_mount_of_no_storage 360 (pageLoad none) regularProps rfl ⟨rfl, rfl⟩ rfl, placeInitially_relativeWidth,
      pxToRelativeWidth, show ((pageLoad none).setup regularProps).currentNodePaneType = .regular from rfl,
      show ((pageLoad none).setup regularProps).containerWidth = 1000 from rfl]
    norm_num [initialMainPanelWidth]

/-! ## The minimum width -/

section Floor

variable {m : ℕ} {s : Panels} {r : ℚ}

theorem le_floorWidth_relativeWidth (hr : r ≠ 0) :
    r ≤ (s.floorWidth m r).mainPanelDimensions.relativeWidth := by
  unfold floorWidth
  split_ifs with h
  · rw [setMainPanelWidth_relativeWidth, JsNumber.orElse_num_of_ne hr]
  · exact not_lt.mp h

theorem le_refit_relativeWidth (a : ℚ) (hr : r ≠ 0) (h : r ≤ s.mainPanelDimensions.relativeWidth) :
    r ≤ (s.refit m a r).mainPanelDimensions.relativeWidth := by
  unfold refit
  split_ifs
  · rw [setPositions_relativeWidth, setMainPanelWidth_relativeWidth, JsNumber.orElse_num_of_ne hr]
  · exact h

end Floor

/-- The events after which the code clamps the width: a viewport change of
mounted panels with a positive measured width, and an accepted resize in a
container of positive width. -/
def ClampsWidth (s : Panels) : Event → Prop
  | .appGridResize dimensions ndvWidth => s.mounted = true ∧ 0 < ndvWidth.getD dimensions.width
  | .resize data => s.resizeEnabled data.direction ∧ s.initialized = true ∧ s.ResizeAccepted data ∧
      0 < s.containerWidth
  | _ => False

/-- Right after a viewport change of mounted panels and after an accepted
resize, the main panel is at least `MIN_PANEL_WIDTH` wide. -/
theorem clamps_min_width (m : ℕ) (s : Panels) (e : Event) (h : ClampsWidth s e) :
    minPanelWidth ≤ (step m s e).mainPanelDimensions.relativeWidth * (step m s e).containerWidth := by
  cases e with
  | appGridResize d n =>
      obtain ⟨hm, hw⟩ := h
      rw [step_appGridResize, if_pos hm, onAppGridDimensionsChange_eq]
      generalize hX : ({ s with appGridDimensions := d } : Panels).withContainerWidth (n.getD d.width) = X
      have hXc : X.containerWidth = n.getD d.width := by rw [← hX]; rfl
      dsimp only
      rw [setPositions_relativeWidth, (storeOnly_setPositions _).containerWidth,
        (((StoreOnly.refl X).floorWidth _).refit _ _).containerWidth, hXc]
      have hr : X.pxToRelativeWidth minPanelWidth ≠ 0 :=
        (X.pxToRelativeWidth_pos (by norm_num) (hXc ▸ hw)).ne'
      have hW := le_refit_relativeWidth (m := m) d.width hr (le_floorWidth_relativeWidth (m := m) (s := X) hr)
      calc minPanelWidth = X.pxToRelativeWidth minPanelWidth * n.getD d.width := by
            rw [pxToRelativeWidth, hXc, div_mul_cancel₀ _ hw.ne']
        _ ≤ _ := mul_le_mul_of_nonneg_right hW hw.le
  | resize data =>
      obtain ⟨he, hi, ha, hc⟩ := h
      have hr : s.pxToRelativeWidth data.width ≠ 0 :=
        (s.pxToRelativeWidth_pos (by linarith [not_le.mp ha.2.2, show (0 : ℚ) < minPanelWidth by norm_num]) hc).ne'
      simp only [step, if_pos he, onResizeThrottle, hi, if_true, onResize_of_resizeAccepted s m ha]
      rw [setPositions_relativeWidth, setMainPanelWidth_relativeWidth, JsNumber.orElse_num_of_ne hr,
        setPositions_containerWidth, setMainPanelWidth_containerWidth, pxToRelativeWidth,
        div_mul_cancel₀ _ hc.ne']
      exact (not_le.mp ha.2.2).le
  | _ => exact h.elim

theorem clamps_min_width_at_refit :
    ClampsWidth (regularWith ⟨0, 0, 1⟩) (.appGridResize ⟨540, 800⟩ none) ∧
      minPanelWidth ≤
        (step 360 (regularWith ⟨0, 0, 1⟩) (.appGridResize ⟨540, 800⟩ none)).mainPanelDimensions.relativeWidth *
          (step 360 (regularWith ⟨0, 0, 1⟩) (.appGridResize ⟨540, 800⟩ none)).containerWidth :=
  have h : ClampsWidth (regularWith ⟨0, 0, 1⟩) (.appGridResize ⟨540, 800⟩ none) := ⟨rfl, by norm_num⟩
  ⟨h, clamps_min_width 360 _ _ h⟩

/-- A width of `0.3` persisted at another container width, mounted in a
1000 px container: the mounted panel is 300 px wide, below `MIN_PANEL_WIDTH`.
Neither the restore nor the placements of the mount compare the width with the
minimum that the watcher and `onResize` keep. -/
theorem restored_width_below_minimum (m : ℕ) :
    (step m (pageLoad (some (.num (3 / 10)))) (.mount regularProps)).mounted = true ∧
      (step m (pageLoad (some (.num (3 / 10)))) (.mount regularProps)).mainPanelDimensions.relativeWidth *
        (step m (pageLoad (some (.num (3 / 10)))) (.mount regularProps)).containerWidth = 300 := by
  obtain ⟨-, hc, -, -, hm, -⟩ := step_mount_fields m (pageLoad (some (.num (3 / 10)))) regularProps rfl
  refine ⟨hm, ?_⟩
  rw [step_mount_relativeWidth m (pageLoad (some (.num (3 / 10)))) regularProps rfl ⟨rfl, rfl⟩ rfl,
    JsNumber.orElse_num_of_ne (by norm_num), hc]
  norm_num [pageLoad]

/-! ## The round trip through local storage -/

/-- The events that persist the width, each with the guard under which its
handler runs: a drag end while the drag button is rendered, and a resize end of
mounted panels of a known type. -/
def PersistsWidth (s : Panels) : Event → Prop
  | .dragEnd => s.dragEnabled
  | .resizeEnd => s.mounted = true ∧ s.currentNodePaneType ≠ .unknown
  | _ => False

/-- A persisting event stores the current width under the current type's key. -/
theorem step_storage_of_persistsWidth (m : ℕ) (s : Panels) {e : Event} (h : PersistsWidth s e) :
    (step m s e).storage =
      Function.update s.storage s.currentNodePaneType (some (.num s.mainPanelDimensions.relativeWidth)) := by
  cases e with
  | dragEnd =>
      simp only [step, if_pos (show s.dragEnabled from h)]
      rfl
  | resizeEnd =>
      simp only [step, if_pos (show s.mounted = true ∧ s.currentNodePaneType ≠ .unknown from h)]
      rfl
  | _ => exact h.elim

/-- What a drag end or a resize end persists, the next page load gives back: a
mount of the same panel type restores the persisted width, when it is nonzero. -/
theorem persisted_width_restored (m : ℕ) (s P : Panels) (e : Event) (props : Props) (he : PersistsWidth s e)
    (hP : P.Initial) (hst : P.storage = (step m s e).storage)
    (ht : (P.setup props).currentNodePaneType = s.currentNodePaneType)
    (hw : s.mainPanelDimensions.relativeWidth ≠ 0) :
    (step m P (.mount props)).mainPanelDimensions.relativeWidth = s.mainPanelDimensions.relativeWidth := by
  have hdef : (P.setup props).mainPanelDimensions.relativeLeft = 1 ∧
      (P.setup props).mainPanelDimensions.relativeRight = 1 := by
    rw [show (P.setup props).mainPanelDimensions = P.ndvStore _ from rfl, hP.1]
    exact ⟨rfl, rfl⟩
  have hv : P.storage (P.setup props).currentNodePaneType = some (.num s.mainPanelDimensions.relativeWidth) := by
    rw [hst, step_storage_of_persistsWidth m s he, ht, Function.update_same]
  rw [step_mount_relativeWidth m P props hP.2 hdef hv, JsNumber.orElse_num_of_ne hw]

/-- A drag of the snapped panel ends, and the next page load mounts a regular
panel again. -/
theorem persisted_width_restored_after_drag :
    PersistsWidth snapState .dragEnd ∧
      ({ pageLoad none with storage := (step 360 snapState .dragEnd).storage } : Panels).Initial ∧
      (({ pageLoad none with storage := (step 360 snapState .dragEnd).storage } : Panels).setup
        regularProps).currentNodePaneType = snapState.currentNodePaneType ∧
      snapState.mainPanelDimensions.relativeWidth ≠ 0 ∧
      (step 360 { pageLoad none with storage := (step 360 snapState .dragEnd).storage }
        (.mount regularProps)).mainPanelDimensions.relativeWidth = snapState.mainPanelDimensions.relativeWidth :=
  have he : PersistsWidth snapState .dragEnd := regularWith_dragEnabled _
  have hP : ({ pageLoad none with storage := (step 360 snapState .dragEnd).storage } : Panels).Initial :=
    ⟨fun _ => rfl, rfl⟩
  have hw : snapState.mainPanelDimensions.relativeWidth ≠ 0 := by
    rw [snapState, regularWith_mainPanelDimensions]
    norm_num
  ⟨he, hP, rfl, hw, persisted_width_restored 360 snapState _ .dragEnd regularProps he hP rfl rfl hw⟩

end NdvLayout
