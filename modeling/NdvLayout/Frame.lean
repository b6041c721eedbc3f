import NdvLayout.Steps

/-!
# NDV draggable panels: what a step leaves alone

The layout writes change the NDV store and nothing else.  `StoreOnly s s'`
says that `s'` is `s` with another store; every handler built from the writes
is `StoreOnly` from the state it starts in, and the few handlers that are not
(`setup`, the watcher's width write, the vertical drag, the storage and flag
writes) change one named field.  From these the step lemmas below say, once
per event, where the viewport fields and the vertical position come from.

**Results.**
* `step_viewport_of_keepsViewport`, `step_mount_storeOnly`,
  `step_appGridResize_storeOnly`: the container width and the app grid change
  only at a mount and at a viewport change, and there as `setup` and the
  watcher's first write say.
* `step_drag_ndvStore`, `step_drag_mainPanelVerticalPosition`: a drag writes
  the horizontal store or the vertical position, as the layout of the moment
  says, and leaves the other alone.
-/

namespace NdvLayout

namespace Panels

variable {s s' s'' : Panels} {m : ℕ}

/-- `s'` differs from `s` at most in its NDV store. -/
def StoreOnly (s s' : Panels) : Prop := s' = { s with ndvStore := s'.ndvStore }

theorem StoreOnly.refl (s : Panels) : StoreOnly s s := rfl

theorem StoreOnly.trans (h₁ : StoreOnly s s') (h₂ : StoreOnly s' s'') : StoreOnly s s'' := by
  unfold StoreOnly at *
  rw [h₂, h₁]

section Fields

variable (h : StoreOnly s s')
include h

theorem StoreOnly.props : s'.props = s.props := by rw [h]
theorem StoreOnly.containerWidth : s'.containerWidth = s.containerWidth := by rw [h]
theorem StoreOnly.appGridDimensions : s'.appGridDimensions = s.appGridDimensions := by rw [h]
theorem StoreOnly.isTouchDevice : s'.isTouchDevice = s.isTouchDevice := by rw [h]
theorem StoreOnly.mounted : s'.mounted = s.mounted := by rw [h]
theorem StoreOnly.mainPanelVerticalPosition :
    s'.mainPanelVerticalPosition = s.mainPanelVerticalPosition := by rw [h]

theorem StoreOnly.currentNodePaneType : s'.currentNodePaneType = s.currentNodePaneType := by
  rw [h]
  rfl

theorem StoreOnly.pxToRelativeWidth (px : ℚ) : s'.pxToRelativeWidth px = s.pxToRelativeWidth px := by
  rw [h]
  rfl

theorem StoreOnly.minimumLeftPosition : s'.minimumLeftPosition = s.minimumLeftPosition := by
  rw [h]
  rfl

theorem StoreOnly.maximumRightPosition : s'.maximumRightPosition = s.maximumRightPosition := by
  rw [h]
  rfl

theorem StoreOnly.getInitialLeftPosition (w : JsNumber) :
    s'.getInitialLeftPosition w = s.getInitialLeftPosition w := by
  rw [h]
  rfl

theorem StoreOnly.useVerticalLayout : s'.useVerticalLayout = s.useVerticalLayout := by
  rw [h]
  rfl

theorem StoreOnly.dragEnabled : s'.dragEnabled ↔ s.dragEnabled := by
  rw [h]
  rfl

end Fields

/-! ## The writes and the handlers -/

theorem storeOnly_setMainPanelWidth (x : JsNumber) : StoreOnly s (s.setMainPanelWidth m x) := rfl

theorem storeOnly_setPositions (x : JsNumber) : StoreOnly s (s.setPositions x) := by
  rw [StoreOnly, setPositions_eq]
  rfl

theorem StoreOnly.setMainPanelWidth (h : StoreOnly s s') (x : JsNumber) :
    StoreOnly s (s'.setMainPanelWidth m x) :=
  h.trans (storeOnly_setMainPanelWidth x)

theorem StoreOnly.setPositions (h : StoreOnly s s') (x : JsNumber) :
    StoreOnly s (s'.setPositions x) :=
  h.trans (storeOnly_setPositions x)

theorem StoreOnly.floorWidth (h : StoreOnly s s') (r : ℚ) : StoreOnly s (s'.floorWidth m r) := by
  unfold Panels.floorWidth
  split
  · exact h.setMainPanelWidth _
  · exact h

theorem StoreOnly.refit (h : StoreOnly s s') (a r : ℚ) : StoreOnly s (s'.refit m a r) := by
  unfold Panels.refit
  split
  · exact (h.setMainPanelWidth _).setPositions _
  · exact h

theorem StoreOnly.restorePositionData (h : StoreOnly s s') :
    StoreOnly s (s'.restorePositionData m).1 := by
  cases hv : s'.storage s'.currentNodePaneType with
  | none => rwa [restorePositionData_of_none _ _ hv]
  | some v =>
      rw [restorePositionData_of_some _ _ hv]
      exact (h.setMainPanelWidth v).setPositions _

variable (s) (m)

theorem storeOnly_placeInitially : StoreOnly s (s.placeInitially m) :=
  ((StoreOnly.refl s).setMainPanelWidth _).setPositions _

theorem storeOnly_onMounted : StoreOnly s (s.onMounted m) := by
  by_cases h : s.mainPanelDimensions.relativeLeft = 1 ∧ s.mainPanelDimensions.relativeRight = 1
  · rw [onMounted_of_atDefault _ m h]
    exact (((StoreOnly.refl s).setMainPanelWidth _).setPositions _).restorePositionData
  · rw [onMounted_of_not_atDefault _ m h]
    exact .refl s

theorem storeOnly_onAppGridDimensionsChange (d : GridDimensions) (n : Option ℚ) :
    StoreOnly (s.withContainerWidth (n.getD d.width)) (s.onAppGridDimensionsChange m d n) := by
  rw [onAppGridDimensionsChange_eq]
  exact (((StoreOnly.refl _).floorWidth _).refit _ _).setPositions _

theorem storeOnly_onResize (data : ResizeData) : StoreOnly s (s.onResize m data) := by
  simp only [onResize]
  split_ifs
  all_goals first
    | exact .refl s
    | exact ((StoreOnly.refl s).setMainPanelWidth _).setPositions _

theorem storeOnly_onDrag_of_horizontal (p : ℚ × ℚ) (h : s.useVerticalLayout = false) :
    StoreOnly s (s.onDrag p) := by
  rw [onDrag_of_horizontal s p h]
  exact storeOnly_setPositions _

theorem onDrag_of_vertical (p : ℚ × ℚ) (h : s.useVerticalLayout = true) :
    s.onDrag p = s.setVerticalPositions (s.pxToRelativeHeight p.2 -
      initialMainPanelHeight s.currentNodePaneType / s.appGridDimensions.height / 2) := by
  simp only [onDrag, h, if_true]

end Panels

/-! ## One lemma per event -/

open Panels

variable (m : ℕ) (s : Panels)

theorem step_mount_storeOnly (props : Props) (h : s.mounted = false) :
    StoreOnly (s.setup props) (step m s (.mount props)) := by
  simp only [step, h, Bool.false_eq_true, if_false, mount]
  exact storeOnly_onMounted _ m

theorem step_appGridResize_storeOnly (d : GridDimensions) (n : Option ℚ) (h : s.mounted = true) :
    StoreOnly (({ s with appGridDimensions := d } : Panels).withContainerWidth (n.getD d.width))
      (step m s (.appGridResize d n)) := by
  rw [step_appGridResize, if_pos h]
  exact storeOnly_onAppGridDimensionsChange _ m d n

theorem step_drag_storeOnly_of_horizontal (p : ℚ × ℚ) (h : s.useVerticalLayout = false) :
    StoreOnly s (step m s (.drag p)) := by
  rw [step_drag]
  split
  · exact storeOnly_onDrag_of_horizontal s p h
  · exact .refl s

/-- What a mount writes besides the store: the new props, the container width
taken from the app grid, the mount flag and the vertical position. -/
theorem step_mount_fields (props : Props) (h : s.mounted = false) :
    (step m s (.mount props)).props = props ∧
      (step m s (.mount props)).containerWidth = s.appGridDimensions.width ∧
      (step m s (.mount props)).appGridDimensions = s.appGridDimensions ∧
      (step m s (.mount props)).isTouchDevice = s.isTouchDevice ∧
      (step m s (.mount props)).mounted = true ∧
      (step m s (.mount props)).mainPanelVerticalPosition = 0 :=
  have h' := step_mount_storeOnly m s props h
  ⟨h'.props, h'.containerWidth, h'.appGridDimensions, h'.isTouchDevice, h'.mounted,
    h'.mainPanelVerticalPosition⟩

/-- What a viewport change of mounted panels writes besides the store: the app
grid and the measured container width. -/
theorem step_appGridResize_fields (d : GridDimensions) (n : Option ℚ) (h : s.mounted = true) :
    (step m s (.appGridResize d n)).props = s.props ∧
      (step m s (.appGridResize d n)).containerWidth = n.getD d.width ∧
      (step m s (.appGridResize d n)).appGridDimensions = d ∧
      (step m s (.appGridResize d n)).isTouchDevice = s.isTouchDevice ∧
      (step m s (.appGridResize d n)).mounted = s.mounted ∧
      (step m s (.appGridResize d n)).mainPanelVerticalPosition = s.mainPanelVerticalPosition :=
  have h' := step_appGridResize_storeOnly m s d n h
  ⟨h'.props, h'.containerWidth, h'.appGridDimensions, h'.isTouchDevice, h'.mounted,
    h'.mainPanelVerticalPosition⟩

/-- A drag start only raises the drag flag. -/
theorem step_dragStart_fields (h : s.dragEnabled) :
    (step m s .dragStart).isDragging = true ∧ (step m s .dragStart).props = s.props ∧
      (step m s .dragStart).appGridDimensions = s.appGridDimensions ∧
      (step m s .dragStart).isTouchDevice = s.isTouchDevice ∧
      (step m s .dragStart).mounted = s.mounted ∧
      (step m s .dragStart).mainPanelVerticalPosition = s.mainPanelVerticalPosition := by
  simp only [step, if_pos h, onDragStart, and_self]

/-- A drag writes the horizontal store only in the horizontal layout. -/
theorem step_drag_ndvStore (p : ℚ × ℚ) (h : s.useVerticalLayout = true) :
    (step m s (.drag p)).ndvStore = s.ndvStore := by
  rw [step_drag]
  split
  · rw [onDrag_of_vertical s p h]
    rfl
  · rfl

/-- A drag moves the vertical position only in the vertical layout. -/
theorem step_drag_mainPanelVerticalPosition (p : ℚ × ℚ) (h : s.useVerticalLayout = false) :
    (step m s (.drag p)).mainPanelVerticalPosition = s.mainPanelVerticalPosition :=
  (step_drag_storeOnly_of_horizontal m s p h).mainPanelVerticalPosition

/-- The events that keep the viewport fields as they are. -/
def Event.KeepsViewport : Event → Prop
  | .mount _ => False
  | .appGridResize _ _ => False
  | _ => True

theorem step_viewport_of_keepsViewport {e : Event} (he : e.KeepsViewport) :
    (step m s e).containerWidth = s.containerWidth ∧
      (step m s e).appGridDimensions = s.appGridDimensions := by
  cases e with
  | mount => exact he.elim
  | appGridResize => exact he.elim
  | drag p =>
      rw [step_drag]
      split
      · cases hv : s.useVerticalLayout
        · exact ⟨(storeOnly_onDrag_of_horizontal s p hv).containerWidth,
            (storeOnly_onDrag_of_horizontal s p hv).appGridDimensions⟩
        · rw [onDrag_of_vertical s p hv]
          exact ⟨rfl, rfl⟩
      · exact ⟨rfl, rfl⟩
  | resize data =>
      simp only [step, onResizeThrottle]
      split_ifs
      · exact ⟨(storeOnly_onResize s m data).containerWidth, (storeOnly_onResize s m data).appGridDimensions⟩
      all_goals exact ⟨rfl, rfl⟩
  | setPositionByName p =>
      rw [step_setPositionByName]
      split
      · exact ⟨(storeOnly_setPositions _).containerWidth, (storeOnly_setPositions _).appGridDimensions⟩
      · exact ⟨rfl, rfl⟩
  | unmount => exact ⟨rfl, rfl⟩
  | _ =>
      simp only [step]
      split_ifs <;> exact ⟨rfl, rfl⟩

end NdvLayout
