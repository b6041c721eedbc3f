import NdvLayout.Watcher

/-!
# NDV draggable panels: the lifecycle gates

Two refs decide whether an event reaches the layout at all: whether the
panels are mounted, and `initialized`, which the `setTimeout` of `onMounted`
raises.  This module says what the two gates let through over whole sessions.

* Closed panels are inert.  Between an unmount and the next mount nothing but
  the app-grid size moves: no handler runs, the store, the persisted widths,
  the container width and the instance's refs stay as they are.  The app grid
  itself is, in every session, the size of the last viewport notification.
* Until the init timeout has fired, `onResizeThrottle` drops every resize
  report, so a session without the timeout ends where it ends with its
  resizes taken out.
* `PanelDragButton` is rendered only for mounted panels whose props neither
  hide the input and output nor forbid dragging, and the drag handlers check
  the same: for any other props the drag events can be taken out of a session.

Two inputs of the layout are written by few events.  No handler writes the
app grid or the touch probe, so the orientation `useVerticalLayout` is, in
every session, the one the last notified size gives.  Local storage is written
by `storePositionData` alone, which only the ends of a drag and of a resize
call: the gestures themselves never touch it, and the end writes under the
current type's key only.

A drag gesture is what `PanelDragButton` emits: `dragstart`, the moves,
`dragend`, and then the timeout of `onDragEnd`.  `isDragging` is up between
the start and the timeout, and only the template's classes read it.

Each run result is an induction whose step reads one field lemma of
`StepWrites`, the classification of a step of `NdvLayout.Session`.

**Results.**
* `run_appGridDimensions`: in every session the recorded app grid is the size
  of the last viewport notification, or the one before the session.
* `closed_panels_inert`: a session without a mount leaves closed panels as
  they were, but for that app grid.
* `resizes_dropped_until_initialized`: before the init timeout, resize reports
  change nothing, wherever they stand in the session.
* `drags_ignored_when_undraggable`: while every mounted props hide the drag
  button, drag starts, moves and ends change nothing.
* `run_useVerticalLayout`: the orientation is always the one the last
  notified app-grid size gives.
* `run_storage_of_no_gesture_end`: local storage is written only when a drag
  or a resize ends.
* `run_storage_of_not_shown`: a session leaves the persisted width of a type
  it never shows as it was.
* `drag_gesture`: a whole gesture acts as its moves, persists the width they
  leave, and takes the flag down again.
-/

namespace NdvLayout

open Panels

/-- Whether an event is a report of `N8nResizeWrapper`'s `resize`. -/
def Event.isResize : Event → Bool
  | .resize _ => true
  | _ => false

theorem Event.isResize_eq_true {e : Event} (h : e.isResize = true) : ∃ data, e = .resize data := by
  cases e with
  | resize data => exact ⟨data, rfl⟩
  | _ => simp [isResize] at h

section Step

variable (m : ℕ) (s : Panels)

/-- On closed panels an event other than a mount does nothing but record the
size of a viewport notification. -/
theorem step_of_not_mounted {e : Event} (he : ∀ props, e ≠ .mount props) (hm : s.mounted = false) :
    step m s e = { s with appGridDimensions := e.appGridAfter s.appGridDimensions } := by
  have hd : ¬ s.dragEnabled := fun h => Bool.false_ne_true (hm ▸ h.1)
  have hr : ∀ direction, ¬ s.resizeEnabled direction := fun _ h => Bool.false_ne_true (hm ▸ h.1)
  cases e with
  | mount props => exact absurd rfl (he props)
  | unmount =>
      cases s
      cases hm
      rfl
  | appGridResize d n => exact step_appGridResize_of_not_mounted m s d n hm
  | resize data => exact if_neg (hr data.direction)
  | resizeEnd => exact if_neg fun h => Bool.false_ne_true (hm ▸ h.1)
  | drag => exact if_neg hd
  | dragStart => exact if_neg hd
  | dragEnd => exact if_neg hd
  | _ => exact if_neg (by simp [hm])

/-- Before the init timeout `onResizeThrottle` drops the report. -/
theorem step_resize_of_not_initialized (data : ResizeData) (hi : s.initialized = false) :
    step m s (.resize data) = s := by
  simp only [step, onResizeThrottle, hi, Bool.false_eq_true, if_false, ite_self]

end Step



variable (m : ℕ)

/-- In every session the recorded app grid is the size of the last viewport
notification, or the one before the session if there was none. -/
theorem run_appGridDimensions (s : Panels) (es : List Event) :
    (run m s es).appGridDimensions = es.foldl Event.appGridAfter s.appGridDimensions := by
  induction es generalizing s with
  | nil => rfl
  | cons e es ih =>
      rw [run_cons, ih, (step_writes m s e).appGridDimensions]
      rfl

/-- The orientation is, in every session, the one the last notified app-grid
size gives: nothing else the layout does switches between the horizontal and
the vertical layout. -/
theorem run_useVerticalLayout (s : Panels) (es : List Event) :
    (run m s es).useVerticalLayout =
      ({ s with appGridDimensions := es.foldl Event.appGridAfter s.appGridDimensions } : Panels).useVerticalLayout := by
  have ht : (run m s es).isTouchDevice = s.isTouchDevice := by
    induction es generalizing s with
    | nil => rfl
    | cons e es ih => rw [run_cons, ih, (step_writes m s e).isTouchDevice]
  simp only [useVerticalLayout, run_appGridDimensions, ht]

/-- Turning the half-width panel's window to a 900 × 1000 portrait on a device
without touch, then dragging and resizing: the layout stays horizontal. -/
theorem run_useVerticalLayout_portrait_without_touch :
    (run 360 halfMount [.appGridResize ⟨900, 1000⟩ none, .drag (300, 0), .resize ⟨"right", 700, 400⟩]).useVerticalLayout =
      false := by
  have ht : halfMount.isTouchDevice = false :=
    (step_mount_fields 360 (pageLoad (some (.num (1 / 2)))) regularProps rfl).2.2.2.1
  rw [run_useVerticalLayout, ← Bool.not_eq_true, useVerticalLayout_eq_true_iff]
  simp only [List.foldl, Event.appGridAfter, ht]
  norm_num

/-- Closed panels ignore every event but a mount: over every session without
one they stay closed, keep their store, persisted widths, container width and
refs, and only record the app-grid size of the viewport notifications. -/
theorem closed_panels_inert (s : Panels) (es : List Event) (hm : s.mounted = false)
    (hes : ∀ props, Event.mount props ∉ es) :
    run m s es = { s with appGridDimensions := es.foldl Event.appGridAfter s.appGridDimensions } := by
  induction es generalizing s with
  | nil => rfl
  | cons e es ih =>
      have he : ∀ props, e ≠ .mount props := fun props h => hes props (h ▸ List.mem_cons_self _ _)
      rw [run_cons, step_of_not_mounted m s he hm,
        ih { s with appGridDimensions := e.appGridAfter s.appGridDimensions } hm
          fun props h => hes props (List.mem_cons_of_mem _ h)]
      rfl

/-- A closed page sees a viewport change, a drag, a resize report and a named
snap: only the app grid moves. -/
theorem closed_panels_inert_on_page_load :
    (pageLoad none).mounted = false ∧
      (∀ props, Event.mount props ∉ [.appGridResize ⟨800, 600⟩ none, .drag (400, 300),
        .resize ⟨"right", 700, 400⟩, .setPositionByName .minLeft]) ∧
      run 360 (pageLoad none) [.appGridResize ⟨800, 600⟩ none, .drag (400, 300),
          .resize ⟨"right", 700, 400⟩, .setPositionByName .minLeft] =
        { pageLoad none with
          appGridDimensions := [.appGridResize ⟨800, 600⟩ none, .drag (400, 300),
            .resize ⟨"right", 700, 400⟩, .setPositionByName .minLeft].foldl Event.appGridAfter
              (pageLoad none).appGridDimensions } :=
  have hes : ∀ props, Event.mount props ∉ [.appGridResize ⟨800, 600⟩ none, .drag (400, 300),
      .resize ⟨"right", 700, 400⟩, .setPositionByName .minLeft] := by
    simp
  ⟨rfl, hes, closed_panels_inert 360 (pageLoad none) _ rfl hes⟩

/-- Until the init timeout has fired, resize reports are dropped: over every
session without the timeout, from panels not yet initialised, taking the
resizes out of the session does not change where it ends. -/
theorem resizes_dropped_until_initialized (s : Panels) (es : List Event) (hi : s.initialized = false)
    (hes : Event.initTimeout ∉ es) :
    run m s es = run m s (es.filter fun e => !e.isResize) := by
  induction es generalizing s with
  | nil => rfl
  | cons e es ih =>
      have hes' : Event.initTimeout ∉ es := fun h => hes (List.mem_cons_of_mem _ h)
      cases hr : e.isResize
      · have he : e ≠ .initTimeout := fun h => hes (h ▸ List.mem_cons_self _ _)
        rw [List.filter_cons_of_pos (by simp [hr]), run_cons, run_cons,
          ih _ ((step_writes m s e).initialized_of_ne he hi) hes']
      · obtain ⟨data, rfl⟩ := Event.isResize_eq_true hr
        rw [List.filter_cons_of_neg (by simp [hr]), run_cons, step_resize_of_not_initialized m s data hi,
          ih s hi hes']

/-- Right after the half-width mount, two resize reports around a drag are dropped. -/
theorem resizes_dropped_after_mount :
    halfMount.initialized = false ∧
      Event.initTimeout ∉ [.resize ⟨"right", 800, 400⟩, .drag (500, 0), .resize ⟨"left", 300, 500⟩] ∧
      run 360 halfMount [.resize ⟨"right", 800, 400⟩, .drag (500, 0), .resize ⟨"left", 300, 500⟩] =
        run 360 halfMount ([.resize ⟨"right", 800, 400⟩, .drag (500, 0), .resize ⟨"left", 300, 500⟩].filter
          fun e => !e.isResize) :=
  have hi : halfMount.initialized = false :=
    (step_mount_storeOnly 360 (pageLoad (some (.num (1 / 2)))) regularProps rfl).initialized
  have hes : Event.initTimeout ∉ [.resize ⟨"right", 800, 400⟩, .drag (500, 0), .resize ⟨"left", 300, 500⟩] := by
    simp
  ⟨hi, hes, resizes_dropped_until_initialized 360 halfMount _ hi hes⟩

/-! ## The drag button's gate -/

/-- Whether an event comes from `PanelDragButton`: a drag start, a move or a drag end. -/
def Event.isDrag : Event → Bool
  | .dragStart => true
  | .drag _ => true
  | .dragEnd => true
  | _ => false

/-- Props under which `PanelDragButton` is never rendered. -/
def Props.Undraggable (props : Props) : Prop :=
  props.hideInputAndOutput = true ∨ props.isDraggable = false

/-- Props of a node with an input slot that cannot be dragged. -/
def draglessProps : Props := ⟨false, false, some ⟨none⟩, true⟩

section DragGate

variable {m : ℕ} {s : Panels}

theorem not_dragEnabled_of_undraggable (h : s.mounted = false ∨ s.props.Undraggable) : ¬ s.dragEnabled := by
  rintro ⟨hm, hh, hd⟩
  rcases h with h | h | h <;> simp_all

theorem step_of_isDrag {e : Event} (he : e.isDrag = true) (h : ¬ s.dragEnabled) : step m s e = s := by
  cases e <;> first | exact if_neg h | simp [Event.isDrag] at he

/-- Closed panels, or panels whose props hide the drag button, stay so under
every event but a mount of draggable props. -/
theorem step_undraggable {e : Event} (h : s.mounted = false ∨ s.props.Undraggable)
    (he : ∀ props, e = .mount props → props.Undraggable) :
    (step m s e).mounted = false ∨ (step m s e).props.Undraggable := by
  rcases step_mounts_or_keeps_props m s e with ⟨props, rfl, hs⟩ | ⟨hp, hmt⟩
  · right
    rw [(step_mount_fields m s props hs).1]
    exact he props rfl
  · rcases h with h | h
    · exact .inl (Bool.eq_false_iff.mpr fun h' => Bool.false_ne_true (h ▸ hmt h'))
    · exact .inr (hp ▸ h)

end DragGate

/-- While the drag button is hidden, drag events are dropped: over every session
whose mounts all carry props that hide it, from panels that are closed or hide
it too, taking the drag starts, moves and ends out of the session does not
change where it ends. -/
theorem drags_ignored_when_undraggable (s : Panels) (es : List Event)
    (hs : s.mounted = false ∨ s.props.Undraggable) (hes : ∀ props, Event.mount props ∈ es → props.Undraggable) :
    run m s es = run m s (es.filter fun e => !e.isDrag) := by
  induction es generalizing s with
  | nil => rfl
  | cons e es ih =>
      have hes' : ∀ props, Event.mount props ∈ es → props.Undraggable :=
        fun props h => hes props (List.mem_cons_of_mem _ h)
      cases hd : e.isDrag
      · rw [List.filter_cons_of_pos (by simp [hd]), run_cons, run_cons,
          ih _ (step_undraggable hs fun props h => hes props (h ▸ List.mem_cons_self _ _)) hes']
      · rw [List.filter_cons_of_neg (by simp [hd]), run_cons,
          step_of_isDrag hd (not_dragEnabled_of_undraggable hs), ih s hs hes']

/-- A node that cannot be dragged is opened and the drag gestures sent to it are dropped. -/
theorem drags_ignored_for_dragless_node :
    ((pageLoad none).mounted = false ∨ (pageLoad none).props.Undraggable) ∧
      (∀ props, Event.mount props ∈ [.mount draglessProps, .dragStart, .drag (300, 0), .dragEnd] →
        props.Undraggable) ∧
      run 360 (pageLoad none) [.mount draglessProps, .dragStart, .drag (300, 0), .dragEnd] =
        run 360 (pageLoad none)
          ([.mount draglessProps, .dragStart, .drag (300, 0), .dragEnd].filter fun e => !e.isDrag) :=
  have hes : ∀ props, Event.mount props ∈ [.mount draglessProps, .dragStart, .drag (300, 0), .dragEnd] →
      props.Undraggable := by
    simp [Props.Undraggable, draglessProps]
  ⟨.inl rfl, hes, drags_ignored_when_undraggable 360 (pageLoad none) _ (.inl rfl) hes⟩

/-- Local storage is written only when a gesture ends: over every session
without a drag end or a resize end, the persisted widths stay as they were. -/
theorem run_storage_of_no_gesture_end (s : Panels) (es : List Event) (hd : Event.dragEnd ∉ es)
    (hr : Event.resizeEnd ∉ es) : (run m s es).storage = s.storage := by
  induction es generalizing s with
  | nil => rfl
  | cons e es ih =>
      rw [run_cons, ih _ (fun h => hd (List.mem_cons_of_mem _ h)) (fun h => hr (List.mem_cons_of_mem _ h)),
        (step_writes m s e).storage_of_ne (fun h => hd (h ▸ List.mem_cons_self _ _))
          (fun h => hr (h ▸ List.mem_cons_self _ _))]

/-- A regular panel opened, dragged, resized and snapped, without ending a
gesture: nothing reaches local storage. -/
theorem run_storage_of_no_gesture_end_regular_session :
    Event.dragEnd ∉ [.mount regularProps, .initTimeout, .dragStart, .drag (300, 0), .resize ⟨"right", 700, 400⟩,
      .setPositionByName .initial] ∧
      Event.resizeEnd ∉ [.mount regularProps, .initTimeout, .dragStart, .drag (300, 0), .resize ⟨"right", 700, 400⟩,
        .setPositionByName .initial] ∧
      (run 360 (pageLoad none) [.mount regularProps, .initTimeout, .dragStart, .drag (300, 0),
        .resize ⟨"right", 700, 400⟩, .setPositionByName .initial]).storage = (pageLoad none).storage :=
  have hd : Event.dragEnd ∉ [.mount regularProps, .initTimeout, .dragStart, .drag (300, 0),
      .resize ⟨"right", 700, 400⟩, .setPositionByName .initial] := by
    simp
  have hr : Event.resizeEnd ∉ [.mount regularProps, .initTimeout, .dragStart, .drag (300, 0),
      .resize ⟨"right", 700, 400⟩, .setPositionByName .initial] := by
    simp
  ⟨hd, hr, run_storage_of_no_gesture_end 360 (pageLoad none) _ hd hr⟩


/-- A session leaves the persisted width of a panel type it never shows as it
was: `storePositionData` writes under the key of the current type only. -/
theorem run_storage_of_not_shown (s : Panels) (t : MainPanelType) (es : List Event)
    (hs : s.currentNodePaneType ≠ t) (hes : ∀ props, Event.mount props ∈ es → (s.setup props).currentNodePaneType ≠ t) :
    (run m s es).storage t = s.storage t := by
  induction es generalizing s with
  | nil => rfl
  | cons e es ih =>
      have hs' := step_currentNodePaneType_ne m s e hs fun props h => hes props (h ▸ List.mem_cons_self _ _)
      rw [run_cons, ih _ hs' fun props hp => hes props (List.mem_cons_of_mem e hp),
        (step_writes m s e).storage_of_ne_current hs.symm]

/-- A regular panel opened, dragged to an end, resized to an end, closed and
reopened: the width persisted for the dragless type stays as it was. -/
theorem run_storage_of_not_shown_regular_session :
    (pageLoad none).currentNodePaneType ≠ .dragless ∧
      (∀ props, Event.mount props ∈ [.mount regularProps, .initTimeout, .dragStart, .drag (300, 0), .dragEnd,
          .resize ⟨"right", 700, 400⟩, .resizeEnd, .unmount, .mount regularProps] →
        ((pageLoad none).setup props).currentNodePaneType ≠ .dragless) ∧
      (run 360 (pageLoad none) [.mount regularProps, .initTimeout, .dragStart, .drag (300, 0), .dragEnd,
          .resize ⟨"right", 700, 400⟩, .resizeEnd, .unmount, .mount regularProps]).storage .dragless =
        (pageLoad none).storage .dragless := by
  have hs : (pageLoad none).currentNodePaneType ≠ .dragless := by decide
  have hes : ∀ props, Event.mount props ∈ [.mount regularProps, .initTimeout, .dragStart, .drag (300, 0), .dragEnd,
      .resize ⟨"right", 700, 400⟩, .resizeEnd, .unmount, .mount regularProps] →
      ((pageLoad none).setup props).currentNodePaneType ≠ .dragless := by
    intro props hp
    simp only [List.mem_cons, Event.mount.injEq, reduceCtorEq, List.not_mem_nil, or_false, false_or,
      or_self] at hp
    subst hp
    decide
  exact ⟨hs, hes, run_storage_of_not_shown 360 _ _ _ hs hes⟩

/-! ## A drag gesture -/

section Gesture

variable (s : Panels)

/-- A drag move does not read the drag flag. -/
theorem step_drag_isDragging (b : Bool) (p : ℚ × ℚ) :
    step m { s with isDragging := b } (.drag p) = { step m s (.drag p) with isDragging := b } := by
  by_cases he : s.dragEnabled
  · rw [step_drag, step_drag, if_pos (show ({ s with isDragging := b } : Panels).dragEnabled from he), if_pos he]
    cases hv : s.useVerticalLayout
    · rw [onDrag_of_horizontal ({ s with isDragging := b } : Panels) p hv, onDrag_of_horizontal s p hv,
        setPositions_eq, setPositions_eq]
      rfl
    · rw [onDrag_of_vertical ({ s with isDragging := b } : Panels) p hv, onDrag_of_vertical s p hv]
      rfl
  · rw [step_drag, step_drag, if_neg (show ¬ ({ s with isDragging := b } : Panels).dragEnabled from he), if_neg he]

theorem run_drags_isDragging (b : Bool) (ps : List (ℚ × ℚ)) :
    run m { s with isDragging := b } (ps.map .drag) = { run m s (ps.map .drag) with isDragging := b } := by
  induction ps generalizing s with
  | nil => rfl
  | cons p ps ih => rw [List.map_cons, run_cons, run_cons, step_drag_isDragging, ih]

/-- A drag keeps what the `initial` snap reads: the props, the mount, the
container width and the panel's width. -/
theorem step_drag_snapInputs (p : ℚ × ℚ) :
    (step m s (.drag p)).props = s.props ∧ (step m s (.drag p)).mounted = s.mounted ∧
      (step m s (.drag p)).containerWidth = s.containerWidth ∧
      (step m s (.drag p)).mainPanelDimensions.relativeWidth = s.mainPanelDimensions.relativeWidth := by
  have hw := (step_drag_layout m s p).2.2
  have h := step_writes m s (.drag p)
  generalize step m s (.drag p) = s' at h hw ⊢
  cases h with
  | store _ h => exact ⟨h.props, h.mounted, h.containerWidth, hw⟩
  | vertical => exact ⟨rfl, rfl, rfl, hw⟩

theorem run_drags_snapInputs (ps : List (ℚ × ℚ)) :
    (run m s (ps.map .drag)).props = s.props ∧ (run m s (ps.map .drag)).mounted = s.mounted ∧
      (run m s (ps.map .drag)).containerWidth = s.containerWidth ∧
      (run m s (ps.map .drag)).mainPanelDimensions.relativeWidth = s.mainPanelDimensions.relativeWidth := by
  induction ps generalizing s with
  | nil => exact ⟨rfl, rfl, rfl, rfl⟩
  | cons p ps ih =>
      obtain ⟨hp, hm, hc, hw⟩ := step_drag_snapInputs m s p
      obtain ⟨hp', hm', hc', hw'⟩ := ih (step m s (.drag p))
      exact ⟨hp'.trans hp, hm'.trans hm, hc'.trans hc, hw'.trans hw⟩

end Gesture

/-- A whole gesture of the drag button: `dragstart`, the moves, `dragend`, and
the timeout `onDragEnd` sets.  The flag is up while the moves go on, and the
layout never reads it; the end persists the width the moves left under the
current type's key, and the timeout takes the flag down. -/
theorem drag_gesture (s : Panels) (ps : List (ℚ × ℚ)) (he : s.dragEnabled) :
    (run m s (.dragStart :: ps.map .drag)).isDragging = true ∧
      run m s (.dragStart :: (ps.map .drag ++ [.dragEnd, .dragEndTimeout])) =
        { (run m s (ps.map .drag)).storePositionData with isDragging := false } := by
  have hstart : step m s .dragStart = { s with isDragging := true } := if_pos he
  obtain ⟨hp, hm, -, -⟩ := run_drags_snapInputs m s ps
  have hd : (run m s (ps.map .drag)).dragEnabled := (dragEnabled_congr s hp hm).mpr he
  refine ⟨by rw [run_cons, hstart, run_drags_isDragging], ?_⟩
  rw [run_cons, hstart, run_append, run_drags_isDragging, run_cons, run_cons, run_nil,
    show step m { run m s (ps.map .drag) with isDragging := true } .dragEnd =
      ({ run m s (ps.map .drag) with isDragging := true } : Panels).storePositionData from if_pos hd]
  exact if_pos hd.1

/-- The centred regular panel dragged twice and let go: the flag is up during
the moves and down at the end, and the width is persisted. -/
theorem drag_gesture_at_snap :
    snapState.dragEnabled ∧
      (run 360 snapState (.dragStart :: [(600, 0), (200, 0)].map .drag)).isDragging = true ∧
      run 360 snapState (.dragStart :: ([(600, 0), (200, 0)].map .drag ++ [.dragEnd, .dragEndTimeout])) =
        { (run 360 snapState ([(600, 0), (200, 0)].map .drag)).storePositionData with isDragging := false } :=
  have h : snapState.dragEnabled := regularWith_dragEnabled _
  ⟨h, drag_gesture 360 snapState _ h⟩

end NdvLayout
