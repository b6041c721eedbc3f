import NdvLayout.Arrows

/-!
# NDV draggable panels: invariants of whole sessions

The earlier modules say what one event does.  Here the events are put
together: every law below holds in every state of every session, or over every
run of events, and is proved from one lemma per kind of event (a mount, a
viewport change, a drag, and the quiet rest) by induction over the session.
Those lemmas come from one classification of what a step can write.

What a session keeps:

* the horizontal tiling: while the panels are mounted, outside the inputless
  type, the input panel ends where the main panel starts and the output panel
  starts where the main panel ends, pulled back only to keep
  `MIN_PANEL_WIDTH + SIDE_MARGIN` of it in view;
* the store of the other panel types: a session writes only the entries of the
  types it shows;
* the vertical stacking: while the app-grid height stays, the main panel's top
  stays where a drag can put it, and the three boxes stay stacked.

The sum laws of the store are laws of exact arithmetic.  The code computes the
model's numbers as long as no conversion divides by zero, so the results about
the tiling and the store are stated over the sessions of `PositiveReachable`;
a notification of zero size writes infinite edges that leave them.

**Results.**
* `step_writes`: every step is one of the few changes `StepWrites` lists; what
  a quiet event keeps, and what a run keeps of the inputs, is read off it.
* `Reachable.mainPanelDimensions_fills`: in every reachable mounted state
  outside the inputless type, the current entry fills the container.
* `PositiveReachable.horizontal_panels_tile`: over the sessions with positive
  sizes, the same in pixels, as the styles of the three panels.
* `PositiveReachable.entry_within_container`: over those sessions, every entry
  of every type is the default or claims at most the container.
* `run_ndvStore_of_not_shown`: a session leaves the entry of a type it never
  shows as it was.
* `run_keeps_vertical_boxes`: a session that keeps the app-grid height keeps
  the main panel's top where a drag can put it, and the vertical boxes stacked
  and each at least `MIN_PANEL_HEIGHT` tall.
* `run_keeps_widths`: moving the panel never resizes it.
* `run_drags_last_wins`: a sequence of drags ends where its last drag alone
  puts the panel.
* `reopen_keeps_entry`: closing the panels and opening them over an entry that
  has left the default edges keeps that entry.
-/

namespace NdvLayout

open Panels

namespace Panels

variable {s s' : Panels}

/-- The panel type is read off the props alone. -/
theorem currentNodePaneType_congr (h : s'.props = s.props) :
    s'.currentNodePaneType = s.currentNodePaneType := by
  simp only [currentNodePaneType, h]

/-- Only a node without an input slot is of the inputless type. -/
theorem hasInputSlot_of_ne_inputless (h : s.currentNodePaneType ≠ .inputless) : s.props.hasInputSlot = true := by
  by_contra hn
  exact h (s.currentNodePaneType_eq_inputless_of_not_hasInputSlot (by simpa using hn))

theorem EndsInSetPositions.mainPanelDimensions_fills (h : EndsInSetPositions s s')
    (ht : s'.currentNodePaneType ≠ .inputless) : s'.mainPanelDimensions.Fills := by
  obtain ⟨s₀, x, rfl, -⟩ := h
  exact s₀.setPositions_fills x (by rwa [setPositions_currentNodePaneType] at ht)

/-- A step of `s` ends in `setPositions` or keeps the store; either way it
writes no entry but the one of its own panel type. -/
theorem EndsInSetPositions.ndvStore_of_ne (h : EndsInSetPositions s s') {t : MainPanelType}
    (ht : t ≠ s'.currentNodePaneType) : s'.ndvStore t = s.ndvStore t := by
  obtain ⟨s₀, x, rfl, h₀⟩ := h
  rw [setPositions_currentNodePaneType] at ht
  rw [setPositions_eq, setMainPanelDimensions_ndvStore_of_ne _ ht, h₀ t ht]

/-- What a step that writes only the store keeps of the layout's inputs. -/
theorem StoreOnly.layoutInputs (h : StoreOnly s s') :
    s'.props = s.props ∧ s'.appGridDimensions = s.appGridDimensions ∧
      s'.mainPanelVerticalPosition = s.mainPanelVerticalPosition ∧ (s'.mounted = true → s.mounted = true) :=
  ⟨h.props, h.appGridDimensions, h.mainPanelVerticalPosition, fun hm => h.mounted ▸ hm⟩

theorem StoreOnly.initialized (h : StoreOnly s s') : s'.initialized = s.initialized := by
  rw [h]

theorem StoreOnly.storage (h : StoreOnly s s') : s'.storage = s.storage := by
  rw [h]

/-- Where the main panel's top can be depends on the props, the app-grid height
and the vertical position only. -/
theorem TopInRange.congr (h : s.TopInRange) (hp : s'.props = s.props)
    (hH : s'.appGridDimensions.height = s.appGridDimensions.height)
    (hv : s'.mainPanelVerticalPosition = s.mainPanelVerticalPosition) : s'.TopInRange := by
  unfold TopInRange pxToRelativeHeight at *
  rwa [hv, hH, currentNodePaneType_congr hp]

end Panels

/-- The app-grid size after an event: a viewport notification records its
size, every other event leaves `uiStore.appGridDimensions` alone. -/
def Event.appGridAfter (g : GridDimensions) : Event → GridDimensions
  | .appGridResize d _ => d
  | _ => g

theorem Event.appGridAfter_of_ne {e : Event} (he : ∀ d n, e ≠ .appGridResize d n) (g : GridDimensions) :
    e.appGridAfter g = g := by
  cases e <;> first | rfl | exact absurd rfl (he _ _)

/-- What one step can write, one constructor per kind of change: the store
alone (every layout handler, and an event its gate stops), a new instance and
its store (a mount), the viewport sizes and the store (the watcher), one ref,
or the current type's persisted width. -/
inductive StepWrites (s : Panels) : Event → Panels → Prop
  | store {e s'} : (∀ d n, e ≠ .appGridResize d n) → s.StoreOnly s' → StepWrites s e s'
  | mount {s'} (props : Props) : s.mounted = false → (s.setup props).StoreOnly s' → StepWrites s (.mount props) s'
  | viewport {s'} (d : GridDimensions) (n : Option ℚ) (w : ℚ) :
      ({ s with appGridDimensions := d, containerWidth := w } : Panels).StoreOnly s' →
        StepWrites s (.appGridResize d n) s'
  | unmount : StepWrites s .unmount { s with mounted := false }
  | initTimeout : StepWrites s .initTimeout { s with initialized := true }
  | dragStart : StepWrites s .dragStart { s with isDragging := true }
  | dragEndTimeout : StepWrites s .dragEndTimeout { s with isDragging := false }
  | vertical (p : ℚ × ℚ) (y : ℚ) : StepWrites s (.drag p) { s with mainPanelVerticalPosition := y }
  | dragEnd : StepWrites s .dragEnd s.storePositionData
  | resizeEnd : StepWrites s .resizeEnd s.storePositionData

/-! ## One lemma per kind of event -/

/-- The events that change neither the props, the viewport nor the vertical
position: all but a mount, a viewport change and a drag. -/
def Event.Quiet : Event → Prop
  | .mount _ => False
  | .appGridResize _ _ => False
  | .drag _ => False
  | _ => True

variable (m : ℕ) (s : Panels)

theorem step_mount_of_mounted (props : Props) (h : s.mounted = true) : step m s (.mount props) = s :=
  if_pos h

theorem step_mount_of_not_mounted (props : Props) (h : s.mounted = false) :
    step m s (.mount props) = s.mount m props := by
  simp only [step, h, Bool.false_eq_true, if_false]

theorem step_appGridResize_of_not_mounted (d : GridDimensions) (n : Option ℚ) (h : s.mounted = false) :
    step m s (.appGridResize d n) = { s with appGridDimensions := d } := by
  rw [step_appGridResize, if_neg (by simp [h])]

/-! ## What one step writes -/

/-- Every step is one of the changes `StepWrites` lists. -/
theorem step_writes (e : Event) : StepWrites s e (step m s e) := by
  have hkeep : ∀ {e : Event}, (∀ d n, e ≠ .appGridResize d n) → StepWrites s e s := fun he => .store he (.refl s)
  cases e with
  | mount props =>
      cases hs : s.mounted
      · exact .mount props hs (step_mount_storeOnly m s props hs)
      · rw [step_mount_of_mounted m s props hs]
        exact hkeep nofun
  | unmount => exact .unmount
  | appGridResize d n =>
      cases hs : s.mounted
      · rw [step_appGridResize_of_not_mounted m s d n hs]
        exact .viewport d n s.containerWidth rfl
      · exact .viewport d n _ (step_appGridResize_storeOnly m s d n hs)
  | drag p =>
      cases hv : s.useVerticalLayout
      · exact .store nofun (step_drag_storeOnly_of_horizontal m s p hv)
      · rw [step_drag]
        split
        · rw [onDrag_of_vertical s p hv]
          exact .vertical p _
        · exact hkeep nofun
  | resize data =>
      simp only [step, onResizeThrottle]
      split_ifs
      · exact .store nofun (storeOnly_onResize s m data)
      all_goals exact hkeep nofun
  | setPositionByName p =>
      rw [step_setPositionByName]
      split
      · exact .store nofun (storeOnly_setPositions _)
      · exact hkeep nofun
  | initTimeout =>
      simp only [step]
      split_ifs
      · exact .initTimeout
      · exact hkeep nofun
  | dragStart =>
      simp only [step]
      split_ifs
      · exact .dragStart
      · exact hkeep nofun
  | dragEndTimeout =>
      simp only [step]
      split_ifs
      · exact .dragEndTimeout
      · exact hkeep nofun
  | dragEnd =>
      simp only [step]
      split_ifs
      · exact .dragEnd
      · exact hkeep nofun
  | resizeEnd =>
      simp only [step]
      split_ifs
      · exact .resizeEnd
      · exact hkeep nofun

/-- A quiet event keeps the props, the app grid and the vertical position, and
never raises the mount flag. -/
theorem step_quiet {e : Event} (he : e.Quiet) :
    (step m s e).props = s.props ∧ (step m s e).appGridDimensions = s.appGridDimensions ∧
      (step m s e).mainPanelVerticalPosition = s.mainPanelVerticalPosition ∧
      ((step m s e).mounted = true → s.mounted = true) := by
  have h := step_writes m s e
  generalize step m s e = s' at h ⊢
  cases h with
  | store _ h => exact h.layoutInputs
  | unmount => exact ⟨rfl, rfl, rfl, fun h => absurd h Bool.false_ne_true⟩
  | mount | viewport | vertical => exact he.elim
  | _ => exact ⟨rfl, rfl, rfl, id⟩

/-- A step mounts new props on unmounted panels, or it keeps the props and
does not raise the mount flag. -/
theorem step_mounts_or_keeps_props (e : Event) :
    (∃ props, e = .mount props ∧ s.mounted = false) ∨
      ((step m s e).props = s.props ∧ ((step m s e).mounted = true → s.mounted = true)) := by
  have h := step_writes m s e
  generalize step m s e = s' at h ⊢
  cases h with
  | mount props hs _ => exact .inl ⟨props, rfl, hs⟩
  | store _ h | viewport _ _ _ h => exact .inr ⟨h.props, fun hm => h.mounted ▸ hm⟩
  | unmount => exact .inr ⟨rfl, fun h => absurd h Bool.false_ne_true⟩
  | _ => exact .inr ⟨rfl, id⟩

namespace StepWrites

variable {s s' : Panels} {e : Event}

/-- No handler writes the app grid; a viewport notification records its size. -/
theorem appGridDimensions (h : StepWrites s e s') : s'.appGridDimensions = e.appGridAfter s.appGridDimensions := by
  cases h with
  | store he h => rw [h.appGridDimensions, Event.appGridAfter_of_ne he]
  | mount _ _ h => exact h.appGridDimensions
  | viewport _ _ _ h => exact h.appGridDimensions
  | _ => rfl

/-- No handler writes the touch probe. -/
theorem isTouchDevice (h : StepWrites s e s') : s'.isTouchDevice = s.isTouchDevice := by
  cases h with
  | store _ h | mount _ _ h | viewport _ _ _ h => exact h.isTouchDevice
  | _ => rfl

/-- Only the end of a drag and the end of a resize write local storage. -/
theorem storage_of_ne (h : StepWrites s e s') (hd : e ≠ .dragEnd) (hr : e ≠ .resizeEnd) : s'.storage = s.storage := by
  cases h with
  | store _ h | mount _ _ h | viewport _ _ _ h => exact h.storage
  | dragEnd => exact absurd rfl hd
  | resizeEnd => exact absurd rfl hr
  | _ => rfl

/-- Local storage is written under the current type's key only. -/
theorem storage_of_ne_current (h : StepWrites s e s') {t : MainPanelType} (ht : t ≠ s.currentNodePaneType) :
    s'.storage t = s.storage t := by
  cases h with
  | store _ h | mount _ _ h | viewport _ _ _ h => exact congrFun h.storage t
  | dragEnd | resizeEnd => exact Function.update_noteq ht _ _
  | _ => rfl

/-- Only the init timeout raises `initialized`; a mount lowers it. -/
theorem initialized_of_ne (h : StepWrites s e s') (he : e ≠ .initTimeout) (hi : s.initialized = false) :
    s'.initialized = false := by
  cases h with
  | store _ h | viewport _ _ _ h => exact h.initialized.trans hi
  | mount _ _ h => exact h.initialized
  | initTimeout => exact absurd rfl he
  | _ => exact hi

end StepWrites

/-! ## The horizontal tiling -/

/-- A mount of a type other than inputless leaves a current entry that fills
the container: it places a default entry, and every other entry of a
reachable state already fills. -/
theorem step_mount_mainPanelDimensions_fills {props : Props} (hr : Reachable m s) (hm : s.mounted = false)
    (ht : (s.setup props).currentNodePaneType ≠ .inputless) :
    (step m s (.mount props)).mainPanelDimensions.Fills := by
  by_cases hdef : (s.setup props).mainPanelDimensions.relativeLeft = 1 ∧
      (s.setup props).mainPanelDimensions.relativeRight = 1
  · have htype := (step_mount_storeOnly m s props hm).currentNodePaneType
    exact (Repositions.endsInSetPositions m s (e := .mount props) ⟨hm, hdef⟩).mainPanelDimensions_fills
      (htype ▸ ht)
  · rw [step_mount_of_not_mounted m s props hm, mount, onMounted_of_not_atDefault _ m hdef]
    rcases hr.sentinelOrFills ht with h | h
    · exact absurd ⟨congrArg MainPanelDimensions.relativeLeft h, congrArg MainPanelDimensions.relativeRight h⟩ hdef
    · exact h

/-- While the panels are mounted, the current entry of a type other than
inputless fills the container, in every state of every session.  Like
`Reachable.sentinelOrFills` this is a law of exact arithmetic, which the code
follows over the sessions of `PositiveReachable`. -/
theorem Reachable.mainPanelDimensions_fills {s : Panels} (h : Reachable m s) (hm : s.mounted = true)
    (ht : s.currentNodePaneType ≠ .inputless) : s.mainPanelDimensions.Fills := by
  induction h with
  | init h₀ => exact absurd (h₀.2.symm.trans hm) Bool.false_ne_true
  | @step s e hr ih =>
      rcases step_mounts_or_keeps_props m s e with ⟨props, rfl, hs⟩ | ⟨hp, hmt⟩
      · exact step_mount_mainPanelDimensions_fills m s hr hs
          ((step_mount_storeOnly m s props hs).currentNodePaneType ▸ ht)
      · have htype := currentNodePaneType_congr hp
        rcases step_ndvStore_cases m s e with hst | hend
        · rw [mainPanelDimensions, htype, hst]
          exact ih (hmt hm) (htype ▸ ht)
        · exact hend.mainPanelDimensions_fills ht

/-- A regular panel mounted in a 1000 × 800 window with the width `1/2` persisted. -/
def halfMount : Panels := step 360 (pageLoad (some (.num (1 / 2)))) (.mount regularProps)

theorem halfMount_reachable : Reachable 360 halfMount := .step _ (.init ⟨fun _ => rfl, rfl⟩)

/-- The mounted panel: its props, the mount flag, the app grid, and the centred
entry of width `1/2`. -/
theorem halfMount_fields :
    halfMount.props = regularProps ∧ halfMount.mounted = true ∧ halfMount.containerWidth = 1000 ∧
      halfMount.appGridDimensions = ⟨1000, 800⟩ ∧ halfMount.mainPanelDimensions = ⟨1 / 4, 1 / 4, 1 / 2⟩ := by
  obtain ⟨hp, hc, hg, -, hm, -⟩ := step_mount_fields 360 (pageLoad (some (.num (1 / 2)))) regularProps rfl
  have hcw : ((pageLoad (some (.num (1 / 2)))).setup regularProps).containerWidth = 1000 := rfl
  have hmin : ((pageLoad (some (.num (1 / 2)))).setup regularProps).minimumLeftPosition = 31 / 250 := by
    rw [minimumLeftPosition_eq_of_hasInputSlot _ (by rw [hcw]; norm_num) rfl, hcw]
    norm_num
  have hmax : ((pageLoad (some (.num (1 / 2)))).setup regularProps).maximumRightPosition = 31 / 250 := by
    rw [maximumRightPosition_eq _ (by rw [hcw]; norm_num), hcw]
    norm_num
  exact ⟨hp, hm, hc, hg, step_mount_regularProps_half 360 (pageLoad (some (.num (1 / 2)))) rfl rfl rfl
    (by rw [hmin]; norm_num) (by rw [hmax]; norm_num)⟩

theorem halfMount_ne_inputless : halfMount.currentNodePaneType ≠ .inputless := by
  simp only [currentNodePaneType, halfMount_fields.1]
  decide

/-- A step writes no store entry but the one of the panel type current after it. -/
theorem step_ndvStore_of_ne {t : MainPanelType} (e : Event) (ht : t ≠ (step m s e).currentNodePaneType) :
    (step m s e).ndvStore t = s.ndvStore t := by
  rcases step_ndvStore_cases m s e with h | h
  · rw [h]
  · exact h.ndvStore_of_ne ht

/-- The panel type after a step is the one before, or the type of the props a
mount brings. -/
theorem step_currentNodePaneType (e : Event) :
    (step m s e).currentNodePaneType = s.currentNodePaneType ∨
      ∃ props, e = .mount props ∧ (step m s e).currentNodePaneType = (s.setup props).currentNodePaneType := by
  rcases step_mounts_or_keeps_props m s e with ⟨props, rfl, hs⟩ | ⟨hp, -⟩
  · exact .inr ⟨props, rfl, (step_mount_storeOnly m s props hs).currentNodePaneType⟩
  · exact .inl (currentNodePaneType_congr hp)

/-- A step keeps the panel type away from `t` unless it mounts props of type `t`. -/
theorem step_currentNodePaneType_ne {t : MainPanelType} (e : Event) (hs : s.currentNodePaneType ≠ t)
    (he : ∀ props, e = .mount props → (s.setup props).currentNodePaneType ≠ t) :
    (step m s e).currentNodePaneType ≠ t := by
  rcases step_currentNodePaneType m s e with h | ⟨props, rfl, h⟩
  · rwa [h]
  · rw [h]
    exact he props rfl

/-- A session leaves the store entry of a panel type it never shows as it was:
neither current at the start nor the type of any props it mounts. -/
theorem run_ndvStore_of_not_shown (t : MainPanelType) (es : List Event) (hs : s.currentNodePaneType ≠ t)
    (hes : ∀ props, Event.mount props ∈ es → (s.setup props).currentNodePaneType ≠ t) :
    (run m s es).ndvStore t = s.ndvStore t := by
  induction es generalizing s with
  | nil => rfl
  | cons e es ih =>
      have hs' := step_currentNodePaneType_ne m s e hs fun props h => hes props (h ▸ List.mem_cons_self _ _)
      rw [run_cons, ih (step m s e) hs' fun props hp => hes props (List.mem_cons_of_mem e hp),
        step_ndvStore_of_ne m s e hs'.symm]

/-- A session that mounts a regular panel, drags it, resizes it, closes it and
opens it again leaves the dragless entry alone. -/
theorem run_ndvStore_of_not_shown_regular_session :
    (pageLoad none).currentNodePaneType ≠ .dragless ∧
      (∀ props, Event.mount props ∈ [.mount regularProps, .drag (300, 400), .resize ⟨"right", 700, 400⟩,
          .resizeEnd, .unmount, .mount regularProps] →
        ((pageLoad none).setup props).currentNodePaneType ≠ .dragless) ∧
      (run 360 (pageLoad none) [.mount regularProps, .drag (300, 400), .resize ⟨"right", 700, 400⟩,
          .resizeEnd, .unmount, .mount regularProps]).ndvStore .dragless =
        (pageLoad none).ndvStore .dragless := by
  have hs : (pageLoad none).currentNodePaneType ≠ .dragless := by decide
  have hes : ∀ props, Event.mount props ∈ [.mount regularProps, .drag (300, 400), .resize ⟨"right", 700, 400⟩,
      .resizeEnd, .unmount, .mount regularProps] →
      ((pageLoad none).setup props).currentNodePaneType ≠ .dragless := by
    intro props hp
    simp only [List.mem_cons, Event.mount.injEq, reduceCtorEq, List.not_mem_nil, or_false, false_or,
      or_self] at hp
    subst hp
    decide
  exact ⟨hs, hes, run_ndvStore_of_not_shown 360 _ _ _ hs hes⟩

/-! ## The vertical stacking -/

/-- Every event keeps the main panel's top where `TopInRange` allows, as long
as it keeps the app-grid height: a mount resets the top to the default
stacking, a drag clamps it, and the other events leave it and what it is
measured against. -/
theorem step_topInRange (e : Event)
    (he : ∀ d n, e = .appGridResize d n → d.height = s.appGridDimensions.height) (h : s.TopInRange) :
    (step m s e).appGridDimensions.height = s.appGridDimensions.height ∧ (step m s e).TopInRange := by
  by_cases hq : e.Quiet
  · obtain ⟨hp, hg, hv, -⟩ := step_quiet m s hq
    exact ⟨by rw [hg], h.congr hp (by rw [hg]) hv⟩
  cases e with
  | mount props =>
      cases hs : s.mounted
      · obtain ⟨-, -, hg, -, -, hv⟩ := step_mount_fields m s props hs
        exact ⟨by rw [hg], .inl hv⟩
      · rw [step_mount_of_mounted m s props hs]
        exact ⟨rfl, h⟩
  | appGridResize d n =>
      have hd := he d n rfl
      cases hs : s.mounted
      · rw [step_appGridResize_of_not_mounted m s d n hs]
        exact ⟨hd, h.congr rfl hd rfl⟩
      · obtain ⟨hp, -, hg, -, -, hv⟩ := step_appGridResize_fields m s d n hs
        have hH : (step m s (.appGridResize d n)).appGridDimensions.height = s.appGridDimensions.height := by
          rw [hg, hd]
        exact ⟨hH, h.congr hp hH hv⟩
  | drag p =>
      obtain ⟨-, hg, h'⟩ := step_drag_topInRange m s p h
      exact ⟨by rw [hg], h'⟩
  | _ => exact absurd trivial hq

theorem run_topInRange (es : List Event)
    (hes : ∀ d n, Event.appGridResize d n ∈ es → d.height = s.appGridDimensions.height) (h : s.TopInRange) :
    (run m s es).appGridDimensions.height = s.appGridDimensions.height ∧ (run m s es).TopInRange := by
  induction es generalizing s with
  | nil => exact ⟨rfl, h⟩
  | cons e es ih =>
      obtain ⟨hH, h'⟩ := step_topInRange m s e (fun d n he => hes d n (he ▸ List.mem_cons_self _ _)) h
      obtain ⟨hH', h''⟩ := ih (step m s e) (fun d n hd => (hes d n (List.mem_cons_of_mem e hd)).trans hH.symm) h'
      exact ⟨hH'.trans hH, h''⟩

/-- A top where `TopInRange` allows, in an app grid at least `618 px` taller
than the main panel, stacks the three boxes and leaves each at least
`MIN_PANEL_HEIGHT` tall. -/
theorem Panels.TopInRange.verticalStacked {s : Panels} (h : s.TopInRange)
    (hH : 618 + initialMainPanelHeight s.currentNodePaneType ≤ s.appGridDimensions.height) :
    s.VerticalStacked := by
  have hmh : 0 < initialMainPanelHeight s.currentNodePaneType := by
    cases s.currentNodePaneType <;> norm_num [initialMainPanelHeight]
  have hpos : 0 < s.appGridDimensions.height := by linarith
  obtain ⟨hin, hout⟩ := relativeHeightToPx_mainPanelTop_bounds _ hpos h
  refine verticalStacked_of_mainPanelTop hpos.ne' (fun hi => le_trans (by norm_num) (hin hi))
    (hout.trans (max_le ?_ ?_))
  all_goals
    norm_num
    linarith

/-- Over every session that keeps the app-grid height, from a top where a drag
can put it, the top stays where a drag can put it, and the vertical boxes end
stacked and each at least `MIN_PANEL_HEIGHT` tall when the app grid is at least
`618 px` taller than the main panel shown at the end. -/
theorem run_keeps_vertical_boxes (es : List Event) (h : s.TopInRange)
    (hes : ∀ d n, Event.appGridResize d n ∈ es → d.height = s.appGridDimensions.height) :
    (run m s es).TopInRange ∧
      (618 + initialMainPanelHeight (run m s es).currentNodePaneType ≤ s.appGridDimensions.height →
        (run m s es).VerticalStacked) := by
  obtain ⟨hg, hr⟩ := run_topInRange m s es hes h
  exact ⟨hr, fun hH => hr.verticalStacked (by rw [hg]; exact hH)⟩

/-- A page load in a 500 × 920 window, narrow enough for the vertical layout. -/
def tallLoad : Panels := { pageLoad none with containerWidth := 500, appGridDimensions := ⟨500, 920⟩ }

/-- Mount a regular panel, drag it down, widen the window, drag it up, close
and reopen it. -/
def tallSession : List Event :=
  [.mount regularProps, .drag (250, 800), .appGridResize ⟨700, 920⟩ none, .drag (250, 100), .unmount,
    .mount regularProps]

theorem run_keeps_vertical_boxes_in_tall_window :
    tallLoad.TopInRange ∧
      (∀ d n, Event.appGridResize d n ∈ tallSession → d.height = tallLoad.appGridDimensions.height) ∧
      618 + initialMainPanelHeight (run 360 tallLoad tallSession).currentNodePaneType ≤
        tallLoad.appGridDimensions.height ∧
      (run 360 tallLoad tallSession).TopInRange ∧ (run 360 tallLoad tallSession).VerticalStacked := by
  have hes : ∀ d n, Event.appGridResize d n ∈ tallSession → d.height = tallLoad.appGridDimensions.height := by
    intro d n hd
    simp only [tallSession, List.mem_cons, Event.appGridResize.injEq, reduceCtorEq, List.not_mem_nil, or_false,
      false_or] at hd
    rw [hd.1]
    rfl
  have hH : 618 + initialMainPanelHeight (run 360 tallLoad tallSession).currentNodePaneType ≤
      tallLoad.appGridDimensions.height := by
    cases (run 360 tallLoad tallSession).currentNodePaneType <;> norm_num [initialMainPanelHeight, tallLoad]
  have h := run_keeps_vertical_boxes 360 tallLoad tallSession (.inl rfl) hes
  exact ⟨.inl rfl, hes, hH, h.1, h.2 hH⟩

/-! ## Moves and reopenings -/

/-- `setPositions` writes edges only: every entry keeps its width. -/
theorem Panels.setPositions_ndvStore_relativeWidth (x : JsNumber) (t : MainPanelType) :
    ((s.setPositions x).ndvStore t).relativeWidth = (s.ndvStore t).relativeWidth := by
  rw [setPositions_eq]
  by_cases ht : t = s.currentNodePaneType
  · subst ht
    rw [setMainPanelDimensions_ndvStore_self, merge_position]
  · rw [setMainPanelDimensions_ndvStore_of_ne _ ht]

/-- The events that can move the panel but have no width to write: all but a
mount, a viewport change and a resize. -/
def Event.KeepsWidths : Event → Prop
  | .mount _ => False
  | .appGridResize _ _ => False
  | .resize _ => False
  | _ => True

theorem step_relativeWidth_of_keepsWidths {e : Event} (he : e.KeepsWidths) (t : MainPanelType) :
    ((step m s e).ndvStore t).relativeWidth = (s.ndvStore t).relativeWidth := by
  cases e with
  | mount => exact he.elim
  | appGridResize => exact he.elim
  | resize => exact he.elim
  | drag p =>
      rw [step_drag]
      split
      · cases hv : s.useVerticalLayout
        · rw [onDrag_of_horizontal s p hv, setPositions_ndvStore_relativeWidth]
        · rw [onDrag_of_vertical s p hv]
          rfl
      · rfl
  | setPositionByName p =>
      rw [step_setPositionByName]
      split
      · exact s.setPositions_ndvStore_relativeWidth _ t
      · rfl
  | unmount => rfl
  | _ =>
      simp only [step]
      split_ifs <;> rfl

/-- Moving the panel never resizes it: over every session of drags, named
snaps and the flag and persisting events around them, every store entry keeps
its width. -/
theorem run_keeps_widths (es : List Event) (hes : ∀ e ∈ es, e.KeepsWidths) (t : MainPanelType) :
    ((run m s es).ndvStore t).relativeWidth = (s.ndvStore t).relativeWidth := by
  induction es generalizing s with
  | nil => rfl
  | cons e es ih =>
      rw [run_cons, ih (step m s e) fun e' h => hes e' (List.mem_cons_of_mem e h),
        step_relativeWidth_of_keepsWidths m s (hes e (List.mem_cons_self e es)) t]

/-- Dragging the snapped panel and sending it to the left margin keeps every width. -/
theorem run_keeps_widths_of_snap_drags :
    (∀ e ∈ [Event.dragStart, .drag (600, 0), .dragEnd, .setPositionByName .minLeft, .dragEndTimeout],
        e.KeepsWidths) ∧
      ∀ t, ((run 360 snapState [.dragStart, .drag (600, 0), .dragEnd, .setPositionByName .minLeft,
          .dragEndTimeout]).ndvStore t).relativeWidth = (snapState.ndvStore t).relativeWidth := by
  have hes : ∀ e ∈ [Event.dragStart, .drag (600, 0), .dragEnd, .setPositionByName .minLeft, .dragEndTimeout],
      e.KeepsWidths := by
    intro e he
    simp only [List.mem_cons, List.not_mem_nil, or_false] at he
    rcases he with rfl | rfl | rfl | rfl | rfl <;> trivial
  exact ⟨hes, run_keeps_widths 360 snapState _ hes⟩

/-- A second position write to the same entry overwrites the first. -/
theorem Panels.setMainPanelDimensions_position_position (t : MainPanelType) (a b c d : ℚ) :
    (s.setMainPanelDimensions t (.position a b)).setMainPanelDimensions t (.position c d) =
      s.setMainPanelDimensions t (.position c d) := by
  simp only [setMainPanelDimensions, Function.update_same, merge_position, Function.update_idem]

/-- Away from the `||` fallback, where `setPositions` puts the panel does not
depend on an earlier `setPositions`. -/
theorem Panels.placement_setPositions {x : ℚ} (hx : x ≠ 0) (y : JsNumber) :
    (s.setPositions y).placement (.num x) = s.placement (.num x) := by
  simp only [placement, targetLeft_num _ hx, setPositions_currentNodePaneType, setPositions_minimumLeftPosition,
    setPositions_maximumRightPosition, setPositions_relativeWidth]

/-- A drag keeps the orientation, the container width and the panel's width. -/
theorem step_drag_layout (p : ℚ × ℚ) :
    (step m s (.drag p)).useVerticalLayout = s.useVerticalLayout ∧
      (step m s (.drag p)).containerWidth = s.containerWidth ∧
      (step m s (.drag p)).mainPanelDimensions.relativeWidth = s.mainPanelDimensions.relativeWidth := by
  rw [step_drag]
  split
  · cases hv : s.useVerticalLayout
    · rw [onDrag_of_horizontal s p hv]
      exact ⟨by rw [setPositions_useVerticalLayout, hv], setPositions_containerWidth _ _,
        setPositions_relativeWidth _ _⟩
    · rw [onDrag_of_vertical s p hv]
      exact ⟨hv, rfl, rfl⟩
  · exact ⟨rfl, rfl, rfl⟩

/-- A drag overwrites the one before it: in the vertical layout always, in the
horizontal one when the later drag's requested left edge is not `0`. -/
theorem step_drag_drag (p q : ℚ × ℚ) (h : s.useVerticalLayout = true ∨
    s.pxToRelativeWidth q.1 - s.mainPanelDimensions.relativeWidth / 2 ≠ 0) :
    step m (step m s (.drag p)) (.drag q) = step m s (.drag q) := by
  by_cases he : s.dragEnabled
  swap
  · rw [step_drag m s p, if_neg he]
  cases hv : s.useVerticalLayout
  · have hq := h.resolve_left (by rw [hv]; decide)
    have he' : (s.setPositions (.num (s.pxToRelativeWidth p.1 - s.mainPanelDimensions.relativeWidth / 2))).dragEnabled :=
      (storeOnly_setPositions _).dragEnabled.mpr he
    rw [step_drag m s p, if_pos he, onDrag_of_horizontal s p hv, step_drag, if_pos he',
      onDrag_of_horizontal _ q (by rw [setPositions_useVerticalLayout, hv]), step_drag m s q, if_pos he,
      onDrag_of_horizontal s q hv, setPositions_pxToRelativeWidth, setPositions_relativeWidth, setPositions_eq,
      placement_setPositions _ hq, setPositions_eq s (.num (s.pxToRelativeWidth p.1 - _)),
      setPositions_eq s (.num (s.pxToRelativeWidth q.1 - _))]
    simp only [currentNodePaneType_setMainPanelDimensions, setMainPanelDimensions_position_position]
  · set X := s.setVerticalPositions (s.pxToRelativeHeight p.2 -
      initialMainPanelHeight s.currentNodePaneType / s.appGridDimensions.height / 2)
    rw [step_drag m s p, if_pos he, onDrag_of_vertical s p hv, step_drag, if_pos (show X.dragEnabled from he),
      onDrag_of_vertical X q hv, step_drag m s q, if_pos he, onDrag_of_vertical s q hv]
    rfl

/-- Only the last drag of a gesture counts: every sequence of drags followed by
a drag to `q` ends where the single drag to `q` puts the panel, in the vertical
layout always and in the horizontal one when the left edge requested for `q`
is not the `||` fallback's `0`. -/
theorem run_drags_last_wins (ps : List (ℚ × ℚ)) (q : ℚ × ℚ) (h : s.useVerticalLayout = true ∨
    s.pxToRelativeWidth q.1 - s.mainPanelDimensions.relativeWidth / 2 ≠ 0) :
    run m s (ps.map .drag ++ [.drag q]) = step m s (.drag q) := by
  induction ps generalizing s with
  | nil => rfl
  | cons p ps ih =>
      obtain ⟨hv, hc, hw⟩ := step_drag_layout m s p
      rw [List.map_cons, List.cons_append, run_cons, ih _ (by rwa [hv, pxToRelativeWidth, hc, hw]),
        step_drag_drag m s p q h]

/-- Three drags of the snapped panel end where the last one alone puts it. -/
theorem run_drags_last_wins_at_snap :
    (snapState.useVerticalLayout = true ∨
        snapState.pxToRelativeWidth 700 - snapState.mainPanelDimensions.relativeWidth / 2 ≠ 0) ∧
      run 360 snapState ([(600, 0), (200, 0)].map .drag ++ [.drag (700, 0)]) =
        step 360 snapState (.drag (700, 0)) :=
  have h : snapState.useVerticalLayout = true ∨
      snapState.pxToRelativeWidth 700 - snapState.mainPanelDimensions.relativeWidth / 2 ≠ 0 := by
    right
    rw [snapState, regularWith_mainPanelDimensions, pxToRelativeWidth]
    norm_num [regularWith]
  ⟨h, run_drags_last_wins 360 snapState _ (700, 0) h⟩

/-- Closing the panels and opening them for `props` over an entry that has
left the default edges: the new instance takes the entry as it is, and starts
afresh only its own refs (the drag and init flags, the container width read
off the app grid, and the vertical position back at the default stacking). -/
theorem reopen_keeps_entry (props : Props)
    (hdef : ¬ ((s.setup props).mainPanelDimensions.relativeLeft = 1 ∧
      (s.setup props).mainPanelDimensions.relativeRight = 1)) :
    run m s [.unmount, .mount props] = s.setup props := by
  rw [run_cons, run_cons, run_nil, show step m s .unmount = { s with mounted := false } from rfl,
    step_mount_of_not_mounted m _ props rfl, mount,
    onMounted_of_not_atDefault (({ s with mounted := false } : Panels).setup props) m hdef]
  rfl

end NdvLayout
