import Mathlib.Algebra.Order.Field.Rat
import Mathlib.Tactic.Linarith

/-!
# Breakpoints: the `useBreakpoints` composable

`useBreakpoints` keeps the window width in a ref and classifies it twice: into
the class `bp`, from `'XS'` to `'XL'`, and into the three flags `isMobile`,
`isTablet` and `isDesktop`.  The thresholds `BREAKPOINT_SM` to `BREAKPOINT_XL`
come from `@/constants`, which is not part of the sources; they are the fields
of a `BreakpointScale`, which carries their order.  The resize listener and its
debounce only decide when the ref takes `window.innerWidth`; they are not
modelled.

The two classifications compare differently at `BREAKPOINT_SM`: there `bp` is
already `'SM'` while `isMobile` still holds.  They agree on everything the flags
promise about the class.

**Results.**
* `breakpoints_monotone_and_consistent`: the class law and the flag law
  together, from the lemmas below.
* `bp_cases`: each class on its interval of widths.
* `bp_mono`: a wider window never gets a smaller class.
* `breakpoint_flags_exactly_one`: every width is exactly one of mobile, tablet
  and desktop.
* `isDesktop_iff_bp`, `isMobile_of_bp_eq_xs`, `bp_of_isTablet`: the flags
  against the class.
* `isMobile_iff_bp`: `isMobile` holds in `'XS'` and at the one width
  `BREAKPOINT_SM` of `'SM'`, nowhere else.
-/

namespace NdvLayout

/-- The classes `bp` returns, `'XS'` to `'XL'`. -/
inductive Breakpoint
  | xs
  | sm
  | md
  | lg
  | xl
deriving DecidableEq, Repr

/-- The place of a class in `XS < SM < MD < LG < XL`. -/
def Breakpoint.rank : Breakpoint → ℕ
  | .xs => 0
  | .sm => 1
  | .md => 2
  | .lg => 3
  | .xl => 4

instance : LE Breakpoint := ⟨fun a b => a.rank ≤ b.rank⟩

instance (a b : Breakpoint) : Decidable (a ≤ b) := inferInstanceAs (Decidable (a.rank ≤ b.rank))

/-- The thresholds `BREAKPOINT_SM < BREAKPOINT_MD < BREAKPOINT_LG < BREAKPOINT_XL`. -/
structure BreakpointScale where
  sm : ℚ
  md : ℚ
  lg : ℚ
  xl : ℚ
  sm_lt_md : sm < md
  md_lt_lg : md < lg
  lg_lt_xl : lg < xl

namespace BreakpointScale

variable (c : BreakpointScale) (width : ℚ)

/-- The class of a width, `bp`. -/
def bp : Breakpoint :=
  if width < c.sm then .xs
  else if width ≥ c.xl then .xl
  else if width ≥ c.lg then .lg
  else if width ≥ c.md then .md
  else .sm

/-- `isMobile`: up to `BREAKPOINT_SM`, inclusive. -/
def isMobile : Bool := decide (width ≤ c.sm)

/-- `isTablet`: strictly between `BREAKPOINT_SM` and `BREAKPOINT_LG`. -/
def isTablet : Bool := decide (width > c.sm ∧ width < c.lg)

/-- `isDesktop`: from `BREAKPOINT_LG` on. -/
def isDesktop : Bool := decide (width ≥ c.lg)

/-- What `bp` can return: each class on its interval of widths. -/
theorem bp_cases :
    (width < c.sm ∧ c.bp width = .xs) ∨ (c.sm ≤ width ∧ width < c.md ∧ c.bp width = .sm) ∨
      (c.md ≤ width ∧ width < c.lg ∧ c.bp width = .md) ∨
      (c.lg ≤ width ∧ width < c.xl ∧ c.bp width = .lg) ∨ (c.xl ≤ width ∧ c.bp width = .xl) := by
  unfold bp
  split_ifs with h₁ h₂ h₃ h₄
  · exact .inl ⟨h₁, rfl⟩
  · exact .inr (.inr (.inr (.inr ⟨h₂, rfl⟩)))
  · exact .inr (.inr (.inr (.inl ⟨h₃, not_le.mp h₂, rfl⟩)))
  · exact .inr (.inr (.inl ⟨h₄, not_le.mp h₃, rfl⟩))
  · exact .inr (.inl ⟨not_lt.mp h₁, not_le.mp h₄, rfl⟩)

/-- A wider window never gets a smaller class. -/
theorem bp_mono {w₁ w₂ : ℚ} (h : w₁ ≤ w₂) : c.bp w₁ ≤ c.bp w₂ := by
  have := c.sm_lt_md
  have := c.md_lt_lg
  have := c.lg_lt_xl
  rcases c.bp_cases w₁ with ⟨_, e₁⟩ | ⟨_, _, e₁⟩ | ⟨_, _, e₁⟩ | ⟨_, _, e₁⟩ | ⟨_, e₁⟩ <;>
  rcases c.bp_cases w₂ with ⟨_, e₂⟩ | ⟨_, _, e₂⟩ | ⟨_, _, e₂⟩ | ⟨_, _, e₂⟩ | ⟨_, e₂⟩ <;>
  rw [e₁, e₂] <;> first | decide | (exfalso; linarith)

/-- Every width is exactly one of mobile, tablet and desktop. -/
theorem breakpoint_flags_exactly_one :
    [c.isMobile width, c.isTablet width, c.isDesktop width].count true = 1 := by
  have := c.sm_lt_md
  have := c.md_lt_lg
  simp only [isMobile, isTablet, isDesktop]
  by_cases h₁ : width ≤ c.sm
  · simp [h₁, not_lt.mpr h₁, show ¬ c.lg ≤ width by linarith]
  · by_cases h₂ : width < c.lg
    · simp [h₁, not_le.mp h₁, h₂, not_le.mpr h₂]
    · simp [h₁, not_le.mp h₁, h₂, not_lt.mp h₂]

theorem isDesktop_iff_bp : c.isDesktop width = true ↔ c.bp width = .lg ∨ c.bp width = .xl := by
  have := c.sm_lt_md
  have := c.md_lt_lg
  rw [isDesktop, decide_eq_true_iff]
  rcases c.bp_cases width with ⟨h, e⟩ | ⟨-, h, e⟩ | ⟨-, h, e⟩ | ⟨h, -, e⟩ | ⟨h, e⟩ <;> rw [e]
  · exact iff_of_false (by linarith) (by decide)
  · exact iff_of_false (by linarith) (by decide)
  · exact iff_of_false (by linarith) (by decide)
  · exact iff_of_true h (.inl rfl)
  · exact iff_of_true (by linarith [c.lg_lt_xl]) (.inr rfl)

theorem isMobile_of_bp_eq_xs (h : c.bp width = .xs) : c.isMobile width = true := by
  rcases c.bp_cases width with ⟨h₁, -⟩ | ⟨-, -, e⟩ | ⟨-, -, e⟩ | ⟨-, -, e⟩ | ⟨-, e⟩
  · exact decide_eq_true h₁.le
  all_goals rw [e] at h; cases h

theorem bp_of_isTablet (h : c.isTablet width = true) : c.bp width = .sm ∨ c.bp width = .md := by
  have := c.lg_lt_xl
  obtain ⟨h₁, h₂⟩ : c.sm < width ∧ width < c.lg := of_decide_eq_true h
  rcases c.bp_cases width with ⟨h, -⟩ | ⟨-, -, e⟩ | ⟨-, -, e⟩ | ⟨h, -, -⟩ | ⟨h, -⟩
  · exact absurd h (not_lt.mpr h₁.le)
  · exact .inl e
  · exact .inr e
  all_goals exfalso; linarith

/-- The two classifications part only at `BREAKPOINT_SM`: `isMobile` holds in
the class `'XS'` and at that one width, where `bp` is already `'SM'`. -/
theorem isMobile_iff_bp : c.isMobile width = true ↔ c.bp width = .xs ∨ width = c.sm := by
  have := c.sm_lt_md
  rw [isMobile, decide_eq_true_iff]
  rcases c.bp_cases width with ⟨h, e⟩ | ⟨h₁, -, e⟩ | ⟨h, -, e⟩ | ⟨h, -, e⟩ | ⟨h, e⟩ <;> rw [e]
  · exact iff_of_true h.le (.inl rfl)
  · simp only [reduceCtorEq, false_or]
    exact ⟨fun h₂ => le_antisymm h₂ h₁, fun h₂ => h₂.le⟩
  all_goals
    have := c.md_lt_lg
    have := c.lg_lt_xl
    exact iff_of_false (by linarith) (by simp only [reduceCtorEq, false_or]; intro; linarith)

/-- A scale with the thresholds the tests' comments name, 768 and 1200, and
`MD` and `XL` thresholds their expectations allow. -/
def testScale : BreakpointScale := ⟨768, 992, 1200, 1920, by norm_num, by norm_num, by norm_num⟩

/-- At 768 px the window is mobile, yet of class `'SM'`. -/
theorem isMobile_at_breakpoint_sm : testScale.isMobile 768 = true ∧ testScale.bp 768 = .sm :=
  ⟨(testScale.isMobile_iff_bp 768).mpr (.inr rfl), by norm_num [bp, testScale]⟩

/-- With the thresholds in increasing order, the class grows with the width; for
every width exactly one flag holds, `isDesktop` exactly in `'LG'` and `'XL'`,
`'XS'` only on mobile, and a tablet only in `'SM'` and `'MD'`. -/
theorem breakpoints_monotone_and_consistent :
    (∀ w₁ w₂ : ℚ, w₁ ≤ w₂ → c.bp w₁ ≤ c.bp w₂) ∧
      ∀ w : ℚ, [c.isMobile w, c.isTablet w, c.isDesktop w].count true = 1 ∧
        (c.isDesktop w = true ↔ c.bp w = .lg ∨ c.bp w = .xl) ∧
        (c.bp w = .xs → c.isMobile w = true) ∧
        (c.isTablet w = true → c.bp w = .sm ∨ c.bp w = .md) :=
  ⟨fun _ _ h => c.bp_mono h, fun w => ⟨c.breakpoint_flags_exactly_one w, c.isDesktop_iff_bp w,
    c.isMobile_of_bp_eq_xs w, c.bp_of_isTablet w⟩⟩

end BreakpointScale

end NdvLayout
