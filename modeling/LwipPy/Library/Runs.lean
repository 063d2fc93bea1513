import Mathlib.Data.List.Induction

/-! Runs of steps that may not be possible: a run of the steps `l` from `s` ends in
`l.foldlM step s`, or is not possible. -/
namespace Runs

variable {S A : Type} {step : S → A → Option S} {s t : S} {a : A} {l : List A}

theorem run_cons :
    (a::l).foldlM step s = some t ↔ ∃ u, step s a = some u ∧ l.foldlM step u = some t := by
  rw [List.foldlM_cons]
  exact Option.bind_eq_some_iff

theorem run_snoc :
    (l ++ [a]).foldlM step s = some t ↔ ∃ u, l.foldlM step s = some u ∧ step u a = some t := by
  rw [List.foldlM_append]
  simp only [List.foldlM_cons,List.foldlM_nil,bind_pure]
  exact Option.bind_eq_some_iff

/-- What holds at the start and is kept by every step holds at the end of every run. -/
theorem invariant {I : List A → S → Prop} (hinit : I [] s)
    (hstep : ∀ {l t a u}, I l t → step t a = some u → I (l ++ [a]) u)
    (h : l.foldlM step s = some t) : I l t := by
  induction l using List.reverseRecOn generalizing t with
  | nil =>
    cases h
    exact hinit
  | append_singleton l a ih =>
    obtain ⟨u,hu,ha⟩ := run_snoc.mp h
    exact hstep (ih hu) ha

/-- Where a run ends that is possible. -/
def last (step : S → A → Option S) (s : S) (l : List A) : S := (l.foldlM step s).getD s

theorem run_last (h : (l.foldlM step s).isSome = true) :
    l.foldlM step s = some (last step s l) := by
  rw [last,← Option.get_eq_getD (h := h),Option.some_get]

end Runs
