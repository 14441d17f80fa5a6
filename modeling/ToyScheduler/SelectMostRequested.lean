import ToyScheduler.Picker

namespace ToyScheduler.SelectMostRequested

open ToyScheduler.Go ToyScheduler.Objects ToyScheduler.Picker

section Select

variable (pod : Pod) (allocatable : NodeToGpuResourceMap)

/-- The capacity check of `SelectMostRequestedNodeForPod` passes for the
visited entry `(node, gpu)`: `gpu + calculatePodGpuRequest(pod)` is not above
`allocatable[node]`, in `int64` arithmetic. -/
def Fits (entry : String × Int64) : Prop :=
  entry.2 + calculatePodGpuRequest pod ≤ allocatable.get entry.1

instance (entry : String × Int64) : Decidable (Fits pod allocatable entry) :=
  inferInstanceAs (Decidable (_ ≤ _))

/-- What the loop knows after visiting `seen`, in the state
`(selectedNode, maxNodeRequested)`: either it is still the initial state and
every visited entry that fits has a negative count, or the state is a visited
entry that fits and whose count is the largest among the visited entries that
fit. -/
def SelectInv (seen : List (String × Int64)) (state : String × Int64) : Prop :=
  (state = ("", 0) ∧ ∀ e ∈ seen, Fits pod allocatable e → e.2.val < 0) ∨
  (state ∈ seen ∧ Fits pod allocatable state ∧
    ∀ e ∈ seen, Fits pod allocatable e → e.2.val ≤ state.2.val)

theorem selectInv_nil : SelectInv pod allocatable [] ("", 0) :=
  .inl ⟨rfl, by simp⟩

/-- Key `n` of `requested` is feasible for `pod` when the code's check
`requested[n] + calculatePodGpuRequest(pod) <= allocatable[n]` holds. -/
def Feasible (requested : NodeToGpuResourceMap) (n : String) : Prop :=
  Fits pod allocatable (n, requested.get n)

/-- What `SelectMostRequestedNodeForPod` is for: its result `r` is `""`
exactly when no key is feasible, and otherwise a feasible key whose requested
count is the largest among the feasible keys. -/
def MostRequested (requested : NodeToGpuResourceMap) (r : String) : Prop :=
  (r = "" ↔ ∀ n ∈ requested.keys, ¬ Feasible pod allocatable requested n) ∧
  (r ≠ "" → r ∈ requested.keys ∧ Feasible pod allocatable requested r ∧
    ∀ n ∈ requested.keys, Feasible pod allocatable requested n →
      requested.get n ≤ requested.get r)

variable {pod allocatable}

private theorem forall_fits_append {Q : String × Int64 → Prop} {seen : List (String × Int64)}
    {e : String × Int64} (hseen : ∀ e' ∈ seen, Fits pod allocatable e' → Q e')
    (he : Fits pod allocatable e → Q e) :
    ∀ e' ∈ seen ++ [e], Fits pod allocatable e' → Q e' := by
  intro e' hmem
  rcases List.mem_append.mp hmem with hseen' | hlast
  · exact hseen e' hseen'
  · rw [List.mem_singleton.mp hlast]
    exact he

theorem selectInv_step {seen : List (String × Int64)} {state : String × Int64}
    (hinv : SelectInv pod allocatable seen state) (e : String × Int64) :
    SelectInv pod allocatable (seen ++ [e]) (selectStep pod allocatable state e) := by
  unfold selectStep
  split
  case isTrue hcheck =>
    have hout : ¬ Fits pod allocatable e := Int64.not_le.mpr hcheck
    rcases hinv with ⟨hstate, hneg⟩ | ⟨hmem, hfits, hmax⟩
    · exact .inl ⟨hstate, forall_fits_append hneg (absurd · hout)⟩
    · exact .inr ⟨List.mem_append_left _ hmem, hfits, forall_fits_append hmax (absurd · hout)⟩
  case isFalse hcheck =>
    have hin : Fits pod allocatable e := Int64.not_lt.mp hcheck
    split
    case isTrue hbetter =>
      have hge : state.2.val ≤ e.2.val := by
        rcases hbetter with hlt | ⟨he, hs⟩
        · exact le_of_lt hlt
        · rw [he, hs]
      refine .inr ⟨List.mem_append_right _ (List.mem_singleton_self e), hin,
        forall_fits_append ?_ fun _ => le_rfl⟩
      rcases hinv with ⟨hstate, hneg⟩ | ⟨-, -, hmax⟩
      · have hzero : state.2.val = 0 := by rw [hstate]; rfl
        intro e' hseen hfits
        have := hneg e' hseen hfits
        omega
      · exact fun e' hseen hfits => (hmax e' hseen hfits).trans hge
    case isFalse hworse =>
      rcases hinv with ⟨hstate, hneg⟩ | ⟨hmem, hfits, hmax⟩
      · have hzero : state.2.val = 0 := by rw [hstate]; rfl
        refine .inl ⟨hstate, forall_fits_append hneg fun _ => ?_⟩
        simp only [not_or, not_and, gt_iff_lt, Int64.lt_iff, Int64.eq_iff, Int64.val_zero]
          at hworse
        omega
      · exact .inr ⟨List.mem_append_left _ hmem, hfits,
          forall_fits_append hmax fun _ => Int64.not_lt.mp (hworse ∘ .inl)⟩

theorem selectInv_foldl {seen : List (String × Int64)} {state : String × Int64}
    (hinv : SelectInv pod allocatable seen state) (rest : List (String × Int64)) :
    SelectInv pod allocatable (seen ++ rest) (rest.foldl (selectStep pod allocatable) state) := by
  induction rest generalizing seen state with
  | nil => simpa using hinv
  | cons e rest ih =>
      simpa using ih (selectInv_step hinv e)

variable {requested : NodeToGpuResourceMap}

theorem selectInv_visits (order : requested.RangeOrder) :
    SelectInv pod allocatable order.visits
      (order.visits.foldl (selectStep pod allocatable) ("", 0)) := by
  simpa using selectInv_foldl (selectInv_nil pod allocatable) order.visits

theorem feasible_of_selectMostRequestedNodeForPod_ne (order : requested.RangeOrder)
    (hne : selectMostRequestedNodeForPod pod allocatable requested order ≠ "") :
    selectMostRequestedNodeForPod pod allocatable requested order ∈ requested.keys ∧
      Feasible pod allocatable requested
        (selectMostRequestedNodeForPod pod allocatable requested order) := by
  unfold selectMostRequestedNodeForPod at *
  have hinv : SelectInv pod allocatable order.visits _ := selectInv_visits order
  generalize order.visits.foldl (selectStep pod allocatable) ("", 0) = state at hinv hne ⊢
  obtain ⟨r, gpu⟩ := state
  rcases hinv with ⟨hstate, -⟩ | ⟨hmem, hfits, -⟩
  · cases hstate
    exact absurd rfl hne
  · have hentry := order.mem_visits.mp hmem
    refine ⟨GoMap.mem_keys.mpr ⟨gpu, hentry⟩, ?_⟩
    rwa [Feasible, GoMap.get_of_mem hentry]

theorem MostRequested.get_eq {r₁ r₂ : String}
    (h₁ : MostRequested pod allocatable requested r₁)
    (h₂ : MostRequested pod allocatable requested r₂) :
    requested.get r₁ = requested.get r₂ := by
  by_cases hr₁ : r₁ = ""
  · have hr₂ : r₂ = "" := h₂.1.mpr (h₁.1.mp hr₁)
    rw [hr₁, hr₂]
  · have hr₂ : r₂ ≠ "" := fun hr₂ => hr₁ (h₁.1.mpr (h₂.1.mp hr₂))
    obtain ⟨hkey₁, hfeas₁, hmax₁⟩ := h₁.2 hr₁
    obtain ⟨hkey₂, hfeas₂, hmax₂⟩ := h₂.2 hr₂
    exact Int64.ext (le_antisymm (hmax₂ r₁ hkey₁ hfeas₁) (hmax₁ r₂ hkey₂ hfeas₂))

/-- At the end of the loop its invariant gives the spec of the result, when
the node names are non-empty and the requested counts non-negative: a
negative count never wins, so the initial state survives only when no key
fits. -/
theorem mostRequested_of_selectInv (order : requested.RangeOrder) {state : String × Int64}
    (hinv : SelectInv pod allocatable order.visits state)
    (hnames : ∀ n ∈ requested.keys, n ≠ "")
    (hnonneg : ∀ n ∈ requested.keys, 0 ≤ (requested.get n).val) :
    MostRequested pod allocatable requested state.1 := by
  have hvisit : ∀ n ∈ requested.keys, (n, requested.get n) ∈ order.visits :=
    fun n hn => order.mem_visits.mpr (GoMap.mem_entries_of_mem_keys hn)
  obtain ⟨r, gpu⟩ := state
  rcases hinv with ⟨hstate, hneg⟩ | ⟨hmem, hfits, hmax⟩
  · cases hstate
    have hnone : ∀ n ∈ requested.keys, ¬ Feasible pod allocatable requested n :=
      fun n hn hfeas => absurd (hneg _ (hvisit n hn) hfeas) (not_lt.mpr (hnonneg n hn))
    exact ⟨iff_of_true rfl hnone, fun hne => absurd rfl hne⟩
  · have hentry := order.mem_visits.mp hmem
    have hgpu : requested.get r = gpu := GoMap.get_of_mem hentry
    have hkey : r ∈ requested.keys := GoMap.mem_keys.mpr ⟨gpu, hentry⟩
    have hfeas : Feasible pod allocatable requested r := by rwa [Feasible, hgpu]
    refine ⟨iff_of_false (hnames r hkey) fun hall => hall r hkey hfeas,
      fun _ => ⟨hkey, hfeas, fun n hn hfeasn => ?_⟩⟩
    rw [Int64.le_iff, hgpu]
    exact hmax _ (hvisit n hn) hfeasn

variable (pod allocatable requested)

/-- `SelectMostRequestedNodeForPod` is most-requested bin packing for every
order in which `range` visits `requested`, when the node names are non-empty
and the requested counts non-negative. -/
theorem selectMostRequestedNodeForPod_mostRequested (order : requested.RangeOrder)
    (hnames : ∀ n ∈ requested.keys, n ≠ "")
    (hnonneg : ∀ n ∈ requested.keys, 0 ≤ (requested.get n).val) :
    MostRequested pod allocatable requested
      (selectMostRequestedNodeForPod pod allocatable requested order) :=
  mostRequested_of_selectInv order (selectInv_visits order) hnames hnonneg

/-- Three nodes for a pod asking one GPU: `b` is the most requested but full,
so the choice is `a`, ahead of the emptier `c`. -/
theorem mostRequested_three_nodes :
    let requested : NodeToGpuResourceMap := ⟨[("a", 1), ("b", 3), ("c", 0)], by decide⟩
    let allocatable : NodeToGpuResourceMap := ⟨[("a", 4), ("b", 3), ("c", 1)], by decide⟩
    let pod := gpuPod "pending" "" "Pending" oneGpu
    (∀ n ∈ requested.keys, n ≠ "") ∧ (∀ n ∈ requested.keys, 0 ≤ (requested.get n).val) ∧
      MostRequested pod allocatable requested
        (selectMostRequestedNodeForPod pod allocatable requested (.stored requested)) ∧
      selectMostRequestedNodeForPod pod allocatable requested (.stored requested) = "a" :=
  ⟨by decide, by decide,
    selectMostRequestedNodeForPod_mostRequested _ _ _ _ (by decide) (by decide), by decide⟩

/-- Whether a node is chosen, and the requested count of the chosen node, do
not depend on the order in which `range` visits `requested`. -/
theorem selectMostRequestedNodeForPod_order_independent (o₁ o₂ : requested.RangeOrder)
    (hnames : ∀ n ∈ requested.keys, n ≠ "")
    (hnonneg : ∀ n ∈ requested.keys, 0 ≤ (requested.get n).val) :
    (selectMostRequestedNodeForPod pod allocatable requested o₁ = "" ↔
        selectMostRequestedNodeForPod pod allocatable requested o₂ = "") ∧
      requested.get (selectMostRequestedNodeForPod pod allocatable requested o₁) =
        requested.get (selectMostRequestedNodeForPod pod allocatable requested o₂) := by
  have h₁ : MostRequested pod allocatable requested
      (selectMostRequestedNodeForPod pod allocatable requested o₁) :=
    mostRequested_of_selectInv o₁ (selectInv_visits o₁) hnames hnonneg
  have h₂ : MostRequested pod allocatable requested
      (selectMostRequestedNodeForPod pod allocatable requested o₂) :=
    mostRequested_of_selectInv o₂ (selectInv_visits o₂) hnames hnonneg
  exact ⟨h₁.1.trans h₂.1.symm, h₁.get_eq h₂⟩

/-- Two empty nodes that both fit a one-GPU pod: the count of the choice does
not depend on the order, but the name does, since on a tie at zero the last
node visited wins. -/
theorem selectMostRequested_tie_two_orders :
    let requested : NodeToGpuResourceMap := ⟨[("a", 0), ("b", 0)], by decide⟩
    let allocatable : NodeToGpuResourceMap := ⟨[("a", 1), ("b", 1)], by decide⟩
    let pod := gpuPod "pending" "" "Pending" oneGpu
    let reversed : requested.RangeOrder := ⟨[("b", 0), ("a", 0)], by decide⟩
    ((selectMostRequestedNodeForPod pod allocatable requested (.stored requested) = "" ↔
        selectMostRequestedNodeForPod pod allocatable requested reversed = "") ∧
      requested.get (selectMostRequestedNodeForPod pod allocatable requested (.stored requested)) =
        requested.get (selectMostRequestedNodeForPod pod allocatable requested reversed)) ∧
      selectMostRequestedNodeForPod pod allocatable requested (.stored requested) = "b" ∧
      selectMostRequestedNodeForPod pod allocatable requested reversed = "a" :=
  ⟨selectMostRequestedNodeForPod_order_independent _ _ _ _ _ (by decide) (by decide),
    by decide, by decide⟩

end Select

section TieBreak

variable {pod : Pod} {allocatable : NodeToGpuResourceMap}

/-- Where the loop's state stands among the visited entries `seen`, when no
count is negative: either it is still the initial state and no visited entry
fits, or it is a visited entry that fits such that every entry fitting before
it has a smaller count or both counts are `0`, and every entry fitting after
it has at most its count, which is then positive. -/
def TieInv (pod : Pod) (allocatable : NodeToGpuResourceMap) (seen : List (String × Int64))
    (state : String × Int64) : Prop :=
  (state = ("", 0) ∧ ∀ e ∈ seen, ¬ Fits pod allocatable e) ∨
  ∃ pre post, seen = pre ++ state :: post ∧ Fits pod allocatable state ∧
    (∀ e ∈ pre, Fits pod allocatable e →
      e.2.val < state.2.val ∨ (e.2.val = 0 ∧ state.2.val = 0)) ∧
    (∀ e ∈ post, Fits pod allocatable e → e.2.val ≤ state.2.val ∧ 0 < state.2.val)

theorem tieInv_step {seen : List (String × Int64)} {state : String × Int64}
    (hinv : TieInv pod allocatable seen state) (hseen : ∀ e ∈ seen, 0 ≤ e.2.val)
    (e : String × Int64) (he : 0 ≤ e.2.val) :
    TieInv pod allocatable (seen ++ [e]) (selectStep pod allocatable state e) := by
  unfold selectStep
  split
  case isTrue hcheck =>
    have hout : ¬ Fits pod allocatable e := Int64.not_le.mpr hcheck
    rcases hinv with ⟨hstate, hnone⟩ | ⟨pre, post, rfl, hfits, hpre, hpost⟩
    · exact .inl ⟨hstate, forall_fits_append hnone hout⟩
    · exact .inr ⟨pre, post ++ [e], by simp, hfits, hpre,
        forall_fits_append hpost (absurd · hout)⟩
  case isFalse hcheck =>
    have hin : Fits pod allocatable e := Int64.not_lt.mp hcheck
    split
    case isTrue hbetter =>
      simp only [gt_iff_lt, Int64.lt_iff, Int64.eq_iff, Int64.val_zero] at hbetter
      refine .inr ⟨seen, [], rfl, hin, fun e' he' hfits' => ?_, by simp⟩
      have hnonneg := hseen e' he'
      rcases hinv with ⟨-, hnone⟩ | ⟨pre, post, rfl, -, hpre, hpost⟩
      · exact absurd hfits' (hnone e' he')
      · have hbefore : (e'.2.val < state.2.val ∨ (e'.2.val = 0 ∧ state.2.val = 0)) ∨
            e'.2.val = state.2.val ∨ (e'.2.val ≤ state.2.val ∧ 0 < state.2.val) := by
          rcases List.mem_append.mp he' with hin' | hin'
          · exact .inl (hpre e' hin' hfits')
          · rcases List.mem_cons.mp hin' with rfl | hin'
            · exact .inr (.inl rfl)
            · exact .inr (.inr (hpost e' hin' hfits'))
        omega
    case isFalse hworse =>
      simp only [gt_iff_lt, Int64.lt_iff, Int64.eq_iff, Int64.val_zero] at hworse
      rcases hinv with ⟨rfl, -⟩ | ⟨pre, post, rfl, hfits, hpre, hpost⟩
      · have hzero : (("", 0) : String × Int64).2.val = 0 := Int64.val_zero
        omega
      · have hstate := hseen state (by simp)
        exact .inr ⟨pre, post ++ [e], by simp, hfits, hpre,
          forall_fits_append hpost fun _ => by omega⟩

theorem tieInv_foldl {seen : List (String × Int64)} {state : String × Int64}
    (hinv : TieInv pod allocatable seen state) (rest : List (String × Int64))
    (hnonneg : ∀ e ∈ seen ++ rest, 0 ≤ e.2.val) :
    TieInv pod allocatable (seen ++ rest) (rest.foldl (selectStep pod allocatable) state) := by
  induction rest generalizing seen state with
  | nil => simpa using hinv
  | cons e rest ih =>
      simpa using ih (tieInv_step hinv (fun e' he' => hnonneg e' (by simp [he'])) e
        (hnonneg e (by simp))) (by simpa using hnonneg)

/-- Which node wins, when no count is negative. The result is `""` when no
entry fits. Otherwise it is the first entry `range` visits among those that
fit with the largest count, except when that count is `0`: then it is the
last entry visited that fits. -/
theorem selectMostRequestedNodeForPod_tie_break {requested : NodeToGpuResourceMap}
    (order : requested.RangeOrder)
    (hnonneg : ∀ n ∈ requested.keys, 0 ≤ (requested.get n).val) :
    (selectMostRequestedNodeForPod pod allocatable requested order = "" ∧
        ∀ e ∈ order.visits, ¬ Fits pod allocatable e) ∨
      ∃ pre e post, order.visits = pre ++ e :: post ∧
        e.1 = selectMostRequestedNodeForPod pod allocatable requested order ∧
        Fits pod allocatable e ∧
        (∀ e' ∈ pre, Fits pod allocatable e' → e'.2.val < e.2.val ∨ (e'.2.val = 0 ∧ e.2.val = 0)) ∧
        (∀ e' ∈ post, Fits pod allocatable e' → e'.2.val ≤ e.2.val ∧ 0 < e.2.val) := by
  have hvisits : ∀ e ∈ order.visits, 0 ≤ e.2.val := fun e he => by
    have hentry := order.mem_visits.mp he
    rw [← GoMap.get_of_mem hentry]
    exact hnonneg e.1 (GoMap.mem_keys.mpr ⟨e.2, hentry⟩)
  have hinv := tieInv_foldl (.inl ⟨rfl, by simp⟩ : TieInv pod allocatable [] ("", 0)) order.visits
    (by simpa using hvisits)
  unfold selectMostRequestedNodeForPod
  rcases hinv with ⟨hstate, hnone⟩ | ⟨pre, post, hsplit, hfits, hpre, hpost⟩
  · exact .inl ⟨by rw [hstate], by simpa using hnone⟩
  · exact .inr ⟨pre, _, post, by simpa using hsplit, rfl, hfits, hpre, hpost⟩

theorem selectMostRequested_first_of_equal :
    let requested : NodeToGpuResourceMap := ⟨[("a", 1), ("b", 1)], by decide⟩
    let allocatable : NodeToGpuResourceMap := ⟨[("a", 2), ("b", 2)], by decide⟩
    let pod := gpuPod "pending" "" "Pending" oneGpu
    ((selectMostRequestedNodeForPod pod allocatable requested (.stored requested) = "" ∧
        ∀ e ∈ (GoMap.RangeOrder.stored requested).visits, ¬ Fits pod allocatable e) ∨
      ∃ pre e post, (GoMap.RangeOrder.stored requested).visits = pre ++ e :: post ∧
        e.1 = selectMostRequestedNodeForPod pod allocatable requested (.stored requested) ∧
        Fits pod allocatable e ∧
        (∀ e' ∈ pre, Fits pod allocatable e' → e'.2.val < e.2.val ∨ (e'.2.val = 0 ∧ e.2.val = 0)) ∧
        (∀ e' ∈ post, Fits pod allocatable e' → e'.2.val ≤ e.2.val ∧ 0 < e.2.val)) ∧
      selectMostRequestedNodeForPod pod allocatable requested (.stored requested) = "a" :=
  ⟨selectMostRequestedNodeForPod_tie_break _ (by decide), by decide⟩

end TieBreak

end ToyScheduler.SelectMostRequested
