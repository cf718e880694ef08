import QueryAudit.Proofs.Run.Insertion

/-!
# A run by kinds

The executions of each kind are a view of a run.  The views share nothing and leave nothing
out: put one behind the other they are the run in another order, `flatMap_ofKind_perm`.  So
what is counted, measured or asked of a run, each by a scan of its own, is the sum, the
longest or the disjunction of what is said of the views.

A run that gets more executions, by one or by many, passes each of them on to one view.
-/

namespace QueryAudit.Run

open Statement (Kind)

variable {run : Run} {kind : Kind}

/-! ## One view -/

/-- **A view is known by its executions**: it is the one part of the run, in the order of the
run, that has the executions of the kind as often as the run and no others. -/
theorem eq_ofKind_iff {view : Run} :
    view = run.ofKind kind ↔
      view.executions.Sublist run.executions ∧
        ∀ e, view.executions.count e = if e.kind = kind then run.executions.count e else 0 := by
  have hcount (e : Execution) : (run.ofKind kind).executions.count e =
      if e.kind = kind then run.executions.count e else 0 := by
    split
    · next hkind => exact List.count_filter (by simpa using hkind)
    · next hkind =>
        apply List.count_eq_zero_of_not_mem
        intro he
        exact hkind (mem_ofKind.mp he).2
  constructor
  · rintro rfl
    exact ⟨List.filter_sublist, hcount⟩
  · rintro ⟨hsub, hview⟩
    have hperm : view.executions.Perm (run.ofKind kind).executions := by
      apply List.perm_iff_count.mpr
      intro e
      rw [hview, hcount]
    have hkind : view.executions.filter (·.kind = kind) = view.executions := by
      apply List.filter_eq_self.mpr
      intro e he
      simpa using (mem_ofKind.mp (hperm.subset he)).2
    have hsub' : view.executions.Sublist (run.ofKind kind).executions := hkind ▸ hsub.filter _
    exact congrArg Run.mk (hsub'.eq_of_length hperm.length_eq)

/-- The executions of a kind are counted as they are listed. -/
theorem count_ofKind (run : Run) (kind : Kind) : (run.ofKind kind).count = run.countOf kind :=
  List.countP_eq_length_filter.symm

/-- A view has no executions of another kind. -/
theorem ofKind_ofKind (run : Run) (kind kind' : Kind) :
    (run.ofKind kind).ofKind kind' = if kind = kind' then run.ofKind kind else .empty := by
  unfold ofKind
  rw [List.filter_filter]
  split
  · next h => simp [h]
  · next h =>
      have hnone : run.executions.filter
          (fun e => decide (e.kind = kind') && decide (e.kind = kind)) = [] := by
        apply List.filter_eq_nil_iff.mpr
        intro e _
        simp only [Bool.and_eq_true, decide_eq_true_eq, not_and]
        intro hkind' hkind
        exact h (hkind.symm.trans hkind')
      rw [hnone]
      rfl

/-! ## More executions -/

/-- The views of two runs, one after the other. -/
theorem ofKind_append (run next : Run) (kind : Kind) :
    (run.append next).ofKind kind = (run.ofKind kind).append (next.ofKind kind) :=
  congrArg Run.mk (List.filter_append _ _)

/-- The executions of two runs are counted together. -/
theorem countOf_append (run next : Run) (kind : Kind) :
    (run.append next).countOf kind = run.countOf kind + next.countOf kind :=
  List.countP_append

/-- **One more execution** comes last in the view of its kind, and in no other. -/
theorem ofKind_push (run : Run) (e : Execution) (kind : Kind) :
    (run.push e).ofKind kind =
      if e.kind = kind then (run.ofKind kind).push e else run.ofKind kind := by
  have hview : (run.push e).ofKind kind = (run.ofKind kind).append (ofKind kind ⟨[e]⟩) :=
    ofKind_append run ⟨[e]⟩ kind
  rw [hview]
  split
  · next h => simp [ofKind, append, push, h]
  · next h => simp [ofKind, append, h]

/-! ## All views -/

/-- **The views are the run**, sorted by kind. -/
theorem flatMap_ofKind_perm (run : Run) :
    (Kind.all.flatMap fun kind => (run.ofKind kind).executions).Perm run.executions :=
  flatMap_filter_perm (by decide) fun e _ => e.kind.mem_all

/-- The executions of all kinds are all executions. -/
theorem sum_countOf (run : Run) :
    (Kind.all.map fun kind => run.countOf kind).sum = run.count := by
  have hlength := run.flatMap_ofKind_perm.length_eq
  rw [List.length_flatMap] at hlength
  simpa only [← count_ofKind, count] using hlength

/-- **The longest time of a run** is the longest of its views. -/
theorem max?_maxElapsed (run : Run) :
    (Kind.all.map fun kind => (run.ofKind kind).maxElapsed).max? = some run.maxElapsed := by
  have hle (kind : Kind) : (run.ofKind kind).maxElapsed ≤ run.maxElapsed :=
    maxElapsed_mono List.filter_sublist
  have hattained : ∃ kind, (run.ofKind kind).maxElapsed = run.maxElapsed := by
    by_cases hnil : run.executions = []
    · exact ⟨.other, by simp [ofKind, maxElapsed, hnil]⟩
    · obtain ⟨_, e, he, hslowest⟩ := maxElapsed_spec hnil
      have hview : e ∈ (run.ofKind e.kind).executions := mem_ofKind.mpr ⟨he, rfl⟩
      have hge := (maxElapsed_spec (List.ne_nil_of_mem hview)).1 e hview
      exact ⟨e.kind, Nat.le_antisymm (hle _) (hslowest ▸ hge)⟩
  refine List.max?_eq_some_iff.mpr ⟨?_, ?_⟩
  · obtain ⟨kind, hkind⟩ := hattained
    exact List.mem_map.mpr ⟨kind, kind.mem_all, hkind⟩
  · intro m hm
    obtain ⟨kind, _, rfl⟩ := List.mem_map.mp hm
    exact hle kind

/-- A run lacks bound parameters where one of its views does. -/
theorem hasUnbound_iff (run : Run) :
    run.hasUnbound = true ↔ ∃ kind, (run.ofKind kind).hasUnbound = true := by
  have hany := run.flatMap_ofKind_perm.any_eq (f := fun e => !e.bound)
  rw [List.any_flatMap] at hany
  rw [hasUnbound, ← hany, List.any_eq_true]
  simp only [Kind.mem_all, true_and]
  rfl

/-- **The views of the five kinds partition a run**, however it came about.

* The view of a kind is the part of the run that has its executions of the kind, in their
  order and as often as the run, and its length is what is counted for the kind.
* All views together are the run in another order, all counts together are its length, and
  two views share nothing.
* Views and counts of two runs, one after the other, are put together from those of the two,
  and a further execution comes last in the view of its kind.
* The longest time of the run is the longest of its views, and it lacks bound parameters where
  one of them does. -/
theorem ofKind_partition (run : Run) :
    (∀ kind view, view = run.ofKind kind ↔
      view.executions.Sublist run.executions ∧
        ∀ e, view.executions.count e = if e.kind = kind then run.executions.count e else 0) ∧
    (∀ kind, (run.ofKind kind).count = run.countOf kind) ∧
    (Kind.all.flatMap fun kind => (run.ofKind kind).executions).Perm run.executions ∧
    (Kind.all.map fun kind => run.countOf kind).sum = run.count ∧
    (∀ kind kind', (run.ofKind kind).ofKind kind' =
      if kind = kind' then run.ofKind kind else .empty) ∧
    (∀ next kind, (run.append next).ofKind kind = (run.ofKind kind).append (next.ofKind kind) ∧
      (run.append next).countOf kind = run.countOf kind + next.countOf kind) ∧
    (∀ e kind, (run.push e).ofKind kind =
      (if e.kind = kind then (run.ofKind kind).push e else run.ofKind kind) ∧
      (run.push e).countOf kind = run.countOf kind + if e.kind = kind then 1 else 0) ∧
    (Kind.all.map fun kind => (run.ofKind kind).maxElapsed).max? = some run.maxElapsed ∧
    (run.hasUnbound = true ↔ ∃ kind, (run.ofKind kind).hasUnbound = true) := by
  refine ⟨fun kind view => eq_ofKind_iff, run.count_ofKind, run.flatMap_ofKind_perm,
    run.sum_countOf, run.ofKind_ofKind,
    fun next kind => ⟨run.ofKind_append next kind, run.countOf_append next kind⟩,
    fun e kind => ⟨run.ofKind_push e kind, ?_⟩, run.max?_maxElapsed, run.hasUnbound_iff⟩
  have hcount : (run.push e).countOf kind = run.countOf kind + countOf kind ⟨[e]⟩ :=
    run.countOf_append ⟨[e]⟩ kind
  rw [hcount]
  simp [countOf, List.countP_singleton]

end QueryAudit.Run
