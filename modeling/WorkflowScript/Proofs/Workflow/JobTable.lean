import WorkflowScript.Proofs.Workflow.Declared

namespace WorkflowScript

open Document NameTable

def jobEntries (root : Node) : List (String × Node) :=
  ((root.child "jobs").bind Node.entries).getD []

structure Clash (earlier later : String × Node) : Prop where
  first : earlier.2.kind = .mapping
  second : later.2.kind = .mapping
  name : foldName earlier.1 = foldName later.1

def FirstClash (entries : List (String × Node)) (entry : String × Node) : Prop :=
  ∃ before after, entries = before ++ entry :: after ∧
    (∃ earlier ∈ before, Clash earlier entry) ∧ before.Pairwise fun a b => ¬ Clash a b

namespace JobTable

section Entries

variable {entries : List (String × Node)} {entry : String × Node} {job : Job}

theorem declared?_eq_some_iff :
    declared? entry = some job ↔ entry.2.kind = .mapping ∧ job = ⟨entry.1, entry.2⟩ := by
  rw [declared?, Option.ite_none_right_eq_some, Option.some.injEq, @eq_comm _ job]

theorem declared?_eq_none_iff : declared? entry = none ↔ entry.2.kind ≠ .mapping := by
  simp [declared?]

theorem distinct_filterMap_iff :
    Distinct (entries.filterMap declared?) ↔ entries.Pairwise fun a b => ¬ Clash a b := by
  rw [Distinct, List.Nodup, List.pairwise_map, List.pairwise_filterMap]
  refine List.Pairwise.iff ?_
  intro a b
  simp only [declared?_eq_some_iff]
  constructor
  · intro h hclash
    exact h _ ⟨hclash.first, rfl⟩ _ ⟨hclash.second, rfl⟩ hclash.name
  · rintro h _ ⟨ha, rfl⟩ _ ⟨hb, rfl⟩ hname
    exact h ⟨ha, hb, hname⟩

theorem filterMap_declared? (entries : List (String × Node)) :
    entries.filterMap declared? =
      (entries.filter fun e => e.2.kind = .mapping).map fun e => ⟨e.1, e.2⟩ := by
  induction entries with
  | nil => rfl
  | cons e entries ih =>
    by_cases h : e.2.kind = .mapping
    · rw [List.filterMap_cons_some (declared?_eq_some_iff.mpr ⟨h, rfl⟩), ih]
      simp [h]
    · rw [List.filterMap_cons_none (declared?_eq_none_iff.mpr h), ih]
      simp [h]

end Entries

theorem addAll_eq_error_iff {table : JobTable} {jobs : List Job} {e : CompileError} :
    addAll table jobs = .error e ↔ ∃ before job after, jobs = before ++ job :: after ∧
      ((table.toList.map fun e => foldName e.1) ++ before.map fun job => foldName job.name).Nodup ∧
      foldName job.name ∈
        (table.toList.map fun e => foldName e.1) ++ before.map (fun job => foldName job.name) ∧
      e = .structural job.name .declaredTwice := by
  induction jobs generalizing table with
  | nil => simp [addAll]
  | cons job jobs ih =>
    rw [addAll]
    by_cases h : table.contains job.name = true
    · have htaken := contains_iff.mp h
      rw [if_pos h, Except.error.injEq]
      constructor
      · rintro rfl
        refine ⟨[], job, jobs, rfl, ?_, List.mem_append_left _ htaken, rfl⟩
        rw [List.map_nil, List.append_nil]
        exact table.distinct
      · rintro ⟨before, other, after, hsplit, hnodup, hmem, rfl⟩
        cases before with
        | nil =>
          cases hsplit
          rfl
        | cons first before =>
          cases hsplit
          rw [List.nodup_append] at hnodup
          exact absurd rfl (hnodup.2.2 _ htaken _ (by simp))
    · rw [if_neg h]
      have hfresh := fun hmem => h (contains_iff.mpr hmem)
      have hinsert : (table.insert job.name job).toList = table.toList ++ [(job.name, job)] :=
        put_of_notMem hfresh
      rw [ih, hinsert]
      simp only [List.map_append, List.map_cons, List.map_nil, List.append_assoc, List.singleton_append]
      constructor
      · rintro ⟨before, other, after, rfl, hnodup, hmem, rfl⟩
        exact ⟨job :: before, other, after, rfl, hnodup, hmem, rfl⟩
      · rintro ⟨before, other, after, hsplit, hnodup, hmem, rfl⟩
        cases before with
        | nil =>
          cases hsplit
          rw [List.map_nil, List.append_nil] at hmem
          exact absurd hmem hfresh
        | cons first before =>
          cases hsplit
          exact ⟨before, other, after, rfl, hnodup, hmem, rfl⟩

variable {root : Node} {table : JobTable}

theorem declaredJobs_eq (root : Node) : declaredJobs root = (jobEntries root).filterMap declared? := rfl

theorem ofRoot_eq_error_iff {e : CompileError} :
    ofRoot root = .error e ↔
      ∃ entry, FirstClash (jobEntries root) entry ∧ e = .structural entry.1 .declaredTwice := by
  rw [ofRoot_eq, addAll_eq_error_iff, declaredJobs_eq]
  simp only [toList_empty, List.map_nil, List.nil_append, List.mem_map]
  constructor
  · rintro ⟨_, job, _, hsplit, hdistinct, ⟨other, hother, hname⟩, rfl⟩
    obtain ⟨before, entry, after, hentries, hentry, rfl, -⟩ := filterMap_eq_split_iff.mp hsplit
    obtain ⟨hkind, rfl⟩ := declared?_eq_some_iff.mp hentry
    obtain ⟨earlier, hearlier, hdeclared⟩ := List.mem_filterMap.mp hother
    obtain ⟨hearlierKind, rfl⟩ := declared?_eq_some_iff.mp hdeclared
    have hclash : Clash earlier entry := ⟨hearlierKind, hkind, hname⟩
    exact ⟨entry, ⟨before, after, hentries, ⟨earlier, hearlier, hclash⟩,
      distinct_filterMap_iff.mp hdistinct⟩, rfl⟩
  · rintro ⟨entry, ⟨before, after, hentries, ⟨earlier, hearlier, hclash⟩, hpairwise⟩, rfl⟩
    have hentry : declared? entry = some ⟨entry.1, entry.2⟩ :=
      declared?_eq_some_iff.mpr ⟨hclash.second, rfl⟩
    have hsplit := filterMap_eq_split_iff.mpr ⟨before, entry, after, hentries, hentry, rfl, rfl⟩
    have hmem : (⟨earlier.1, earlier.2⟩ : Job) ∈ before.filterMap declared? :=
      List.mem_filterMap.mpr ⟨earlier, hearlier, declared?_eq_some_iff.mpr ⟨hclash.first, rfl⟩⟩
    exact ⟨_, _, _, hsplit, distinct_filterMap_iff.mpr hpairwise, ⟨_, hmem, hclash.name⟩, rfl⟩

structure Keeps (table : JobTable) (entries : List (String × Node)) : Prop where
  order : table.toList =
    (entries.filter fun e => e.2.kind = .mapping).map fun e => (e.1, ⟨e.1, e.2⟩)
  found : ∀ name job, table.get? name = some job ↔
    ∃ e ∈ entries, e.2.kind = .mapping ∧ foldName e.1 = foldName name ∧ job = ⟨e.1, e.2⟩

theorem keeps_of_ofRoot_ok (h : ofRoot root = .ok table) : table.Keeps (jobEntries root) := by
  have horder : table.toList =
      ((jobEntries root).filter fun e => e.2.kind = .mapping).map fun e => (e.1, ⟨e.1, e.2⟩) := by
    rw [toList_of_ofRoot_ok h, declaredJobs_eq, filterMap_declared?, List.map_map]
    rfl
  refine ⟨horder, fun name job => ?_⟩
  rw [get?_eq_some_iff, horder]
  simp only [List.mem_map, List.mem_filter, decide_eq_true_eq]
  constructor
  · rintro ⟨_, ⟨e, ⟨he, hkind⟩, rfl⟩, hname, rfl⟩
    exact ⟨e, he, hkind, hname, rfl⟩
  · rintro ⟨e, he, hkind, hname, rfl⟩
    exact ⟨_, ⟨e, ⟨he, hkind⟩, rfl⟩, hname, rfl⟩

theorem ofRoot_of_no_mapping (h : ∀ jobs, root.child "jobs" = some jobs → jobs.kind ≠ .mapping) :
    ofRoot root = .ok .empty := by
  have hnone : (root.child "jobs").bind Node.entries = none := by
    rw [Option.bind_eq_none_iff]
    intro jobs hjobs
    rw [← Option.not_isSome_iff_eq_none, Node.entries_isSome_iff]
    exact h jobs hjobs
  rw [ofRoot, hnone]

theorem ofRoot_congr {other : Node}
    (h : (jobEntries other).filter (fun e => e.2.kind = .mapping) =
      (jobEntries root).filter fun e => e.2.kind = .mapping) : ofRoot other = ofRoot root := by
  rw [ofRoot_eq, ofRoot_eq, declaredJobs_eq, declaredJobs_eq, filterMap_declared?, filterMap_declared?, h]

theorem declared_jobs_kept (root : Node) :
    ((∃ e, ofRoot root = .error e) ↔
      ∃ first second, [first, second].Sublist (jobEntries root) ∧ Clash first second) ∧
    (∀ e, ofRoot root = .error e ↔
      ∃ entry, FirstClash (jobEntries root) entry ∧ e = .structural entry.1 .declaredTwice) ∧
    (∀ table, ofRoot root = .ok table → table.Keeps (jobEntries root)) ∧
    ((∀ jobs, root.child "jobs" = some jobs → jobs.kind ≠ .mapping) → ofRoot root = .ok .empty) ∧
    ∀ other, (jobEntries other).filter (fun e => e.2.kind = .mapping) =
      (jobEntries root).filter (fun e => e.2.kind = .mapping) → ofRoot other = ofRoot root := by
  refine ⟨?_, fun e => ofRoot_eq_error_iff, fun table => keeps_of_ofRoot_ok, ofRoot_of_no_mapping,
    fun other => ofRoot_congr⟩
  have hfails : (∃ e, ofRoot root = .error e) ↔ ¬ ∃ table, ofRoot root = .ok table := by
    cases ofRoot root <;> simp
  rw [hfails, exists_ofRoot_ok_iff, declaredJobs_eq, distinct_filterMap_iff,
    List.pairwise_iff_forall_sublist]
  simp only [not_forall, not_not, exists_prop]

def restated : Node :=
  .mapping [(.string "jobs", .mapping [(.string "build", .string "make"), (.string "Build", .mapping []),
    (.bool true, .mapping []), (.string "BUILD", .mapping []), (.string "True", .mapping [])])]

theorem refused_of_restated : ofRoot restated = .error (.structural "BUILD" .declaredTwice) := by
  obtain ⟨-, herror, -⟩ := declared_jobs_kept restated
  refine (herror _).mpr ⟨("BUILD", .mapping []),
    ⟨[("build", .string "make"), ("Build", .mapping []), ("true", .mapping [])],
      [("True", .mapping [])], rfl, ⟨("Build", .mapping []), by simp, rfl, rfl, ?_⟩, ?_⟩, rfl⟩
  · decide +kernel
  · have htext (entry : String × Node) : ¬ Clash ("build", .string "make") entry :=
      fun h => nomatch h.first
    have hname : ¬ Clash ("Build", .mapping []) ("true", .mapping []) := fun h => by
      have hsame := h.name
      revert hsame
      decide +kernel
    simp [htext, hname]

end JobTable

end WorkflowScript
