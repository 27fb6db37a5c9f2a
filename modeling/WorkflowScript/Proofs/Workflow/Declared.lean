import Mathlib.Data.List.Nodup
import WorkflowScript.Proofs.Document.Kind
import WorkflowScript.Proofs.NameTable
import WorkflowScript.Workflow.Job

namespace WorkflowScript

open Document NameTable

def declaredJobs (root : Node) : List Job :=
  (((root.child "jobs").bind Node.entries).getD []).filterMap JobTable.declared?

def Distinct (jobs : List Job) : Prop := (jobs.map fun job => foldName job.name).Nodup

theorem filterMap_eq_split_iff {α β : Type} {declared? : α → Option β} {entries : List α}
    {front back : List β} {made : β} :
    entries.filterMap declared? = front ++ made :: back ↔ ∃ before entry after,
      entries = before ++ entry :: after ∧ declared? entry = some made ∧
        before.filterMap declared? = front ∧ after.filterMap declared? = back := by
  constructor
  · intro h
    obtain ⟨before, rest, rfl, hbefore, hrest⟩ := List.filterMap_eq_append_iff.mp h
    obtain ⟨skipped, entry, after, rfl, hskipped, hentry, hafter⟩ :=
      List.filterMap_eq_cons_iff.mp hrest
    refine ⟨before ++ skipped, entry, after, by rw [List.append_assoc], hentry, ?_, hafter⟩
    rw [List.filterMap_append, List.filterMap_eq_nil_iff.mpr hskipped, List.append_nil, hbefore]
  · rintro ⟨before, entry, after, rfl, hentry, rfl, rfl⟩
    rw [List.filterMap_append, List.filterMap_cons_some hentry]

namespace JobTable

theorem ofRoot_eq (root : Node) : ofRoot root = addAll .empty (declaredJobs root) := by
  rw [ofRoot, declaredJobs]
  cases (root.child "jobs").bind Node.entries with
  | none => rfl
  | some entries => rfl

theorem addAll_spec (table : JobTable) (jobs : List Job) :
    (∀ filled, addAll table jobs = .ok filled →
      filled.toList = table.toList ++ jobs.map fun job => (job.name, job)) ∧
    ((∃ filled, addAll table jobs = .ok filled) ↔
      ((table.toList.map fun e => foldName e.1) ++ jobs.map fun job => foldName job.name).Nodup) := by
  induction jobs generalizing table with
  | nil =>
    refine ⟨?_, ?_⟩
    · rintro filled ⟨⟩
      simp
    · rw [List.map_nil, List.append_nil]
      exact iff_of_true ⟨table, rfl⟩ table.distinct
  | cons job jobs ih =>
    rw [addAll]
    by_cases h : table.contains job.name = true
    · rw [if_pos h]
      refine ⟨by simp, ?_⟩
      simp only [reduceCtorEq, exists_false, false_iff]
      intro hnodup
      rw [List.nodup_append] at hnodup
      exact hnodup.2.2 _ (contains_iff.mp h) _ (by simp) rfl
    · rw [if_neg h]
      obtain ⟨hlist, hiff⟩ := ih (table.insert job.name job)
      have hinsert : (table.insert job.name job).toList = table.toList ++ [(job.name, job)] :=
        put_of_notMem fun hmem => h (contains_iff.mpr hmem)
      rw [hinsert] at hlist hiff
      refine ⟨?_, ?_⟩
      · intro filled hfilled
        rw [hlist filled hfilled]
        simp
      · rw [hiff]
        simp

variable {root : Node} {table : JobTable}

theorem exists_ofRoot_ok_iff : (∃ table, ofRoot root = .ok table) ↔ Distinct (declaredJobs root) := by
  rw [ofRoot_eq, (addAll_spec .empty (declaredJobs root)).2, Distinct]
  rfl

theorem toList_of_ofRoot_ok (h : ofRoot root = .ok table) :
    table.toList = (declaredJobs root).map fun job => (job.name, job) := by
  rw [ofRoot_eq] at h
  exact (addAll_spec .empty (declaredJobs root)).1 table h

theorem jobs_of_ofRoot_ok (h : ofRoot root = .ok table) : table.jobs = declaredJobs root := by
  rw [jobs, toList_of_ofRoot_ok h, List.map_map]
  exact List.map_id _

theorem isEmpty_iff_of_ofRoot_ok (h : ofRoot root = .ok table) :
    table.isEmpty = true ↔ declaredJobs root = [] := by
  have htable : table.isEmpty = ((declaredJobs root).map fun job => (job.name, job)).isEmpty := by
    rw [← toList_of_ofRoot_ok h]
    rfl
  rw [htable]
  simp

end JobTable

theorem kind_of_mem_declaredJobs {root : Node} {job : Job} (h : job ∈ declaredJobs root) :
    job.body.kind = .mapping := by
  obtain ⟨entry, -, hjob⟩ := List.mem_filterMap.mp h
  rw [JobTable.declared?] at hjob
  split at hjob
  · next hkind =>
    cases hjob
    exact hkind
  · cases hjob

end WorkflowScript
