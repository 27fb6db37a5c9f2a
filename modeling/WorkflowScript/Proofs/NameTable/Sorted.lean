import WorkflowScript.Proofs.NameTable
import WorkflowScript.Proofs.Text.Ascii
import WorkflowScript.Script.Layout

namespace WorkflowScript.NameTable

open Text

universe u
variable {α : Type u}

section Order

def notAfter (a b : String × α) : Bool := !decide (upper b.1 < upper a.1)

theorem notAfter_iff {a b : String × α} : notAfter a b = true ↔ upper a.1 ≤ upper b.1 := by
  rw [notAfter, Bool.not_eq_true', decide_eq_false_iff_not, String.not_lt]

theorem notAfter_trans (a b c : String × α) (hab : notAfter a b = true) (hbc : notAfter b c = true) :
    notAfter a c = true :=
  notAfter_iff.mpr (String.le_trans (notAfter_iff.mp hab) (notAfter_iff.mp hbc))

theorem notAfter_total (a b : String × α) : (notAfter a b || notAfter b a) = true := by
  rw [Bool.or_eq_true, notAfter_iff, notAfter_iff]
  exact String.le_total _ _

theorem sorted_eq (table : NameTable α) : table.sorted = table.toList.mergeSort notAfter := rfl

theorem pairwise_sorted (table : NameTable α) : table.sorted.Pairwise fun a b => upper a.1 ≤ upper b.1 :=
  (List.pairwise_mergeSort notAfter_trans notAfter_total table.toList).imp notAfter_iff.mp

theorem filter_sorted (table : NameTable α) (key : String) :
    table.sorted.filter (fun e => upper e.1 == key) = table.toList.filter fun e => upper e.1 == key := by
  have hkey : ∀ e ∈ table.toList.filter fun e => upper e.1 == key, upper e.1 = key :=
    fun e he => eq_of_beq (List.mem_filter.mp he).2
  have hordered : (table.toList.filter fun e => upper e.1 == key).Pairwise fun a b => notAfter a b = true := by
    refine List.pairwise_of_forall_mem_list fun a ha b hb => notAfter_iff.mpr ?_
    have hsame : upper a.1 = upper b.1 := (hkey a ha).trans (hkey b hb).symm
    exact hsame ▸ String.le_refl (upper a.1)
  have hsublist := List.sublist_mergeSort notAfter_trans notAfter_total hordered List.filter_sublist
  have hfiltered := hsublist.filter fun e => upper e.1 == key
  rw [List.filter_filter, ← sorted_eq] at hfiltered
  simp only [Bool.and_self] at hfiltered
  exact (hfiltered.eq_of_length ((sorted_perm table).filter _).length_eq.symm).symm

end Order

section Ascii

variable {entries entries' : List (String × α)}

structure AsciiDistinct (entries : List (String × α)) : Prop where
  ascii : ∀ e ∈ entries, isAscii e.1 = true
  distinct : entries.Pairwise fun a b => sameIgnoringAsciiCase a.1.toList b.1.toList = false

theorem AsciiDistinct.pairwise {R : String → String → Prop} (h : AsciiDistinct entries)
    (himp : ∀ a b, isAscii a = true → isAscii b = true →
      sameIgnoringAsciiCase a.toList b.toList = false → R a b) : entries.Pairwise fun a b => R a.1 b.1 :=
  h.distinct.imp_of_mem fun ha hb hne => himp _ _ (h.ascii _ ha) (h.ascii _ hb) hne

theorem AsciiDistinct.toList_ofList (h : AsciiDistinct entries) : (ofList entries).toList = entries := by
  have hnames : (entries.map fun e => foldName e.1).Nodup := by
    refine List.pairwise_map.mpr (h.pairwise (R := fun a b => foldName a ≠ foldName b) ?_)
    intro a b ha hb hne heq
    rw [(lower_eq_lower_iff ha hb).mp heq] at hne
    cases hne
  rw [NameTable.toList_ofList, merged_of_nodup hnames]

theorem AsciiDistinct.perm (h : AsciiDistinct entries) (hperm : entries.Perm entries') :
    AsciiDistinct entries' where
  ascii e he := h.ascii e (hperm.mem_iff.mpr he)
  distinct := by
    refine hperm.pairwise h.distinct ?_
    intro a b hne
    rw [sameIgnoringAsciiCase, beq_eq_false_iff_ne] at hne ⊢
    exact hne.symm

theorem AsciiDistinct.sorted_perm (h : AsciiDistinct entries) : (ofList entries).sorted.Perm entries := by
  have hperm := NameTable.sorted_perm (ofList entries)
  rwa [h.toList_ofList] at hperm

theorem AsciiDistinct.sorted_strict (h : AsciiDistinct entries) :
    (ofList entries).sorted.Pairwise fun a b => upper a.1 < upper b.1 := by
  have hkeys : (ofList entries).sorted.Pairwise fun a b => upper a.1 ≠ upper b.1 := by
    refine (h.perm h.sorted_perm.symm).pairwise (R := fun a b => upper a ≠ upper b) ?_
    intro a b ha hb hne heq
    rw [(upper_eq_upper_iff ha hb).mp heq] at hne
    cases hne
  refine (pairwise_sorted (ofList entries)).imp₂ ?_ hkeys
  intro a b hle hne
  exact String.not_le.mp fun hge => hne (String.le_antisymm hle hge)

theorem AsciiDistinct.sorted_eq (h : AsciiDistinct entries) (hperm : entries.Perm entries') :
    (ofList entries).sorted = (ofList entries').sorted := by
  have h' := h.perm hperm
  have hlistings : (ofList entries).sorted.Perm (ofList entries').sorted :=
    h.sorted_perm.trans (hperm.trans h'.sorted_perm.symm)
  refine hlistings.eq_of_pairwise ?_ h.sorted_strict h'.sorted_strict
  intro a b _ _ hab hba
  exact absurd hba (String.lt_asymm hab)

theorem AsciiDistinct.isEmpty_eq (h : AsciiDistinct entries) (hperm : entries.Perm entries') :
    (ofList entries).isEmpty = (ofList entries').isEmpty := by
  change (ofList entries).toList.isEmpty = (ofList entries').toList.isEmpty
  rw [h.toList_ofList, (h.perm hperm).toList_ofList, hperm.isEmpty_eq]

end Ascii

theorem listing_ordered :
    (∀ table : NameTable α, table.sorted.Perm table.toList ∧
      (table.sorted.Pairwise fun a b => upper a.1 ≤ upper b.1) ∧
      ∀ key, table.sorted.filter (fun e => upper e.1 == key) = table.toList.filter fun e => upper e.1 == key) ∧
    (∀ entries entries' : List (String × α), AsciiDistinct entries → entries.Perm entries' →
      (ofList entries).sorted.Perm entries ∧ (ofList entries).sorted = (ofList entries').sorted ∧
      (ofList entries).sorted.Pairwise fun a b => upper a.1 < upper b.1) ∧
    ∀ entries entries' : List (String × Input), AsciiDistinct entries → entries.Perm entries' →
      Script.inputLines (ofList entries) = Script.inputLines (ofList entries') := by
  refine ⟨fun table => ⟨sorted_perm table, pairwise_sorted table, filter_sorted table⟩, ?_, ?_⟩
  · intro entries entries' h hperm
    exact ⟨h.sorted_perm, h.sorted_eq hperm, h.sorted_strict⟩
  · intro entries entries' h hperm
    rw [Script.inputLines, Script.inputLines, h.isEmpty_eq hperm, h.sorted_eq hperm]

def declared : List (String × Nat) := [("build_type", 1), ("Build_Arch", 2), ("buildconfig", 3)]

def listed : List (String × Nat) := [("buildconfig", 3), ("Build_Arch", 2), ("build_type", 1)]

theorem listing_of_declared : AsciiDistinct declared ∧ declared.Perm listed ∧
    (ofList declared).sorted = listed ∧ (ofList listed).sorted = listed := by
  have h : AsciiDistinct declared := ⟨by decide, by decide⟩
  have hperm : declared.Perm listed := by decide
  obtain ⟨-, hlisting, -⟩ := listing_ordered (α := Nat)
  obtain ⟨hentries, hsame, hstrict⟩ := hlisting _ _ h hperm
  have hlisted : listed.Pairwise fun a b => upper a.1 < upper b.1 := by decide +kernel
  have hsorted : (ofList declared).sorted = listed :=
    (hentries.trans hperm).eq_of_pairwise (fun a b _ _ hab hba => absurd hba (String.lt_asymm hab)) hstrict
      hlisted
  exact ⟨h, hperm, hsorted, hsame.symm.trans hsorted⟩

end WorkflowScript.NameTable
