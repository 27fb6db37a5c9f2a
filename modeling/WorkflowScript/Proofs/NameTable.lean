import Mathlib.Data.List.Induction
import Mathlib.Data.List.Nodup
import WorkflowScript.NameTable

namespace WorkflowScript.NameTable

universe u
variable {α : Type u}

def foldedNames (entries : List (String × α)) : List String :=
  (entries.map fun e => foldName e.1).eraseDups

def lastUnder (entries : List (String × α)) (key : String) : Option (String × α) :=
  entries.findRev? fun e => foldName e.1 == key

def merged (entries : List (String × α)) : List (String × α) :=
  (foldedNames entries).filterMap (lastUnder entries)

theorem lastUnder_append_singleton (entries : List (String × α)) (e : String × α) (key : String) :
    lastUnder (entries ++ [e]) key =
      if foldName e.1 = key then some e else lastUnder entries key := by
  by_cases h : foldName e.1 = key
  · simp [lastUnder, h]
  · simp [lastUnder, h]

theorem mem_foldedNames {entries : List (String × α)} {key : String} :
    key ∈ foldedNames entries ↔ ∃ e ∈ entries, foldName e.1 = key := by
  simp [foldedNames]

theorem foldedNames_append_singleton (entries : List (String × α)) (e : String × α) :
    foldedNames (entries ++ [e]) =
      if foldName e.1 ∈ foldedNames entries then foldedNames entries
      else foldedNames entries ++ [foldName e.1] := by
  by_cases h : foldName e.1 ∈ foldedNames entries
  · have hmem : foldName e.1 ∈ entries.map fun e => foldName e.1 := by
      simpa [foldedNames] using h
    rw [if_pos h]
    simp [foldedNames, List.eraseDups_append, List.removeAll, -List.mem_map, hmem]
  · have hmem : foldName e.1 ∉ entries.map fun e => foldName e.1 := by
      simpa [foldedNames] using h
    rw [if_neg h]
    simp [foldedNames, List.eraseDups_append, List.removeAll, -List.mem_map, hmem,
      List.eraseDups_cons]

theorem nodup_foldedNames (entries : List (String × α)) : (foldedNames entries).Nodup := by
  induction entries using List.reverseRecOn with
  | nil => exact List.nodup_nil
  | append_singleton entries e ih =>
    rw [foldedNames_append_singleton]
    split
    · exact ih
    · next h => exact List.nodup_append.mpr ⟨ih, by simp, by
        rintro key hkey _ (_ | ⟨_, ⟨⟩⟩) rfl
        exact h hkey⟩

theorem lastUnder_of_mem {entries : List (String × α)} {key : String}
    (h : key ∈ foldedNames entries) : ∃ e, lastUnder entries key = some e ∧ foldName e.1 = key := by
  obtain ⟨e, he, hkey⟩ := mem_foldedNames.mp h
  have hsome : (lastUnder entries key).isSome := by
    simp only [lastUnder, List.findRev?_eq_find?_reverse, List.find?_isSome]
    exact ⟨e, by simpa using he, by simpa using hkey⟩
  obtain ⟨last, hlast⟩ := Option.isSome_iff_exists.mp hsome
  refine ⟨last, hlast, ?_⟩
  have hfind := hlast
  rw [lastUnder, List.findRev?_eq_find?_reverse] at hfind
  simpa using List.find?_some hfind

theorem put_append_of_notMem {name : String} {value : α} {kept : List (String × α)}
    (h : foldName name ∉ kept.map fun e => foldName e.1) (rest : List (String × α)) :
    put name value (kept ++ rest) = kept ++ put name value rest := by
  induction kept with
  | nil => rfl
  | cons e kept ih =>
    simp only [List.map_cons, List.mem_cons, not_or] at h
    rw [List.cons_append, put_cons, if_neg (Ne.symm h.1), ih h.2, List.cons_append]

theorem put_of_notMem {name : String} {value : α} {entries : List (String × α)}
    (h : foldName name ∉ entries.map fun e => foldName e.1) :
    put name value entries = entries ++ [(name, value)] := by
  have hput : put name value (entries ++ []) = entries ++ put name value [] := put_append_of_notMem h []
  rwa [List.append_nil] at hput

theorem lookup_isSome_iff {name : String} {entries : List (String × α)} :
    (lookup name entries).isSome = true ↔ foldName name ∈ entries.map fun e => foldName e.1 := by
  induction entries with
  | nil => simp [lookup]
  | cons e entries ih =>
    by_cases h : foldName e.1 = foldName name
    · simp [lookup, h]
    · rw [lookup, if_neg h, ih, List.map_cons, List.mem_cons, or_iff_right (Ne.symm h)]

theorem contains_iff {table : NameTable α} {name : String} :
    table.contains name = true ↔ foldName name ∈ table.toList.map fun e => foldName e.1 :=
  lookup_isSome_iff

section Pick

variable {keys : List String} {pick : String → Option (String × α)}
  (hpick : ∀ key ∈ keys, ∃ e, pick key = some e ∧ foldName e.1 = key)

include hpick

theorem map_fold_filterMap : (keys.filterMap pick).map (fun e => foldName e.1) = keys := by
  induction keys with
  | nil => rfl
  | cons key keys ih =>
    obtain ⟨⟨e, he, hkey⟩, hpick⟩ := List.forall_mem_cons.mp hpick
    rw [List.filterMap_cons_some he, List.map_cons, hkey, ih hpick]

theorem put_filterMap_of_mem {name : String} {value : α} (hkeys : keys.Nodup)
    (h : foldName name ∈ keys) :
    put name value (keys.filterMap pick) =
      keys.filterMap fun key => if foldName name = key then some (name, value) else pick key := by
  induction keys with
  | nil => simp at h
  | cons key keys ih =>
    obtain ⟨⟨e, he, hkey⟩, hpick⟩ := List.forall_mem_cons.mp hpick
    obtain ⟨hnot, hkeys⟩ := List.nodup_cons.mp hkeys
    rw [List.filterMap_cons_some he, put_cons]
    by_cases heq : foldName name = key
    · have hrest : keys.filterMap pick = keys.filterMap fun key =>
          if foldName name = key then some (name, value) else pick key := by
        apply List.filterMap_congr
        intro other hother
        rw [if_neg]
        rintro rfl
        exact hnot (heq ▸ hother)
      simp only [if_pos (hkey.trans heq.symm), List.filterMap_cons, if_pos heq, hrest]
    · have hmem : foldName name ∈ keys := (List.mem_cons.mp h).resolve_left heq
      have hne : foldName e.1 ≠ foldName name := fun hn => heq (hn.symm.trans hkey)
      simp only [if_neg hne, ih hpick hkeys hmem, List.filterMap_cons, if_neg heq, he]

end Pick

theorem put_merged (name : String) (value : α) (entries : List (String × α)) :
    put name value (merged entries) = merged (entries ++ [(name, value)]) := by
  have hpick : ∀ key ∈ foldedNames entries,
      ∃ e, lastUnder entries key = some e ∧ foldName e.1 = key := fun key => lastUnder_of_mem
  have hupdate : lastUnder (entries ++ [(name, value)]) = fun key =>
      if foldName name = key then some (name, value) else lastUnder entries key :=
    funext fun key => lastUnder_append_singleton entries (name, value) key
  by_cases h : foldName name ∈ foldedNames entries
  · rw [merged, merged, foldedNames_append_singleton, if_pos h, hupdate]
    exact put_filterMap_of_mem hpick (nodup_foldedNames entries) h
  · rw [merged, merged, foldedNames_append_singleton, if_neg h, hupdate, List.filterMap_append]
    have hrest : (foldedNames entries).filterMap (lastUnder entries) =
        (foldedNames entries).filterMap fun key =>
          if foldName name = key then some (name, value) else lastUnder entries key := by
      apply List.filterMap_congr
      intro key hkey
      rw [if_neg]
      rintro rfl
      exact h hkey
    rw [put_of_notMem (by rwa [map_fold_filterMap hpick]), hrest]
    simp

theorem ofList_append_singleton (entries : List (String × α)) (e : String × α) :
    ofList (entries ++ [e]) = (ofList entries).insert e.1 e.2 := by
  simp [ofList]

theorem toList_ofList (entries : List (String × α)) : (ofList entries).toList = merged entries := by
  induction entries using List.reverseRecOn with
  | nil => rfl
  | append_singleton entries e ih =>
    rw [ofList_append_singleton, toList_insert, ih, put_merged]

theorem merged_of_nodup {entries : List (String × α)}
    (h : (entries.map fun e => foldName e.1).Nodup) : merged entries = entries := by
  induction entries using List.reverseRecOn with
  | nil => rfl
  | append_singleton entries e ih =>
    rw [List.map_append, List.nodup_append] at h
    have hfresh : foldName e.1 ∉ entries.map fun e => foldName e.1 := fun hmem =>
      h.2.2 _ hmem _ (List.mem_singleton.mpr rfl) rfl
    rw [← put_merged, ih h.1, put_of_notMem hfresh]

theorem mem_of_mem_merged {entries : List (String × α)} {e : String × α} (h : e ∈ merged entries) :
    e ∈ entries := by
  obtain ⟨key, -, hlast⟩ := List.mem_filterMap.mp h
  rw [lastUnder, List.findRev?_eq_find?_reverse] at hlast
  exact List.mem_reverse.mp (List.mem_of_find?_eq_some hlast)

theorem lookup_eq_some_of_mem {name : String} {e : String × α} {entries : List (String × α)}
    (hdistinct : (entries.map fun e => foldName e.1).Nodup) (he : e ∈ entries)
    (hname : foldName name = foldName e.1) : lookup name entries = some e.2 := by
  induction entries with
  | nil => simp at he
  | cons first entries ih =>
    obtain ⟨hfresh, hdistinct⟩ := List.nodup_cons.mp hdistinct
    rcases List.mem_cons.mp he with rfl | he
    · rw [lookup, if_pos hname.symm]
    · have hne : foldName first.1 ≠ foldName name := by
        intro heq
        exact hfresh (List.mem_map.mpr ⟨e, he, (heq.trans hname).symm⟩)
      rw [lookup, if_neg hne, ih hdistinct he]

theorem map_fold_merged (entries : List (String × α)) :
    (merged entries).map (fun e => foldName e.1) = foldedNames entries :=
  map_fold_filterMap fun _ => lastUnder_of_mem

theorem get?_eq_some_of_mem {table : NameTable α} {e : String × α} (he : e ∈ table.toList)
    {name : String} (hname : foldName e.1 = foldName name) : table.get? name = some e.2 :=
  lookup_eq_some_of_mem table.distinct he hname.symm

theorem get?_eq_some_iff {table : NameTable α} {name : String} {value : α} :
    table.get? name = some value ↔
      ∃ e ∈ table.toList, foldName e.1 = foldName name ∧ e.2 = value := by
  constructor
  · intro h
    have hcontains : table.contains name = true := by rw [contains, h]; rfl
    obtain ⟨e, he, hname⟩ := List.mem_map.mp (contains_iff.mp hcontains)
    rw [get?_eq_some_of_mem he hname, Option.some.injEq] at h
    exact ⟨e, he, hname, h⟩
  · rintro ⟨e, he, hname, rfl⟩
    exact get?_eq_some_of_mem he hname

theorem get?_eq_none_iff {table : NameTable α} {name : String} :
    table.get? name = none ↔ ∀ e ∈ table.toList, foldName e.1 ≠ foldName name := by
  rw [← Option.not_isSome_iff_eq_none]
  change ¬ table.contains name = true ↔ _
  rw [contains_iff, List.mem_map]
  simp only [not_exists, not_and, ne_eq]

end WorkflowScript.NameTable
