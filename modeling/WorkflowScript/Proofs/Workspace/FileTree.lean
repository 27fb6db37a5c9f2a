import Mathlib.Data.List.Induction
import WorkflowScript.Workspace.FileTree

namespace WorkflowScript.FileTree

structure Keeps (before after : FileTree) : Prop where
  here : after.here = before.here
  entry {place : Location} {entry : FileEntry} : before.entry? place = some entry →
    after.entry? place = some entry

structure IsPlain (name : String) : Prop where
  not_dot : name ≠ "."
  not_up : name ≠ ".."
  short : ¬name.utf8ByteSize > longestName

inductive Leads (tree : FileTree) : Location → List String → Location → Prop
  | stay (place : Location) : Leads tree place [] place
  | dot {place found names} (h : Leads tree place names found) : Leads tree place ("." :: names) found
  | up {place found names} (h : Leads tree place.dropLast names found) :
      Leads tree place (".." :: names) found
  | last {name : String} (place : Location) (hname : IsPlain name) :
      Leads tree place [name] (place ++ [name])
  | down {place found name names} (hname : IsPlain name) (hne : names ≠ [])
      (hinner : tree.entry? (place ++ [name]) = some .directory)
      (h : Leads tree (place ++ [name]) names found) : Leads tree place (name :: names) found

structure Furnishes (before after : FileTree) : Prop extends Keeps before after where
  own {place : Location} {entry : FileEntry} : after.entry? place = some entry →
    before.entry? place = some entry ∨ entry = .directory

inductive Makes : FileTree → Location → List String → FileTree → Prop
  | done (tree : FileTree) (place : Location) : Makes tree place [] tree
  | dot {tree place names made} (h : Makes tree place names made) : Makes tree place ("." :: names) made
  | up {tree place names made} (h : Makes tree place.dropLast names made) :
      Makes tree place (".." :: names) made
  | there {tree place name names made} (hname : IsPlain name)
      (hinner : tree.entry? (place ++ [name]) = some .directory)
      (h : Makes tree (place ++ [name]) names made) : Makes tree place (name :: names) made
  | new {tree place name names made} (hname : IsPlain name)
      (hinner : tree.entry? (place ++ [name]) = none)
      (h : Makes (tree.set (place ++ [name]) .directory) (place ++ [name]) names made) :
      Makes tree place (name :: names) made

def Rooted (tree : FileTree) : Prop :=
  ∀ e ∈ tree.entries, tree.entry? e.1.dropLast = some .directory

instance (tree : FileTree) : Decidable tree.Rooted :=
  inferInstanceAs (Decidable (∀ e ∈ tree.entries, tree.entry? e.1.dropLast = some .directory))

variable {tree before after made later : FileTree} {place found : Location} {names : List String}
  {path : String} {content : Content}

theorem entry?_nil (tree : FileTree) : tree.entry? [] = some .directory := if_pos rfl

theorem entry?_of_ne (h : place ≠ []) :
    tree.entry? place = (tree.entries.find? (·.1 == place)).map Prod.snd := if_neg h

theorem ne_nil_of_none (h : tree.entry? place = none) : place ≠ [] := by
  rintro rfl
  rw [entry?_nil] at h
  cases h

theorem find?_replaced (entries : List (Location × FileEntry)) (place other : Location)
    (entry : FileEntry) :
    (entries.map fun e => if e.1 = place then (place, entry) else e).find? (·.1 == other) =
      (entries.find? (·.1 == other)).map fun e => if other = place then (place, entry) else e := by
  have hname : ∀ e : Location × FileEntry, (if e.1 = place then (place, entry) else e).1 = e.1 := by
    intro e
    split
    · next he => exact he.symm
    · rfl
  simp only [List.find?_map, Function.comp_def, hname]
  cases he : entries.find? (·.1 == other) with
  | none => rfl
  | some e =>
    have hplaced : e.1 = other := by simpa using List.find?_some he
    rw [Option.map_some, Option.map_some, hplaced]

theorem entry?_set (hplace : place ≠ []) (entry : FileEntry) (other : Location) :
    FileTree.entry? (tree.set place entry) other =
      if other = place then some entry else tree.entry? other := by
  by_cases hother : other = []
  · rw [hother, if_neg hplace.symm, entry?_nil, entry?_nil]
  · rw [entry?_of_ne hother, set]
    cases hentry : tree.entry? place with
    | none =>
      rw [List.find?_append, Option.map_or, ← entry?_of_ne hother]
      by_cases h : other = place
      · rw [if_pos h, h, hentry]
        simp
      · rw [if_neg h, List.find?_singleton, if_neg (by simpa using Ne.symm h)]
        exact Option.or_none
    | some old =>
      rw [find?_replaced, Option.map_map]
      by_cases h : other = place
      · rw [← h, entry?_of_ne hother, Option.map_eq_some_iff] at hentry
        obtain ⟨e, he, -⟩ := hentry
        rw [if_pos h, he]
        simp [h]
      · simp [h, entry?_of_ne hother, Function.comp_def]

theorem entry?_set_self (hnone : tree.entry? place = none) (entry : FileEntry) :
    FileTree.entry? (tree.set place entry) place = some entry := by
  rw [entry?_set (ne_nil_of_none hnone), if_pos rfl]

theorem walk_cons (tree : FileTree) (place : Location) (name : String) (names : List String) :
    tree.walk place (name :: names) =
      if name = "." then tree.walk place names
      else if name = ".." then tree.walk place.dropLast names
      else if name.utf8ByteSize > longestName then .error .nameTooLong
      else
        match names, tree.entry? (place ++ [name]) with
        | [], _ => .ok (place ++ [name])
        | names, some .directory => tree.walk (place ++ [name]) names
        | _, some _ => .error .notDirectory
        | _, none => .error .notFound :=
  walk.eq_2 tree place name names

theorem walk_dot (tree : FileTree) (place : Location) (names : List String) :
    tree.walk place ("." :: names) = tree.walk place names := by
  rw [walk_cons, if_pos rfl]

theorem walk_up (tree : FileTree) (place : Location) (names : List String) :
    tree.walk place (".." :: names) = tree.walk place.dropLast names := by
  rw [walk_cons, if_neg (by decide), if_pos rfl]

theorem walk_of_long {name : String} (hdot : name ≠ ".") (hup : name ≠ "..")
    (hlong : name.utf8ByteSize > longestName) (tree : FileTree) (place : Location) (names : List String) :
    tree.walk place (name :: names) = .error .nameTooLong := by
  rw [walk_cons, if_neg hdot, if_neg hup, if_pos hlong]

theorem walk_last {name : String} (hname : IsPlain name) (tree : FileTree) (place : Location) :
    tree.walk place [name] = .ok (place ++ [name]) := by
  rw [walk_cons, if_neg hname.not_dot, if_neg hname.not_up, if_neg hname.short]

theorem walk_of_isPlain {name : String} (hname : IsPlain name) (hne : names ≠ []) :
    tree.walk place (name :: names) = match tree.entry? (place ++ [name]) with
      | some .directory => tree.walk (place ++ [name]) names
      | some _ => .error .notDirectory
      | none => .error .notFound := by
  rw [walk_cons, if_neg hname.not_dot, if_neg hname.not_up, if_neg hname.short]
  cases names with
  | nil => exact absurd rfl hne
  | cons next names =>
    cases tree.entry? (place ++ [name]) with
    | none => rfl
    | some entry => cases entry <;> rfl

theorem leads_of_walk (h : tree.walk place names = .ok found) : tree.Leads place names found := by
  induction names generalizing place with
  | nil =>
    cases h
    exact .stay _
  | cons name names ih =>
    by_cases hdot : name = "."
    · subst hdot
      exact .dot (ih (walk_dot tree place names ▸ h))
    · by_cases hup : name = ".."
      · subst hup
        exact .up (ih (walk_up tree place names ▸ h))
      · by_cases hlong : name.utf8ByteSize > longestName
        · rw [walk_of_long hdot hup hlong] at h
          cases h
        · have hname : IsPlain name := ⟨hdot, hup, hlong⟩
          by_cases hnames : names = []
          · subst hnames
            rw [walk_last hname] at h
            cases h
            exact .last _ hname
          · rw [walk_of_isPlain hname hnames] at h
            split at h
            · next hinner => exact .down hname hnames hinner (ih h)
            · cases h
            · cases h

theorem Leads.walk (h : tree.Leads place names found) : tree.walk place names = .ok found := by
  induction h with
  | stay => rfl
  | dot _ ih => exact (walk_dot ..).trans ih
  | up _ ih => exact (walk_up ..).trans ih
  | last place hname => exact walk_last hname _ place
  | down hname hne hinner _ ih => rw [walk_of_isPlain hname hne, hinner, ih]

theorem locate_eq_ok_iff : tree.locate path = .ok found ↔
    (path ≠ "" ∧ ¬path.utf8ByteSize > longestPath) ∧
      tree.Leads (tree.origin path) (Path.names path) found := by
  rw [locate]
  by_cases hempty : path = ""
  · simp [hempty]
  · rw [if_neg hempty]
    by_cases hlong : path.utf8ByteSize > longestPath
    · simp [hlong]
    · rw [if_neg hlong]
      exact ⟨fun h => ⟨⟨hempty, hlong⟩, leads_of_walk h⟩, fun h => h.2.walk⟩

theorem at?_eq_some_iff {entry : FileEntry} : tree.at? path = some entry ↔
    ∃ place, tree.locate path = .ok place ∧ tree.entry? place = some entry := by
  rw [at?]
  cases tree.locate path with
  | error fault => simp
  | ok place => simp

namespace Keeps

theorem refl (tree : FileTree) : tree.Keeps tree := ⟨rfl, id⟩

theorem trans (h : before.Keeps made) (h' : made.Keeps after) : before.Keeps after :=
  ⟨h'.here.trans h.here, fun he => h'.entry (h.entry he)⟩

theorem set (hnone : tree.entry? place = none) (entry : FileEntry) :
    tree.Keeps (tree.set place entry) where
  here := by
    rw [FileTree.set, hnone]
  entry {other old} hother := by
    have hne : other ≠ place := by
      rintro rfl
      rw [hnone] at hother
      cases hother
    rw [entry?_set (ne_nil_of_none hnone), if_neg hne, hother]

theorem origin (h : before.Keeps after) (path : String) : after.origin path = before.origin path := by
  rw [FileTree.origin, FileTree.origin, h.here]

theorem leads (h : before.Keeps after) (hleads : before.Leads place names found) :
    after.Leads place names found := by
  induction hleads with
  | stay place => exact .stay place
  | dot _ ih => exact .dot ih
  | up _ ih => exact .up ih
  | last place hname => exact .last place hname
  | down hname hne hinner _ ih => exact .down hname hne (h.entry hinner) ih

theorem locate (h : before.Keeps after) (hpath : before.locate path = .ok found) :
    after.locate path = .ok found := by
  obtain ⟨hvalid, hleads⟩ := locate_eq_ok_iff.mp hpath
  exact locate_eq_ok_iff.mpr ⟨hvalid, h.origin path ▸ h.leads hleads⟩

theorem at? {entry : FileEntry} (h : before.Keeps after) (hpath : before.at? path = some entry) :
    after.at? path = some entry := by
  obtain ⟨place, hlocate, hentry⟩ := at?_eq_some_iff.mp hpath
  exact at?_eq_some_iff.mpr ⟨place, h.locate hlocate, h.entry hentry⟩

end Keeps

theorem exists?_iff : tree.exists? path = true ↔ ∃ entry, tree.at? path = some entry :=
  Option.isSome_iff_exists

theorem isFile_iff : tree.isFile path = true ↔ ∃ content, tree.at? path = some (.file content) := by
  rw [isFile]
  split
  · next content h => simp [h]
  · next h => simpa using h

theorem exists?_of_isFile (h : tree.isFile path = true) : tree.exists? path = true :=
  have ⟨_, hcontent⟩ := isFile_iff.mp h
  exists?_iff.mpr ⟨_, hcontent⟩

theorem Keeps.exists? (h : before.Keeps after) (hpath : before.exists? path = true) :
    after.exists? path = true :=
  have ⟨_, hentry⟩ := exists?_iff.mp hpath
  exists?_iff.mpr ⟨_, h.at? hentry⟩

theorem Keeps.isFile (h : before.Keeps after) (hpath : before.isFile path = true) :
    after.isFile path = true :=
  have ⟨_, hcontent⟩ := isFile_iff.mp hpath
  isFile_iff.mpr ⟨_, h.at? hcontent⟩

namespace Furnishes

theorem refl (tree : FileTree) : tree.Furnishes tree := ⟨.refl tree, .inl⟩

theorem trans (h : before.Furnishes made) (h' : made.Furnishes after) : before.Furnishes after where
  toKeeps := h.toKeeps.trans h'.toKeeps
  own hentry := (h'.own hentry).elim h.own .inr

theorem set (hnone : tree.entry? place = none) : tree.Furnishes (tree.set place .directory) where
  toKeeps := .set hnone .directory
  own {other entry} hentry := by
    rw [entry?_set (ne_nil_of_none hnone)] at hentry
    split at hentry
    · cases hentry
      exact .inr rfl
    · exact .inl hentry

theorem file (h : before.Furnishes after) (hfile : after.entry? place = some (.file content)) :
    before.entry? place = some (.file content) :=
  (h.own hfile).resolve_right nofun

end Furnishes

theorem makeFrom_cons (tree : FileTree) (place : Location) (name : String) (names : List String) :
    tree.makeFrom place (name :: names) =
      if name = "." then tree.makeFrom place names
      else if name = ".." then tree.makeFrom place.dropLast names
      else if name.utf8ByteSize > longestName then .error .nameTooLong
      else
        match tree.entry? (place ++ [name]) with
        | some .directory => tree.makeFrom (place ++ [name]) names
        | some _ => .error (if names.isEmpty then .fileExists else .notDirectory)
        | none => (tree.set (place ++ [name]) .directory).makeFrom (place ++ [name]) names := rfl

theorem makeFrom_dot (tree : FileTree) (place : Location) (names : List String) :
    tree.makeFrom place ("." :: names) = tree.makeFrom place names := by
  rw [makeFrom_cons, if_pos rfl]

theorem makeFrom_up (tree : FileTree) (place : Location) (names : List String) :
    tree.makeFrom place (".." :: names) = tree.makeFrom place.dropLast names := by
  rw [makeFrom_cons, if_neg (by decide), if_pos rfl]

theorem makeFrom_of_long {name : String} (hdot : name ≠ ".") (hup : name ≠ "..")
    (hlong : name.utf8ByteSize > longestName) (tree : FileTree) (place : Location) (names : List String) :
    tree.makeFrom place (name :: names) = .error .nameTooLong := by
  rw [makeFrom_cons, if_neg hdot, if_neg hup, if_pos hlong]

theorem makeFrom_of_isPlain {name : String} (hname : IsPlain name) (tree : FileTree) (place : Location)
    (names : List String) :
    tree.makeFrom place (name :: names) = match tree.entry? (place ++ [name]) with
      | some .directory => tree.makeFrom (place ++ [name]) names
      | some _ => .error (if names.isEmpty then .fileExists else .notDirectory)
      | none => (tree.set (place ++ [name]) .directory).makeFrom (place ++ [name]) names := by
  rw [makeFrom_cons, if_neg hname.not_dot, if_neg hname.not_up, if_neg hname.short]

theorem makes_of_makeFrom (h : tree.makeFrom place names = .ok made) : Makes tree place names made := by
  induction names generalizing tree place with
  | nil =>
    cases h
    exact .done _ _
  | cons name names ih =>
    by_cases hdot : name = "."
    · subst hdot
      exact .dot (ih (makeFrom_dot tree place names ▸ h))
    · by_cases hup : name = ".."
      · subst hup
        exact .up (ih (makeFrom_up tree place names ▸ h))
      · by_cases hlong : name.utf8ByteSize > longestName
        · rw [makeFrom_of_long hdot hup hlong] at h
          cases h
        · have hname : IsPlain name := ⟨hdot, hup, hlong⟩
          rw [makeFrom_of_isPlain hname] at h
          split at h
          · next hinner => exact .there hname hinner (ih h)
          · cases h
          · next hinner => exact .new hname hinner (ih h)

namespace Makes

theorem furnishes (h : Makes tree place names made) : tree.Furnishes made := by
  induction h with
  | done tree place => exact .refl tree
  | dot _ ih => exact ih
  | up _ ih => exact ih
  | there _ _ _ ih => exact ih
  | new _ hinner _ ih => exact (Furnishes.set hinner).trans ih

theorem again (h : Makes tree place names made) (hkeeps : made.Keeps later) :
    later.makeFrom place names = .ok later := by
  induction h with
  | done => rfl
  | dot _ ih => exact (makeFrom_dot ..).trans (ih hkeeps)
  | up _ ih => exact (makeFrom_up ..).trans (ih hkeeps)
  | there hname hinner h ih =>
    rw [makeFrom_of_isPlain hname, hkeeps.entry (h.furnishes.entry hinner), ih hkeeps]
  | @new tree place name names made hname hinner h ih =>
    have hmade := h.furnishes.entry (entry?_set_self hinner .directory)
    rw [makeFrom_of_isPlain hname, hkeeps.entry hmade, ih hkeeps]

end Makes

theorem makeDirectories_furnishes (h : tree.makeDirectories path = .ok made) : tree.Furnishes made :=
  (makes_of_makeFrom h).furnishes

theorem makeDirectories_again (h : tree.makeDirectories path = .ok made) (hkeeps : made.Keeps later) :
    later.makeDirectories path = .ok later := by
  have horigin : later.origin path = tree.origin path :=
    (hkeeps.origin path).trans ((makeDirectories_furnishes h).origin path)
  rw [makeDirectories, horigin]
  exact (makes_of_makeFrom h).again hkeeps

namespace Rooted

theorem parent {entry : FileEntry} (h : tree.Rooted) (hentry : tree.entry? place = some entry) :
    tree.entry? place.dropLast = some .directory := by
  by_cases hplace : place = []
  · rw [hplace]
    exact entry?_nil tree
  · rw [entry?_of_ne hplace, Option.map_eq_some_iff] at hentry
    obtain ⟨e, he, -⟩ := hentry
    have hplaced : e.1 = place := by simpa using List.find?_some he
    rw [← hplaced]
    exact h e (List.mem_of_find?_eq_some he)

theorem above {entry : FileEntry} (h : tree.Rooted) (hentry : tree.entry? (place ++ names) = some entry)
    (hne : names ≠ []) : tree.entry? place = some .directory := by
  induction names using List.reverseRecOn generalizing entry with
  | nil => exact absurd rfl hne
  | append_singleton names name ih =>
    have hparent := h.parent hentry
    rw [← List.append_assoc, List.dropLast_concat] at hparent
    by_cases hnames : names = []
    · rwa [hnames, List.append_nil] at hparent
    · exact ih hparent hnames

end Rooted

theorem Leads.exists_below (h : tree.Leads place names found) (hdown : ".." ∉ names) :
    ∃ inner, found = place ++ inner := by
  induction h with
  | stay place => exact ⟨[], by simp⟩
  | dot _ ih => exact ih (List.not_mem_of_not_mem_cons hdown)
  | up => exact absurd List.mem_cons_self hdown
  | last place hname => exact ⟨_, rfl⟩
  | @down _ _ name _ _ _ _ _ ih =>
    obtain ⟨inner, hinner⟩ := ih (List.not_mem_of_not_mem_cons hdown)
    exact ⟨name :: inner, by rw [hinner, List.append_assoc, List.singleton_append]⟩

theorem Leads.isPlain_of_mem (h : tree.Leads place names found) (hdown : ".." ∉ names) :
    ∀ name ∈ names, name = "." ∨ IsPlain name := by
  induction h with
  | stay => exact List.forall_mem_nil _
  | dot _ ih => exact List.forall_mem_cons.mpr ⟨.inl rfl, ih (List.not_mem_of_not_mem_cons hdown)⟩
  | up => exact absurd List.mem_cons_self hdown
  | last _ hname => exact List.forall_mem_singleton.mpr (.inr hname)
  | down hname _ _ _ ih =>
    exact List.forall_mem_cons.mpr ⟨.inr hname, ih (List.not_mem_of_not_mem_cons hdown)⟩

theorem Furnishes.leads (h : before.Furnishes after) (hrooted : before.Rooted) (hdown : ".." ∉ names)
    (hleads : after.Leads place names found) (hfile : after.entry? found = some (.file content)) :
    before.Leads place names found := by
  induction hleads with
  | stay place => exact .stay place
  | dot _ ih => exact .dot (ih (List.not_mem_of_not_mem_cons hdown) hfile)
  | up => exact absurd List.mem_cons_self hdown
  | last place hname => exact .last place hname
  | @down place found name names hname hne hinner hrest ih =>
    have hdown' := List.not_mem_of_not_mem_cons hdown
    obtain ⟨below, rfl⟩ := hrest.exists_below hdown'
    have hbelow : below ≠ [] := by
      rintro rfl
      rw [List.append_nil, hinner] at hfile
      cases hfile
    exact .down hname hne (hrooted.above (h.file hfile) hbelow) (ih hdown' hfile)

theorem Furnishes.at?_file_iff (h : before.Furnishes after) (hrooted : before.Rooted)
    (hdown : ".." ∉ Path.names path) :
    after.at? path = some (.file content) ↔ before.at? path = some (.file content) := by
  refine ⟨fun hfile => ?_, h.at?⟩
  obtain ⟨place, hlocate, hentry⟩ := at?_eq_some_iff.mp hfile
  obtain ⟨hvalid, hleads⟩ := locate_eq_ok_iff.mp hlocate
  have hleads' := h.leads hrooted hdown (h.origin path ▸ hleads) hentry
  exact at?_eq_some_iff.mpr ⟨place, locate_eq_ok_iff.mpr ⟨hvalid, hleads'⟩, h.file hentry⟩

theorem at?_of_read (hisFile : tree.isFile path = true) (h : tree.read path = .ok content) :
    tree.at? path = some (.file content) := by
  obtain ⟨held, hheld⟩ := isFile_iff.mp hisFile
  obtain ⟨place, hlocate, hentry⟩ := at?_eq_some_iff.mp hheld
  rw [read, hlocate] at h
  simp only [hentry] at h
  cases h
  exact hheld

theorem readText_of_at? {text : String} (h : tree.at? path = some (.file (.text text))) :
    tree.readText path = .ok text := by
  obtain ⟨place, hlocate, hentry⟩ := at?_eq_some_iff.mp h
  rw [readText, read, hlocate]
  simp only [hentry]

theorem exists_of_write (hnone : tree.exists? path = false) (h : tree.write path content = .ok after) :
    ∃ place, tree.locate path = .ok place ∧ tree.entry? place = none ∧
      after = tree.set place (.file content) := by
  rw [write] at h
  cases hlocate : tree.locate path with
  | error fault => simp [hlocate] at h
  | ok place =>
    have hentry : tree.entry? place = none := by
      simpa [exists?, at?, hlocate] using hnone
    simp only [hlocate, hentry] at h
    cases h
    exact ⟨place, rfl, hentry, rfl⟩

end WorkflowScript.FileTree
