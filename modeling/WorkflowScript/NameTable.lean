import WorkflowScript.Text.Case

namespace WorkflowScript

universe u

def foldName (name : String) : String := Text.lower name

structure NameTable (α : Type u) where
  entries : List (String × α)
  distinct : (entries.map fun e => foldName e.1).Nodup

namespace NameTable

variable {α : Type u}

def empty : NameTable α := ⟨[], List.nodup_nil⟩

instance : Inhabited (NameTable α) := ⟨empty⟩

def lookup (name : String) : List (String × α) → Option α
  | [] => none
  | e :: entries => if foldName e.1 = foldName name then some e.2 else lookup name entries

def exchangeIn (name : String) (value : α) : List (String × α) → Option α × List (String × α)
  | [] => (none, [(name, value)])
  | e :: entries =>
    if foldName e.1 = foldName name then (some e.2, (name, value) :: entries)
    else
      let (old, rest) := exchangeIn name value entries
      (old, e :: rest)

def put (name : String) (value : α) (entries : List (String × α)) : List (String × α) :=
  (exchangeIn name value entries).2

@[simp] theorem put_nil (name : String) (value : α) : put name value [] = [(name, value)] := rfl

theorem put_cons (name : String) (value : α) (e : String × α) (entries : List (String × α)) :
    put name value (e :: entries) =
      if foldName e.1 = foldName name then (name, value) :: entries
      else e :: put name value entries := by
  rw [put, exchangeIn]
  split <;> rfl

theorem mem_fold_put {name : String} {value : α} {entries : List (String × α)} {key : String} :
    key ∈ (put name value entries).map (fun e => foldName e.1) ↔
      key = foldName name ∨ key ∈ entries.map (fun e => foldName e.1) := by
  induction entries with
  | nil => simp
  | cons e entries ih =>
    by_cases h : foldName e.1 = foldName name
    · rw [put_cons, if_pos h]
      simp only [List.map_cons, List.mem_cons, h]
      exact ⟨fun hk => .inr hk, fun hk => hk.elim .inl id⟩
    · rw [put_cons, if_neg h]
      simp only [List.map_cons, List.mem_cons, ih]
      exact or_left_comm

theorem nodup_put (name : String) (value : α) {entries : List (String × α)}
    (h : (entries.map fun e => foldName e.1).Nodup) :
    ((put name value entries).map fun e => foldName e.1).Nodup := by
  induction entries with
  | nil => simp
  | cons e entries ih =>
    rw [List.map_cons, List.nodup_cons] at h
    by_cases he : foldName e.1 = foldName name
    · rw [put_cons, if_pos he, List.map_cons, List.nodup_cons]
      exact ⟨he ▸ h.1, h.2⟩
    · rw [put_cons, if_neg he, List.map_cons, List.nodup_cons, mem_fold_put]
      exact ⟨fun hk => hk.elim he h.1, ih h.2⟩

def get? (table : NameTable α) (name : String) : Option α := lookup name table.entries

def contains (table : NameTable α) (name : String) : Bool := (table.get? name).isSome

def exchange (table : NameTable α) (name : String) (value : α) : Option α × NameTable α :=
  let result := exchangeIn name value table.entries
  (result.1, ⟨result.2, nodup_put name value table.distinct⟩)

def insert (table : NameTable α) (name : String) (value : α) : NameTable α :=
  (table.exchange name value).2

def ofList (pairs : List (String × α)) : NameTable α :=
  pairs.foldl (fun table pair => table.insert pair.1 pair.2) empty

def toList (table : NameTable α) : List (String × α) := table.entries

def size (table : NameTable α) : Nat := table.entries.length

def isEmpty (table : NameTable α) : Bool := table.entries.isEmpty

def sorted (table : NameTable α) : List (String × α) :=
  table.entries.mergeSort fun a b => !decide (Text.upper b.1 < Text.upper a.1)

@[simp] theorem toList_empty : (empty : NameTable α).toList = [] := rfl

@[simp] theorem toList_insert (table : NameTable α) (name : String) (value : α) :
    (table.insert name value).toList = put name value table.toList := rfl

theorem lookup_put (name other : String) (value : α) (entries : List (String × α)) :
    lookup other (put name value entries) =
      if foldName name = foldName other then some value else lookup other entries := by
  induction entries with
  | nil => simp [lookup]
  | cons e entries ih =>
    by_cases he : foldName e.1 = foldName name
    · by_cases ho : foldName name = foldName other
      · simp [put_cons, lookup, he, ho]
      · simp [put_cons, lookup, he, ho]
    · by_cases ho : foldName name = foldName other
      · rw [ho] at he
        simp [put_cons, lookup, he, ho, ih]
      · simp [put_cons, lookup, he, ho, ih]

theorem get?_insert (table : NameTable α) (name other : String) (value : α) :
    (table.insert name value).get? other =
      if foldName name = foldName other then some value else table.get? other :=
  lookup_put name other value table.entries

theorem sorted_perm (table : NameTable α) : table.sorted.Perm table.toList :=
  List.mergeSort_perm _ _

end NameTable

end WorkflowScript
