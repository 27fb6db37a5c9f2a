import Mathlib.Data.List.Basic
import WorkflowScript.Shell.Edit

namespace WorkflowScript.Shell.Pattern

def Part.isSimple : Part → Bool
  | .group _ _ => false
  | _ => true

def Part.accepts (ignoreCase : Bool) : Part → Char → Bool
  | .char c, d => (if ignoreCase then d.toLower else d) == (if ignoreCase then c.toLower else c)
  | .any, _ => true
  | .oneOf negated items, d =>
    items.any (fun item =>
      item.contains d || (ignoreCase && (item.contains d.toLower || item.contains d.toUpper))) != negated
  | _, _ => false

inductive Matches (ignoreCase : Bool) : List Part → Chars → Prop where
  | nil : Matches ignoreCase [] []
  | one {part : Part} {parts : List Part} {c : Char} {text : Chars} (hc : part.accepts ignoreCase c = true)
      (h : Matches ignoreCase parts text) : Matches ignoreCase (part :: parts) (c :: text)
  | many {parts : List Part} (front : Chars) {text : Chars} (h : Matches ignoreCase parts text) :
      Matches ignoreCase (.many :: parts) (front ++ text)

variable {ignoreCase groups : Bool} {part : Part} {parts : List Part} {ends : List Chars}
  {text front rest : Chars} {n : Nat}

section Ends

def Nested (ends : List Chars) : Prop := ends.Pairwise fun longer shorter => shorter <:+ longer

theorem afterChar_eq_some_iff {accepts : Char → Bool} :
    afterChar accepts text = some rest ↔ ∃ c, accepts c = true ∧ text = c :: rest := by
  cases text with
  | nil => exact ⟨nofun, fun ⟨_, _, h⟩ => nomatch h⟩
  | cons c text =>
    rw [afterChar]
    split
    · next hc =>
      rw [Option.some_inj]
      exact ⟨fun h => ⟨c, hc, h ▸ rfl⟩, fun ⟨_, _, h⟩ => (List.cons.inj h).2⟩
    · next hc => exact ⟨nofun, fun ⟨_, hd, h⟩ => absurd ((List.cons.inj h).1 ▸ hd) hc⟩

theorem mem_filterMap_afterChar {accepts : Char → Bool} :
    rest ∈ ends.filterMap (afterChar accepts) ↔ ∃ c, accepts c = true ∧ c :: rest ∈ ends := by
  simp only [List.mem_filterMap, afterChar_eq_some_iff]
  constructor
  · rintro ⟨_, hmem, c, hc, rfl⟩
    exact ⟨c, hc, hmem⟩
  · rintro ⟨c, hc, hmem⟩
    exact ⟨c :: rest, hmem, c, hc, rfl⟩

theorem Nested.filterMap_afterChar (h : Nested ends) (accepts : Char → Bool) :
    Nested (ends.filterMap (afterChar accepts)) := by
  refine List.Pairwise.filterMap _ (fun longer shorter hsuffix after hafter later hlater => ?_) h
  obtain ⟨c, -, rfl⟩ := afterChar_eq_some_iff.mp hafter
  obtain ⟨d, -, rfl⟩ := afterChar_eq_some_iff.mp hlater
  rcases List.suffix_cons_iff.mp hsuffix with hsame | hlater
  · obtain ⟨-, rfl⟩ := List.cons.inj hsame
    exact List.suffix_rfl
  · exact (List.suffix_cons d later).trans hlater

theorem mem_tails : rest ∈ tails text ↔ rest <:+ text := by
  induction text with
  | nil => rw [tails, List.mem_singleton, List.suffix_nil]
  | cons c text ih => rw [tails, List.mem_cons, ih, List.suffix_cons_iff]

theorem nested_tails (text : Chars) : Nested (tails text) := by
  induction text with
  | nil => exact List.pairwise_singleton _ _
  | cons c text ih =>
    refine List.Pairwise.cons (fun rest hrest => ?_) ih
    exact (mem_tails.mp hrest).trans (List.suffix_cons c text)

theorem Nested.suffix_head (h : Nested (front :: ends)) : ∀ rest ∈ front :: ends, rest <:+ front :=
  List.forall_mem_cons.mpr ⟨List.suffix_rfl, (List.pairwise_cons.mp h).1⟩

end Ends

section Step

def after (ignoreCase : Bool) (part : Part) (ends : List Chars) : List Chars :=
  match part with
  | .many => tails (ends.head?.getD [])
  | part => ends.filterMap (afterChar (part.accepts ignoreCase))

theorem after_of_ne_many (h : part ≠ .many) (ends : List Chars) :
    after ignoreCase part ends = ends.filterMap (afterChar (part.accepts ignoreCase)) := by
  unfold after
  split
  · exact absurd rfl h
  · rfl

theorem leftFrom_cons (hsimple : part.isSimple = true) (n : Nat) (parts : List Part) (ends : List Chars) :
    leftFrom ignoreCase (n + 1) (part :: parts) ends =
      if (after ignoreCase part ends).isEmpty then []
      else leftFrom ignoreCase n parts (after ignoreCase part ends) := by
  cases part with
  | group mark alternatives => cases hsimple
  | char c => rw [leftFrom]; rfl
  | any => rw [leftFrom]; rfl
  | many => rw [leftFrom]; rfl
  | oneOf negated items => rw [leftFrom]; rfl

theorem Nested.after (h : Nested ends) (part : Part) : Nested (after ignoreCase part ends) := by
  unfold Pattern.after
  split
  · exact nested_tails _
  · exact h.filterMap_afterChar _

theorem many_cons_iff (hnested : Nested ends) (hne : ends ≠ []) :
    (∃ text ∈ after ignoreCase .many ends, ∃ front, text = front ++ rest ∧ Matches ignoreCase parts front) ↔
      ∃ text ∈ ends, ∃ front, text = front ++ rest ∧ Matches ignoreCase (.many :: parts) front := by
  obtain ⟨first, others, rfl⟩ := List.exists_cons_of_ne_nil hne
  constructor
  · rintro ⟨_, hmem, front, rfl, hmatches⟩
    obtain ⟨skipped, hfirst : skipped ++ (front ++ rest) = first⟩ := mem_tails.mp hmem
    exact ⟨first, List.mem_cons_self, skipped ++ front, by rw [List.append_assoc, hfirst], .many skipped hmatches⟩
  · rintro ⟨_, hmem, _, rfl, hmatches⟩
    have hsuffix := hnested.suffix_head _ hmem
    cases hmatches with
    | one hc h => cases hc
    | @many _ skipped front hmatches =>
      rw [List.append_assoc] at hsuffix
      exact ⟨front ++ rest, mem_tails.mpr ((List.suffix_append _ _).trans hsuffix), front, rfl, hmatches⟩

theorem one_cons_iff (hpart : part ≠ .many) :
    (∃ text ∈ after ignoreCase part ends, ∃ front, text = front ++ rest ∧ Matches ignoreCase parts front) ↔
      ∃ text ∈ ends, ∃ front, text = front ++ rest ∧ Matches ignoreCase (part :: parts) front := by
  rw [after_of_ne_many hpart]
  constructor
  · rintro ⟨_, hmem, front, rfl, hmatches⟩
    obtain ⟨c, hc, hmem⟩ := mem_filterMap_afterChar.mp hmem
    exact ⟨_, hmem, c :: front, rfl, .one hc hmatches⟩
  · rintro ⟨_, hmem, _, rfl, hmatches⟩
    cases hmatches with
    | @one _ _ c front hc hmatches =>
      exact ⟨front ++ rest, mem_filterMap_afterChar.mpr ⟨c, hc, hmem⟩, front, rfl, hmatches⟩
    | many front h => exact absurd rfl hpart

theorem matches_cons_iff (hnested : Nested ends) (hne : ends ≠ []) :
    (∃ text ∈ after ignoreCase part ends, ∃ front, text = front ++ rest ∧ Matches ignoreCase parts front) ↔
      ∃ text ∈ ends, ∃ front, text = front ++ rest ∧ Matches ignoreCase (part :: parts) front := by
  by_cases hpart : part = .many
  · rw [hpart]
    exact many_cons_iff hnested hne
  · exact one_cons_iff hpart

theorem mem_leftFrom (hsimple : ∀ part ∈ parts, part.isSimple = true) (hn : parts.length ≤ n)
    (hnested : Nested ends) (hne : ends ≠ []) : rest ∈ leftFrom ignoreCase n parts ends ↔
      ∃ text ∈ ends, ∃ front, text = front ++ rest ∧ Matches ignoreCase parts front := by
  induction parts generalizing n ends with
  | nil =>
    rw [leftFrom]
    constructor
    · exact fun hmem => ⟨rest, hmem, [], rfl, .nil⟩
    · rintro ⟨text, hmem, front, rfl, hmatches⟩
      cases hmatches
      exact hmem
  | cons part parts ih =>
    obtain ⟨hpart, hparts⟩ := List.forall_mem_cons.mp hsimple
    obtain ⟨n, rfl⟩ := Nat.exists_eq_add_of_le' (Nat.one_le_of_lt hn)
    rw [leftFrom_cons hpart, ← matches_cons_iff hnested hne]
    split
    · next hempty =>
      rw [List.isEmpty_iff.mp hempty]
      exact ⟨nofun, fun ⟨_, hmem, _⟩ => nomatch hmem⟩
    · next hopen =>
      exact ih hparts (Nat.le_of_succ_le_succ hn) (hnested.after part) fun hnil => hopen (hnil ▸ rfl)

theorem nested_leftFrom (hsimple : ∀ part ∈ parts, part.isSimple = true) (hnested : Nested ends) :
    Nested (leftFrom ignoreCase n parts ends) := by
  induction parts generalizing n ends with
  | nil =>
    rw [leftFrom]
    exact hnested
  | cons part parts ih =>
    obtain ⟨hpart, hparts⟩ := List.forall_mem_cons.mp hsimple
    cases n with
    | zero => exact List.Pairwise.nil
    | succ n =>
      rw [leftFrom_cons hpart]
      split
      · exact List.Pairwise.nil
      · exact ih hparts (hnested.after part)

end Step

section Whole

variable (hsimple : ∀ part ∈ parts, part.isSimple = true) (hreach : parts.length ≤ reach)
include hsimple hreach

theorem mem_left : rest ∈ left ignoreCase parts text ↔
    ∃ front, text = front ++ rest ∧ Matches ignoreCase parts front := by
  rw [left, mem_leftFrom hsimple hreach (List.pairwise_singleton _ _) (List.cons_ne_nil _ _)]
  simp only [List.mem_singleton, exists_eq_left]

theorem matchesAll_iff : matchesAll ignoreCase parts text = true ↔ Matches ignoreCase parts text := by
  rw [matchesAll, List.any_eq_true]
  constructor
  · rintro ⟨rest, hmem, hempty⟩
    obtain ⟨front, htext, hmatches⟩ := (mem_left hsimple hreach).mp hmem
    rwa [htext, List.isEmpty_iff.mp hempty, List.append_nil]
  · intro hmatches
    exact ⟨[], (mem_left hsimple hreach).mpr ⟨text, (List.append_nil text).symm, hmatches⟩, rfl⟩

end Whole

section Picked

def Outdoes (longest : Bool) (taken other : Chars) : Prop :=
  if longest then other.length ≤ taken.length else taken.length ≤ other.length

def picked? (last : Bool) (ends : List Chars) : Option Chars := if last then ends.getLast? else ends.head?

theorem outdoes_not (longest : Bool) (taken other : Chars) :
    Outdoes (!longest) other taken ↔ Outdoes longest taken other := by
  cases longest <;> rfl

theorem picked?_not (longest : Bool) (ends : List Chars) :
    picked? (!longest) ends = if longest then ends.head? else ends.getLast? := by
  cases longest <;> rfl

theorem picked?_eq_none_iff {last : Bool} : picked? last ends = none ↔ ends = [] := by
  cases last with
  | false => exact List.head?_eq_none_iff
  | true => exact List.getLast?_eq_none_iff

theorem Nested.picked {last : Bool} (h : Nested ends) (hpicked : picked? last ends = some rest) :
    rest ∈ ends ∧ ∀ other ∈ ends, Outdoes last other rest := by
  cases last with
  | false =>
    obtain ⟨others, rfl⟩ := List.head?_eq_some_iff.mp hpicked
    exact ⟨List.mem_cons_self, fun other hother => (h.suffix_head other hother).length_le⟩
  | true =>
    obtain ⟨before, rfl⟩ := List.getLast?_eq_some_iff.mp hpicked
    obtain ⟨-, -, hbefore⟩ := List.pairwise_append.mp h
    refine ⟨List.mem_concat_self, List.forall_mem_append.mpr ⟨fun other hother => ?_, ?_⟩⟩
    · exact (hbefore other hother rest (List.mem_singleton.mpr rfl)).length_le
    · exact List.forall_mem_singleton.mpr (Nat.le_refl rest.length)

end Picked

section Edit

inductive StartRemoved (ignoreCase longest : Bool) (parts : List Part) (text rest : Chars) : Prop where
  | taken (front : Chars) (htext : text = front ++ rest) (h : Matches ignoreCase parts front)
      (hbest : ∀ other left, text = other ++ left → Matches ignoreCase parts other → Outdoes longest front other)
  | kept (hkept : rest = text) (hnone : ∀ other left, text = other ++ left → ¬ Matches ignoreCase parts other)

inductive EndRemoved (ignoreCase longest : Bool) (parts : List Part) (text front : Chars) : Prop where
  | taken (tail : Chars) (htext : text = front ++ tail) (h : Matches ignoreCase parts tail)
      (hbest : ∀ other before, text = before ++ other → Matches ignoreCase parts other → Outdoes longest tail other)
  | kept (hkept : front = text) (hnone : ∀ other before, text = before ++ other → ¬ Matches ignoreCase parts other)

variable (hsimple : ∀ part ∈ parts, part.isSimple = true) (hreach : parts.length ≤ reach) (longest : Bool)
include hsimple hreach

theorem startRemoved_removeStart :
    StartRemoved ignoreCase longest parts text (Edit.removeStart ignoreCase longest parts text) := by
  have hnested : Nested (left ignoreCase parts text) := nested_leftFrom hsimple (List.pairwise_singleton _ _)
  have hmem {rest : Chars} := @mem_left ignoreCase parts text rest hsimple hreach
  change StartRemoved _ _ _ _ ((picked? longest (left ignoreCase parts text)).getD text)
  cases hpicked : picked? longest (left ignoreCase parts text) with
  | none =>
    refine .kept rfl fun other left htext h => ?_
    have hother := hmem.mpr ⟨other, htext, h⟩
    rw [picked?_eq_none_iff.mp hpicked] at hother
    cases hother
  | some rest =>
    obtain ⟨hrest, hbest⟩ := hnested.picked hpicked
    obtain ⟨front, htext, h⟩ := hmem.mp hrest
    refine .taken front htext h fun other left hother h => ?_
    have hlength := hbest left (hmem.mpr ⟨other, hother, h⟩)
    have hsame : front.length + rest.length = other.length + left.length := by
      rw [← List.length_append, ← htext, hother, List.length_append]
    cases longest with
    | false =>
      have hle : left.length ≤ rest.length := hlength
      exact show front.length ≤ other.length by omega
    | true =>
      have hle : rest.length ≤ left.length := hlength
      exact show other.length ≤ front.length by omega

theorem endRemoved_removeEnd :
    EndRemoved ignoreCase longest parts text (Edit.removeEnd ignoreCase longest parts text) := by
  have hnested : Nested ((tails text).filter (matchesAll ignoreCase parts)) := (nested_tails text).filter _
  have hmem {tail : Chars} : tail ∈ (tails text).filter (matchesAll ignoreCase parts) ↔
      (∃ before, before ++ tail = text) ∧ Matches ignoreCase parts tail := by
    rw [List.mem_filter, mem_tails, matchesAll_iff hsimple hreach]
    rfl
  rw [Edit.removeEnd, ← picked?_not]
  cases hpicked : picked? (!longest) ((tails text).filter (matchesAll ignoreCase parts)) with
  | none =>
    refine .kept rfl fun other before htext h => ?_
    have hother := hmem.mpr ⟨⟨before, htext.symm⟩, h⟩
    rw [picked?_eq_none_iff.mp hpicked] at hother
    cases hother
  | some tail =>
    obtain ⟨htail, hbest⟩ := hnested.picked hpicked
    obtain ⟨⟨front, rfl⟩, h⟩ := hmem.mp htail
    have hfront : (front ++ tail).take ((front ++ tail).length - tail.length) = front := by
      rw [List.length_append, Nat.add_sub_cancel, List.take_left]
    dsimp only
    rw [hfront]
    refine .taken tail rfl h fun other before hother h => ?_
    exact (outdoes_not _ _ _).mp (hbest other (hmem.mpr ⟨⟨before, hother.symm⟩, h⟩))

end Edit

section Reading

variable {pattern : List Marked}

theorem partsFrom_cons (n : Nat) (m : Marked) (pattern : List Marked) : partsFrom false (n + 1) (m :: pattern) =
    if isPlain '*' m then .many :: partsFrom false n pattern
    else if isPlain '?' m then .any :: partsFrom false n pattern
    else if isPlain '[' m then
      match bracket? pattern with
      | some (part, rest) => part :: partsFrom false n rest
      | none => .char '[' :: partsFrom false n pattern
    else .char m.char :: partsFrom false n pattern := by
  cases pattern <;> rfl

theorem isSimple_of_bracket? {rest : List Marked} (h : bracket? pattern = some (part, rest)) :
    part.isSimple = true := by
  rw [bracket?, Option.map_eq_some_iff] at h
  obtain ⟨found, -, hfound⟩ := h
  cases hfound
  rfl

theorem exists_partsFrom_cons (n : Nat) (m : Marked) (pattern : List Marked) : ∃ part rest,
    partsFrom false (n + 1) (m :: pattern) = part :: partsFrom false n rest ∧ part.isSimple = true := by
  rw [partsFrom_cons]
  split
  · exact ⟨_, _, rfl, rfl⟩
  · split
    · exact ⟨_, _, rfl, rfl⟩
    · split
      · split
        · next part rest hbracket => exact ⟨part, rest, rfl, isSimple_of_bracket? hbracket⟩
        · exact ⟨_, _, rfl, rfl⟩
      · exact ⟨_, _, rfl, rfl⟩

theorem partsFrom_simple (n : Nat) (pattern : List Marked) :
    (partsFrom false n pattern).length ≤ n ∧ ∀ part ∈ partsFrom false n pattern, part.isSimple = true := by
  induction n generalizing pattern with
  | zero => exact ⟨Nat.zero_le 0, List.forall_mem_nil _⟩
  | succ n ih =>
    cases pattern with
    | nil => exact ⟨Nat.zero_le _, List.forall_mem_nil _⟩
    | cons m pattern =>
      obtain ⟨part, rest, hparts, hpart⟩ := exists_partsFrom_cons n m pattern
      obtain ⟨hlength, hsimple⟩ := ih rest
      rw [hparts]
      exact ⟨Nat.succ_le_succ hlength, List.forall_mem_cons.mpr ⟨hpart, hsimple⟩⟩

theorem matchesAll_ofMarked_iff (h : pattern.length < reach) :
    matchesAll ignoreCase (ofMarked false pattern) text = true ↔
      Matches ignoreCase (ofMarked false pattern) text := by
  obtain ⟨hlength, hsimple⟩ := partsFrom_simple (pattern.length + 1) pattern
  exact matchesAll_iff hsimple (Nat.le_trans hlength h)

theorem partsFrom_quoted (groups : Bool) (n : Nat) (c : Char) (pattern : List Marked) :
    partsFrom groups (n + 1) (⟨c, true⟩ :: pattern) = .char c :: partsFrom groups n pattern := by
  cases pattern with
  | nil => simp [partsFrom, isPlain]
  | cons m pattern => simp [partsFrom, isPlain, isGroupMark]

theorem partsFrom_literal (groups : Bool) {literal : Chars} (hn : literal.length < n) :
    partsFrom groups n (literal.map (⟨·, true⟩)) = literal.map .char := by
  induction literal generalizing n with
  | nil => cases n <;> rfl
  | cons c literal ih =>
    obtain ⟨n, rfl⟩ := Nat.exists_eq_add_of_le' (Nat.one_le_of_lt hn)
    rw [List.map_cons, partsFrom_quoted, ih (Nat.lt_of_succ_lt_succ hn)]
    rfl

theorem ofMarked_quoted (groups : Bool) (literal : Chars) :
    ofMarked groups (literal.map (⟨·, true⟩)) = literal.map .char := by
  rw [ofMarked, List.length_map]
  exact partsFrom_literal groups (Nat.lt_succ_self _)

theorem matches_literal_iff {literal : Chars} : Matches false (literal.map .char) text ↔ text = literal := by
  induction literal generalizing text with
  | nil =>
    constructor
    · intro h
      cases h
      rfl
    · rintro rfl
      exact .nil
  | cons c literal ih =>
    rw [List.map_cons]
    constructor
    · intro h
      cases h with
      | @one _ _ d rest hd h =>
        have hsame : d = c := beq_iff_eq.mp hd
        rw [ih.mp h, hsame]
    · rintro rfl
      exact .one (beq_iff_eq.mpr rfl) (ih.mpr rfl)

theorem matchesAll_quoted_iff {literal : Chars} (h : literal.length ≤ reach) :
    matchesAll false (ofMarked groups (literal.map (⟨·, true⟩))) text = true ↔ text = literal := by
  rw [ofMarked_quoted, matchesAll_iff (List.forall_mem_map.mpr fun c _ => rfl) (by rwa [List.length_map]),
    matches_literal_iff]

end Reading

end WorkflowScript.Shell.Pattern
