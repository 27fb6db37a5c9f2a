import Mathlib.Data.List.Basic
import WorkflowScript.Shell.Regex

namespace WorkflowScript.Shell.Regex

structure Spot where
  before : Chars
  after : Chars
  captures : List Capture

def Spot.place (spot : Spot) : Place := ⟨spot.before.getLast?, spot.after, spot.before.isEmpty⟩

def folded (ignoreCase : Bool) (c : Char) : Char := if ignoreCase then c.toLower else c

def letter? (ignoreCase : Bool) : Regex → Option (Char → Bool)
  | .char c => some fun d => folded ignoreCase d == folded ignoreCase c
  | .any => some fun _ => true
  | .oneOf negated items => some fun d =>
    items.any (fun item =>
      item.contains d || (ignoreCase && (item.contains d.toLower || item.contains d.toUpper))) != negated
  | _ => none

def edge? : Regex → Option (Place → Bool)
  | .empty => some fun _ => true
  | .lineStart => some Place.isStart
  | .lineStop => some fun place => place.rest.isEmpty
  | .wordEdge atStart atStop => some fun place =>
    (atStart && !isWordChar? place.before && isWordChar? place.rest.head?) ||
      (atStop && isWordChar? place.before && !isWordChar? place.rest.head?)
  | _ => none

inductive Unfolds : Regex → List Regex → Prop where
  | sequence (first second : Regex) : Unfolds (.sequence first second) [first, second]
  | left (first second : Regex) : Unfolds (.either first second) [first]
  | right (first second : Regex) : Unfolds (.either first second) [second]
  | repeated {inner : Regex} {least : Nat} {most : Option Nat} {times : Nat} (hleast : least ≤ times)
    (hmost : ∀ n ∈ most, times ≤ max least n) : Unfolds (.repeated inner least most) (List.replicate times inner)

inductive Takes (ignoreCase : Bool) : List Regex → Spot → Spot → Prop where
  | nil (spot : Spot) : Takes ignoreCase [] spot spot
  | letter {regex : Regex} {more : List Regex} {accepts : Char → Bool} {c : Char} {before after : Chars}
    {captures : List Capture} {last : Spot} (hletter : letter? ignoreCase regex = some accepts)
    (hc : accepts c = true) (hmore : Takes ignoreCase more ⟨before ++ [c], after, captures⟩ last) :
    Takes ignoreCase (regex :: more) ⟨before, c :: after, captures⟩ last
  | edge {regex : Regex} {more : List Regex} {accepts : Place → Bool} {spot last : Spot}
    (hedge : edge? regex = some accepts) (hplace : accepts spot.place = true)
    (hmore : Takes ignoreCase more spot last) : Takes ignoreCase (regex :: more) spot last
  | unfold {regex : Regex} {parts more : List Regex} {spot last : Spot} (hparts : Unfolds regex parts)
    (hmore : Takes ignoreCase (parts ++ more) spot last) : Takes ignoreCase (regex :: more) spot last
  | group {number : Nat} {inner : Regex} {more : List Regex} {before taken after : Chars}
    {captures inside : List Capture} {last : Spot}
    (hinner : Takes ignoreCase [inner] ⟨before, taken ++ after, captures⟩ ⟨before ++ taken, after, inside⟩)
    (hmore : Takes ignoreCase more
      ⟨before ++ taken, after, ⟨number, taken⟩ :: inside.filter (·.number != number)⟩ last) :
    Takes ignoreCase (.group number inner :: more) ⟨before, taken ++ after, captures⟩ last
  | again {capture : Capture} {more : List Regex} {before after : Chars} {captures : List Capture} {last : Spot}
    (hfind : captures.find? (·.number == capture.number) = some capture)
    (hmore : Takes ignoreCase more ⟨before ++ capture.text, after, captures⟩ last) :
    Takes ignoreCase (.again capture.number :: more) ⟨before, capture.text ++ after, captures⟩ last

section Takes

variable {ignoreCase : Bool} {first second : List Regex} {spot middle last : Spot}

theorem Takes.exists_taken (h : Takes ignoreCase first spot last) :
    ∃ taken, last.before = spot.before ++ taken ∧ spot.after = taken ++ last.after ∧
      ∀ capture ∈ last.captures, capture ∈ spot.captures ∨ capture.text <:+: taken := by
  induction h with
  | nil spot => exact ⟨[], (List.append_nil _).symm, rfl, fun _ => .inl⟩
  | @letter _ _ _ c _ _ _ _ _ _ _ ih =>
    obtain ⟨taken, hbefore, rfl, hcaptures⟩ := ih
    refine ⟨c :: taken, by rw [hbefore, List.append_assoc, List.singleton_append], rfl, fun capture hmem => ?_⟩
    exact (hcaptures capture hmem).imp_right fun hwithin => hwithin.trans (List.suffix_cons c taken).isInfix
  | edge _ _ _ ih => exact ih
  | unfold _ _ ih => exact ih
  | @group number _ _ _ inside _ captures found _ _ _ ihinner ih =>
    obtain ⟨taken, hbefore, rfl, hcaptures⟩ := ih
    obtain ⟨inside', hinside, -, hinner⟩ := ihinner
    obtain rfl : inside = inside' := List.append_cancel_left hinside
    refine ⟨inside ++ taken, by rw [hbefore, List.append_assoc], (List.append_assoc ..).symm, fun capture hmem => ?_⟩
    rcases hcaptures capture hmem with hmem | hwithin
    · rcases List.mem_cons.mp hmem with rfl | hmem
      · exact .inr (List.prefix_append inside taken).isInfix
      · refine (hinner capture (List.mem_filter.mp hmem).1).imp_right fun hwithin => ?_
        exact hwithin.trans (List.prefix_append inside taken).isInfix
    · exact .inr (hwithin.trans (List.suffix_append inside taken).isInfix)
  | @again again _ _ _ _ _ _ _ ih =>
    obtain ⟨taken, hbefore, rfl, hcaptures⟩ := ih
    refine ⟨again.text ++ taken, by rw [hbefore, List.append_assoc], (List.append_assoc ..).symm,
      fun capture hmem => ?_⟩
    exact (hcaptures capture hmem).imp_right fun hwithin =>
      hwithin.trans (List.suffix_append again.text taken).isInfix

theorem Takes.append (h : Takes ignoreCase first spot middle) (h' : Takes ignoreCase second middle last) :
    Takes ignoreCase (first ++ second) spot last := by
  induction h with
  | nil spot => exact h'
  | letter hletter hc _ ih => exact .letter hletter hc (ih h')
  | edge hedge hplace _ ih => exact .edge hedge hplace (ih h')
  | @unfold _ parts more _ _ hparts _ ih =>
    have hmore := ih h'
    rw [List.append_assoc] at hmore
    exact .unfold hparts hmore
  | group hinner _ _ ih => exact .group hinner (ih h')
  | again hfind _ ih => exact .again hfind (ih h')

theorem Takes.exists_of_append {regexes : List Regex} (h : Takes ignoreCase regexes spot last)
    (heq : regexes = first ++ second) :
    ∃ middle, Takes ignoreCase first spot middle ∧ Takes ignoreCase second middle last := by
  induction h generalizing first with
  | nil spot =>
    obtain ⟨rfl, rfl⟩ := List.append_eq_nil_iff.mp heq.symm
    exact ⟨spot, .nil spot, .nil spot⟩
  | letter hletter hc hmore ih =>
    rcases List.cons_eq_append_iff.mp heq with ⟨rfl, rfl⟩ | ⟨first, rfl, hrest⟩
    · exact ⟨_, .nil _, .letter hletter hc hmore⟩
    · obtain ⟨middle, hfirst, hsecond⟩ := ih hrest
      exact ⟨middle, .letter hletter hc hfirst, hsecond⟩
  | edge hedge hplace hmore ih =>
    rcases List.cons_eq_append_iff.mp heq with ⟨rfl, rfl⟩ | ⟨first, rfl, hrest⟩
    · exact ⟨_, .nil _, .edge hedge hplace hmore⟩
    · obtain ⟨middle, hfirst, hsecond⟩ := ih hrest
      exact ⟨middle, .edge hedge hplace hfirst, hsecond⟩
  | unfold hparts hmore ih =>
    rcases List.cons_eq_append_iff.mp heq with ⟨rfl, rfl⟩ | ⟨first, rfl, rfl⟩
    · exact ⟨_, .nil _, .unfold hparts hmore⟩
    · obtain ⟨middle, hfirst, hsecond⟩ := ih (List.append_assoc ..).symm
      exact ⟨middle, .unfold hparts hfirst, hsecond⟩
  | group hinner hmore _ ih =>
    rcases List.cons_eq_append_iff.mp heq with ⟨rfl, rfl⟩ | ⟨first, rfl, hrest⟩
    · exact ⟨_, .nil _, .group hinner hmore⟩
    · obtain ⟨middle, hfirst, hsecond⟩ := ih hrest
      exact ⟨middle, .group hinner hfirst, hsecond⟩
  | again hfind hmore ih =>
    rcases List.cons_eq_append_iff.mp heq with ⟨rfl, rfl⟩ | ⟨first, rfl, hrest⟩
    · exact ⟨_, .nil _, .again hfind hmore⟩
    · obtain ⟨middle, hfirst, hsecond⟩ := ih hrest
      exact ⟨middle, .again hfind hfirst, hsecond⟩

theorem unfolds_of_repeated {inner : Regex} {least : Nat} {most : Option Nat} {parts : List Regex}
    (h : Unfolds (.repeated inner (least - 1) (most.map (· - 1))) parts) (hmost : least = 0 → most ≠ some 0) :
    Unfolds (.repeated inner least most) (inner :: parts) := by
  cases h with
  | @repeated _ _ _ times hleast hbound =>
    rw [← List.replicate_succ]
    refine .repeated (by omega) fun n hn => ?_
    have hn' := hbound (n - 1) (Option.mem_map_of_mem _ hn)
    rcases Nat.eq_zero_or_pos least with rfl | hpos
    · have hne : n ≠ 0 := fun hzero => hmost rfl (hzero ▸ hn)
      omega
    · omega

theorem unfolds_nothing (inner : Regex) (most : Option Nat) : Unfolds (.repeated inner 0 most) [] :=
  @Unfolds.repeated inner 0 most 0 (Nat.le_refl 0) fun _ _ => Nat.zero_le _

theorem Takes.repeated {inner : Regex} {least : Nat} {most : Option Nat} {more : List Regex}
    (hinner : Takes ignoreCase [inner] spot middle)
    (h : Takes ignoreCase (.repeated inner (least - 1) (most.map (· - 1)) :: more) middle last)
    (hmost : least = 0 → most ≠ some 0) : Takes ignoreCase (.repeated inner least most :: more) spot last := by
  cases h with
  | letter hletter _ _ => cases hletter
  | edge hedge _ _ => cases hedge
  | unfold hparts hmore => exact .unfold (unfolds_of_repeated hparts hmost) (hinner.append hmore)

end Takes

section Soundness

variable {ignoreCase : Bool}

theorem Spot.place_append (before taken after : Chars) (captures : List Capture) :
    Spot.place ⟨before ++ taken, after, captures⟩ =
      ⟨taken.getLast?.or before.getLast?, after, before.isEmpty && taken.isEmpty⟩ := by
  cases before <;> rw [Spot.place, List.getLast?_append] <;> rfl

theorem takeOne_cons (accepts : Char → Bool) (before : Chars) (c : Char) (after : Chars) (captures : List Capture) :
    takeOne accepts (Spot.place ⟨before, c :: after, captures⟩) =
      if accepts c = true then some (Spot.place ⟨before ++ [c], after, captures⟩) else none := by
  rw [Spot.place_append, List.isEmpty_cons, Bool.and_false]
  rfl

theorem take_front (taken after : Chars) : (taken ++ after).take ((taken ++ after).length - after.length) = taken := by
  rw [List.length_append, Nat.add_sub_cancel, List.take_left]

section Steps

variable {α : Type} {next : Place → List Capture → Option α} {n : Nat} {regex inner : Regex} {more : List Regex}
  {spot : Spot} {found : α}

theorem tryFrom_letter_eq {accepts : Char → Bool} (hletter : letter? ignoreCase regex = some accepts) (place : Place)
    (captures : List Capture) : tryFrom ignoreCase next (n + 1) (regex :: more) place captures =
      (takeOne accepts place).bind fun taken => tryFrom ignoreCase next n more taken captures := by
  cases regex <;> cases hletter <;> simp only [tryFrom, folded] <;> cases takeOne _ place <;> rfl

theorem tryFrom_letter {accepts : Char → Bool} (hletter : letter? ignoreCase regex = some accepts)
    (h : tryFrom ignoreCase next (n + 1) (regex :: more) spot.place spot.captures = some found) :
    ∃ c after, accepts c = true ∧ spot.after = c :: after ∧
      tryFrom ignoreCase next n more (Spot.place ⟨spot.before ++ [c], after, spot.captures⟩) spot.captures =
        some found := by
  rw [tryFrom_letter_eq hletter] at h
  obtain ⟨before, after, captures⟩ := spot
  cases after with
  | nil => cases h
  | cons c after =>
    rw [takeOne_cons] at h
    cases hc : accepts c with
    | false =>
      rw [hc] at h
      cases h
    | true =>
      rw [hc] at h
      exact ⟨c, after, hc, rfl, h⟩

theorem tryFrom_edge {accepts : Place → Bool} (hedge : edge? regex = some accepts)
    (h : tryFrom ignoreCase next (n + 1) (regex :: more) spot.place spot.captures = some found) :
    accepts spot.place = true ∧ tryFrom ignoreCase next n more spot.place spot.captures = some found := by
  have heq : tryFrom ignoreCase next (n + 1) (regex :: more) spot.place spot.captures =
      if accepts spot.place = true then tryFrom ignoreCase next n more spot.place spot.captures else none := by
    cases regex <;> cases hedge <;> rfl
  rw [heq] at h
  exact Option.ite_none_right_eq_some.mp h

theorem tryFrom_either {first second : Regex}
    (h : tryFrom ignoreCase next (n + 1) (.either first second :: more) spot.place spot.captures = some found) :
    ∃ part, Unfolds (.either first second) [part] ∧
      tryFrom ignoreCase next n (part :: more) spot.place spot.captures = some found := by
  rw [tryFrom] at h
  split at h
  · next x hfirst =>
    cases h
    exact ⟨first, .left first second, hfirst⟩
  · exact ⟨second, .right first second, h⟩

theorem tryFrom_repeated {least : Nat} {most : Option Nat}
    (h : tryFrom ignoreCase next (n + 1) (.repeated inner least most :: more) spot.place spot.captures = some found) :
    (0 < least ∧ tryFrom ignoreCase next n (inner :: .repeated inner (least - 1) (most.map (· - 1)) :: more)
      spot.place spot.captures = some found) ∨
    (least = 0 ∧ most ≠ some 0 ∧ ∃ again, tryFrom ignoreCase again n [inner] spot.place spot.captures = some found ∧
      ∀ {place captures}, again place captures = some found →
        tryFrom ignoreCase next n (.repeated inner (0 - 1) (most.map (· - 1)) :: more) place captures = some found) ∨
    (least = 0 ∧ tryFrom ignoreCase next n more spot.place spot.captures = some found) := by
  rw [tryFrom] at h
  rcases Nat.eq_zero_or_pos least with rfl | hleast
  · right
    rw [if_neg (Nat.not_lt_zero 0)] at h
    by_cases hmost : most = some 0
    · rw [if_pos hmost] at h
      exact .inr ⟨rfl, h⟩
    · rw [if_neg hmost] at h
      dsimp only at h
      split at h
      · next x hinner =>
        cases h
        exact .inl ⟨rfl, hmost, _, hinner, fun hagain => (Option.ite_none_right_eq_some.mp hagain).2⟩
      · exact .inr ⟨rfl, h⟩
  · rw [if_pos hleast] at h
    exact .inl ⟨hleast, h⟩

theorem tryFrom_again {number : Nat}
    (h : tryFrom ignoreCase next (n + 1) (.again number :: more) spot.place spot.captures = some found) :
    ∃ capture after, spot.captures.find? (·.number == number) = some capture ∧ spot.after = capture.text ++ after ∧
      tryFrom ignoreCase next n more (Spot.place ⟨spot.before ++ capture.text, after, spot.captures⟩) spot.captures =
        some found := by
  rw [tryFrom] at h
  split at h
  · cases h
  · next capture hfind =>
    obtain ⟨htext, h⟩ := Option.ite_none_right_eq_some.mp h
    obtain ⟨after, hafter⟩ := List.isPrefixOf_iff_prefix.mp htext
    refine ⟨capture, after, hfind, hafter.symm, ?_⟩
    rw [Spot.place_append]
    rw [← hafter, List.drop_left] at h
    exact h

end Steps

theorem tryFrom_sound {α : Type} {next : Place → List Capture → Option α} {n : Nat} {regexes : List Regex}
    {spot : Spot} {found : α} (h : tryFrom ignoreCase next n regexes spot.place spot.captures = some found) :
    ∃ last, Takes ignoreCase regexes spot last ∧ next last.place last.captures = some found := by
  induction n generalizing next regexes spot with
  | zero => cases h
  | succ n ih =>
    cases regexes with
    | nil => exact ⟨spot, .nil spot, h⟩
    | cons regex more =>
      have hletters {accepts : Char → Bool} (hletter : letter? ignoreCase regex = some accepts) :
          ∃ last, Takes ignoreCase (regex :: more) spot last ∧ next last.place last.captures = some found := by
        obtain ⟨c, after, hc, hafter, hmore⟩ := tryFrom_letter hletter h
        obtain ⟨last, htakes, hlast⟩ := ih hmore
        obtain ⟨before, _, captures⟩ := spot
        cases hafter
        exact ⟨last, .letter hletter hc htakes, hlast⟩
      have hedges {accepts : Place → Bool} (hedge : edge? regex = some accepts) :
          ∃ last, Takes ignoreCase (regex :: more) spot last ∧ next last.place last.captures = some found := by
        obtain ⟨hplace, hmore⟩ := tryFrom_edge hedge h
        obtain ⟨last, htakes, hlast⟩ := ih hmore
        exact ⟨last, .edge hedge hplace htakes, hlast⟩
      cases regex with
      | empty => exact hedges rfl
      | char c => exact hletters rfl
      | any => exact hletters rfl
      | oneOf negated items => exact hletters rfl
      | lineStart => exact hedges rfl
      | lineStop => exact hedges rfl
      | wordEdge atStart atStop => exact hedges rfl
      | sequence first second =>
        rw [tryFrom] at h
        obtain ⟨last, htakes, hlast⟩ := ih h
        exact ⟨last, .unfold (.sequence first second) htakes, hlast⟩
      | either first second =>
        obtain ⟨part, hpart, hmore⟩ := tryFrom_either h
        obtain ⟨last, htakes, hlast⟩ := ih hmore
        exact ⟨last, .unfold hpart htakes, hlast⟩
      | repeated inner least most =>
        rcases tryFrom_repeated h with ⟨hleast, hmore⟩ | ⟨rfl, hmost, again, hinner, hagain⟩ | ⟨rfl, hmore⟩
        · obtain ⟨last, htakes, hlast⟩ := ih hmore
          obtain ⟨middle, hinner, hmore⟩ := htakes.exists_of_append (List.singleton_append ..).symm
          exact ⟨last, hinner.repeated hmore fun hzero => absurd hzero (Nat.ne_of_gt hleast), hlast⟩
        · obtain ⟨middle, hinner, hmiddle⟩ := ih hinner
          obtain ⟨last, htakes, hlast⟩ := ih (hagain hmiddle)
          exact ⟨last, hinner.repeated htakes fun _ => hmost, hlast⟩
        · obtain ⟨last, htakes, hlast⟩ := ih hmore
          exact ⟨last, .unfold (unfolds_nothing inner most) htakes, hlast⟩
      | group number inner =>
        rw [tryFrom] at h
        obtain ⟨middle, hinner, hclose⟩ := ih h
        obtain ⟨taken, hbefore, hafter, -⟩ := hinner.exists_taken
        obtain ⟨before, after, captures⟩ := spot
        obtain ⟨before', after', inside⟩ := middle
        obtain rfl : before' = before ++ taken := hbefore
        obtain rfl : after = taken ++ after' := hafter
        dsimp only [Spot.place] at hclose
        rw [take_front] at hclose
        have hmore : tryFrom ignoreCase next n more
            (Spot.place ⟨before ++ taken, after', ⟨number, taken⟩ :: inside.filter (·.number != number)⟩)
            (⟨number, taken⟩ :: inside.filter (·.number != number)) = some found := hclose
        obtain ⟨last, htakes, hlast⟩ := ih hmore
        exact ⟨last, .group hinner htakes, hlast⟩
      | again number =>
        obtain ⟨capture, after, hfind, hafter, hmore⟩ := tryFrom_again h
        obtain ⟨last, htakes, hlast⟩ := ih hmore
        obtain ⟨before, _, captures⟩ := spot
        cases hafter
        obtain rfl : capture.number = number :=
          beq_iff_eq.mp (List.find?_some (p := fun other : Capture => other.number == number) hfind)
        exact ⟨last, .again hfind htakes, hlast⟩

theorem matchAt?_sound {regex : Regex} {start : Nat} {before after : Chars} {found : Match}
    (h : matchAt? ignoreCase regex start (Spot.place ⟨before, after, []⟩) = some found) :
    found.start = start ∧ ∃ rest, after = found.whole ++ rest ∧
      Takes ignoreCase [regex] ⟨before, after, []⟩ ⟨before ++ found.whole, rest, found.captures⟩ := by
  obtain ⟨length, hlength, h⟩ := Option.bind_eq_some_iff.mp h
  obtain ⟨captures, hcaptures, h⟩ := Option.bind_eq_some_iff.mp h
  cases h
  obtain ⟨⟨before', rest, captures'⟩, htakes, haccept⟩ := tryFrom_sound hcaptures
  obtain ⟨taken, hbefore, hafter, -⟩ := htakes.exists_taken
  obtain rfl : before' = before ++ taken := hbefore
  obtain rfl : after = taken ++ rest := hafter
  obtain ⟨hrest, hsame⟩ := Option.ite_none_right_eq_some.mp haccept
  obtain rfl : rest.length = length := hrest
  cases hsame
  have hwhole : (Spot.place ⟨before, taken ++ rest, []⟩).rest.take
      ((Spot.place ⟨before, taken ++ rest, []⟩).rest.length - rest.length) = taken := take_front taken rest
  rw [hwhole]
  exact ⟨rfl, rest, rfl, htakes⟩

def Finds (ignoreCase : Bool) (regex : Regex) (before text : Chars) (start : Nat) (found : Match) : Prop :=
  ∃ front after, text = front ++ (found.whole ++ after) ∧ found.start = start + front.length ∧
    Takes ignoreCase [regex] ⟨before ++ front, found.whole ++ after, []⟩
      ⟨before ++ front ++ found.whole, after, found.captures⟩

theorem finds_of_matchAt? {regex : Regex} {start : Nat} {before text : Chars} {found : Match}
    (hstart : (start == 0) = before.isEmpty)
    (h : matchAt? ignoreCase regex start ⟨before.getLast?, text, start == 0⟩ = some found) :
    Finds ignoreCase regex before text start found := by
  rw [hstart] at h
  obtain ⟨hfound, after, htext, htakes⟩ := matchAt?_sound h
  refine ⟨[], after, htext, hfound, ?_⟩
  rwa [List.append_nil, ← htext]

theorem searchFrom_sound {regex : Regex} {start : Nat} {before text : Chars} {found : Match}
    (hstart : (start == 0) = before.isEmpty)
    (h : searchFrom ignoreCase regex before.getLast? start text = some found) :
    Finds ignoreCase regex before text start found := by
  induction text generalizing before start with
  | nil => exact finds_of_matchAt? hstart h
  | cons c text ih =>
    rw [searchFrom] at h
    split at h
    · next x hmatch =>
      cases h
      exact finds_of_matchAt? hstart hmatch
    · rw [← List.getLast?_concat (l := before)] at h
      have hlater : (start + 1 == 0) = (before ++ [c]).isEmpty := by
        cases before <;> rfl
      obtain ⟨front, after, rfl, hfound, htakes⟩ := ih hlater h
      refine ⟨c :: front, after, rfl, ?_, ?_⟩
      · rw [hfound, List.length_cons, Nat.add_assoc, Nat.add_comm 1]
      · rwa [List.append_assoc before, List.singleton_append] at htakes

theorem search?_sound {regex : Regex} {text : Chars} {found : Match}
    (h : search? ignoreCase regex text = some found) :
    ∃ before after, text = before ++ (found.whole ++ after) ∧ found.start = before.length ∧
      Takes ignoreCase [regex] ⟨before, found.whole ++ after, []⟩
        ⟨before ++ found.whole, after, found.captures⟩ := by
  obtain ⟨before, after, htext, hstart, htakes⟩ := @searchFrom_sound ignoreCase regex 0 [] text found rfl h
  exact ⟨before, after, htext, hstart.trans (Nat.zero_add _), htakes⟩

theorem Takes.captures_within {regexes : List Regex} {before whole after : Chars} {captures : List Capture}
    (h : Takes ignoreCase regexes ⟨before, whole ++ after, []⟩ ⟨before ++ whole, after, captures⟩) :
    ∀ capture ∈ captures, capture.text <:+: whole := by
  intro capture hmem
  obtain ⟨taken, hbefore, -, hcaptures⟩ := h.exists_taken
  rw [List.append_cancel_left hbefore]
  exact (hcaptures capture hmem).resolve_left List.not_mem_nil

theorem capture_within {regex : Regex} {text : Chars} {found : Match}
    (h : search? ignoreCase regex text = some found) (number : Nat) : capture found number <:+: found.whole := by
  obtain ⟨before, after, -, -, htakes⟩ := search?_sound h
  rw [capture]
  split
  · exact List.infix_rfl
  · cases hfind : found.captures.find? (·.number == number) with
    | none => exact List.nil_infix
    | some capture => exact htakes.captures_within capture (List.mem_of_find?_eq_some hfind)

end Soundness

end WorkflowScript.Shell.Regex
