import WorkflowScript.Proofs.Shell.Regex
import WorkflowScript.Shell.Tool.Search

namespace WorkflowScript.Shell.Search

open Regex (Spot Place Capture Match folded tryFrom takeOne shortestRest? matchAt? searchFrom search? reach)

section Plain

variable {ignoreCase : Bool} {text before after : Chars}

def StartsWith (ignoreCase : Bool) (text after : Chars) : Prop :=
  text.map (folded ignoreCase) <+: after.map (folded ignoreCase)

instance (ignoreCase : Bool) (text after : Chars) : Decidable (StartsWith ignoreCase text after) :=
  inferInstanceAs (Decidable (_ <+: _))

theorem startsWith_cons (c d : Char) (text after : Chars) : StartsWith ignoreCase (c :: text) (d :: after) ↔
    folded ignoreCase d = folded ignoreCase c ∧ StartsWith ignoreCase text after := by
  rw [StartsWith, StartsWith, List.map_cons, List.map_cons, List.cons_prefix_cons, eq_comm]

theorem StartsWith.length_le (h : StartsWith ignoreCase text after) : text.length ≤ after.length := by
  have hlength := List.IsPrefix.length_le h
  rwa [List.length_map, List.length_map] at hlength

theorem tryFrom_plain {α : Type} {next : Place → List Capture → Option α} {n : Nat}
    (hn : 2 * text.length + 2 ≤ n) (captures : List Capture) :
    tryFrom ignoreCase next n [plainRegex text] (Spot.place ⟨before, after, captures⟩) captures =
      if StartsWith ignoreCase text after then
        next (Spot.place ⟨before ++ after.take text.length, after.drop text.length, captures⟩) captures
      else none := by
  induction text generalizing before after n with
  | nil =>
    obtain ⟨n, rfl⟩ := Nat.exists_eq_add_of_le' hn
    have hnil : StartsWith ignoreCase [] after := List.nil_prefix
    rw [if_pos hnil, List.length_nil, List.take_zero, List.append_nil]
    rfl
  | cons c text ih =>
    rw [List.length_cons] at hn
    obtain ⟨n, rfl⟩ : ∃ m, n = m + 2 := Nat.exists_eq_add_of_le' (by omega)
    have hsequence (place : Place) : tryFrom ignoreCase next (n + 2) [plainRegex (c :: text)] place captures =
        tryFrom ignoreCase next (n + 1) [.char c, plainRegex text] place captures := rfl
    have hletter : Regex.letter? ignoreCase (.char c) = some fun d => folded ignoreCase d == folded ignoreCase c := rfl
    rw [hsequence, Regex.tryFrom_letter_eq hletter]
    cases after with
    | nil =>
      have hnot : ¬StartsWith ignoreCase (c :: text) [] := fun h => absurd h.length_le (Nat.not_succ_le_zero _)
      rw [if_neg hnot]
      rfl
    | cons d after =>
      rw [Regex.takeOne_cons]
      cases hsame : folded ignoreCase d == folded ignoreCase c with
      | false =>
        have hnot : ¬StartsWith ignoreCase (c :: text) (d :: after) := fun h =>
          absurd ((startsWith_cons c d text after).mp h).1 (beq_eq_false_iff_ne.mp hsame)
        rw [if_neg hnot]
        rfl
      | true =>
        change tryFrom ignoreCase next n [plainRegex text] (Spot.place ⟨before ++ [d], after, captures⟩) captures = _
        rw [ih (by omega), List.append_assoc, List.singleton_append]
        have hiff : StartsWith ignoreCase (c :: text) (d :: after) ↔ StartsWith ignoreCase text after :=
          (startsWith_cons c d text after).trans (and_iff_right (beq_iff_eq.mp hsame))
        exact if_congr hiff.symm rfl rfl

theorem shortestRest?_plain (hreach : 2 * text.length + 2 ≤ reach) (n : Nat) :
    shortestRest? ignoreCase (plainRegex text) (Spot.place ⟨before, after, []⟩) (n + 2) none =
      if StartsWith ignoreCase text after then some (after.drop text.length).length else none := by
  rw [shortestRest?, tryFrom_plain hreach]
  by_cases hstarts : StartsWith ignoreCase text after
  · rw [if_pos hstarts, if_pos hstarts]
    have hagain : shortestRest? ignoreCase (plainRegex text) (Spot.place ⟨before, after, []⟩) (n + 1)
        (some (after.drop text.length).length) = some (after.drop text.length).length := by
      rw [shortestRest?, tryFrom_plain hreach, if_pos hstarts]
      split
      · next haccept =>
        exact absurd (of_decide_eq_true (Option.ite_none_right_eq_some.mp haccept).1) (Nat.lt_irrefl _)
      · rfl
    exact hagain
  · rw [if_neg hstarts, if_neg hstarts]

theorem matchAt?_plain (hreach : 2 * text.length + 2 ≤ reach) (start : Nat) :
    matchAt? ignoreCase (plainRegex text) start (Spot.place ⟨before, after, []⟩) =
      if StartsWith ignoreCase text after then some ⟨start, after.take text.length, []⟩ else none := by
  rw [matchAt?, shortestRest?_plain hreach]
  by_cases hstarts : StartsWith ignoreCase text after
  · have hcaptures : tryFrom ignoreCase (fun place captures =>
        if place.rest.length = (after.drop text.length).length then some captures else none) reach [plainRegex text]
          (Spot.place ⟨before, after, []⟩) [] = some [] := by
      rw [tryFrom_plain hreach, if_pos hstarts]
      exact if_pos rfl
    have hwhole : after.take (after.length - (after.drop text.length).length) = after.take text.length := by
      rw [List.length_drop, Nat.sub_sub_self hstarts.length_le]
    rw [if_pos hstarts, if_pos hstarts, Option.bind_eq_bind, Option.bind_some]
    dsimp only
    rw [hcaptures]
    exact congrArg (fun whole => some (Match.mk start whole [])) hwhole
  · rw [if_neg hstarts, if_neg hstarts]
    rfl

theorem searchFrom_plain (hreach : 2 * text.length + 2 ≤ reach) {start : Nat}
    (hstart : (start == 0) = before.isEmpty) :
    (searchFrom ignoreCase (plainRegex text) before.getLast? start after).isSome = true ↔
      text.map (folded ignoreCase) <:+: after.map (folded ignoreCase) := by
  induction after generalizing before start with
  | nil =>
    rw [searchFrom, hstart]
    change (matchAt? ignoreCase (plainRegex text) start (Spot.place ⟨before, [], []⟩)).isSome = true ↔ _
    rw [matchAt?_plain hreach, Option.isSome_ite, StartsWith, List.map_nil, List.prefix_nil, List.infix_nil]
  | cons c after ih =>
    have hlater : (start + 1 == 0) = (before ++ [c]).isEmpty := by
      cases before <;> rfl
    have hhere : matchAt? ignoreCase (plainRegex text) start ⟨before.getLast?, c :: after, start == 0⟩ =
        if StartsWith ignoreCase text (c :: after) then some ⟨start, (c :: after).take text.length, []⟩ else none := by
      rw [hstart]
      exact matchAt?_plain hreach start
    rw [List.map_cons, List.infix_cons_iff, ← List.map_cons, ← ih hlater, List.getLast?_concat, searchFrom, hhere]
    by_cases hstarts : StartsWith ignoreCase text (c :: after)
    · rw [if_pos hstarts]
      exact iff_of_true rfl (.inl hstarts)
    · rw [if_neg hstarts]
      exact (or_iff_right hstarts).symm

theorem search?_plain (hreach : 2 * text.length + 2 ≤ reach) (line : Chars) :
    (search? ignoreCase (plainRegex text) line).isSome = true ↔
      text.map (folded ignoreCase) <:+: line.map (folded ignoreCase) :=
  @searchFrom_plain ignoreCase text [] line hreach 0 rfl

end Plain

section Selected

variable {settings : Settings} {texts : List Chars}

theorem regex?_plain (hspelling : settings.spelling = .plain) (hword : settings.wholeWord = false)
    (hline : settings.wholeLine = false) (text : Chars) : regex? settings text = some (plainRegex text) := by
  rw [regex?, hspelling, hword, hline]
  rfl

theorem selects_plain {regexes : List Regex} (hspelling : settings.spelling = .plain)
    (hword : settings.wholeWord = false) (hline : settings.wholeLine = false)
    (hregexes : texts.mapM (regex? settings) = some regexes) (hreach : ∀ text ∈ texts, 2 * text.length + 2 ≤ reach)
    (line : Chars) : selects settings regexes line = true ↔
      ((∃ text ∈ texts, text.map (folded settings.ignoreCase) <:+: line.map (folded settings.ignoreCase)) ↔
        settings.inverted = false) := by
  have hplain : regexes = texts.map plainRegex := by
    rw [funext (regex?_plain hspelling hword hline)] at hregexes
    exact (Option.some_inj.mp ((List.mapM_pure ..).symm.trans hregexes)).symm
  have hany : (regexes.any fun regex => (search? settings.ignoreCase regex line).isSome) = true ↔
      ∃ text ∈ texts, text.map (folded settings.ignoreCase) <:+: line.map (folded settings.ignoreCase) := by
    rw [hplain, List.any_map, List.any_eq_true]
    exact exists_congr fun text => and_congr_right fun hmem => search?_plain (hreach text hmem) line
  rw [← hany, selects]
  cases settings.inverted with
  | false => rw [Bool.bne_false, iff_true_right rfl]
  | true => simp only [Bool.bne_true, Bool.not_eq_true', Bool.not_eq_true, reduceCtorEq, iff_false]

end Selected

end WorkflowScript.Shell.Search
