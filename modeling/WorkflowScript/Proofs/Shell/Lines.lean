import Mathlib.Data.List.SplitBy
import WorkflowScript.Proofs.Text.Cut
import WorkflowScript.Shell.Tool.Lines

namespace WorkflowScript.Shell.Lines

section Texts

variable {text last : Chars} {lines : List Chars}

theorem toText_cons (line : Chars) (lines : List Chars) : toText (line :: lines) = line ++ ['\n'] ++ toText lines :=
  List.flatMap_cons

theorem intercalate_concat (lines : List Chars) (last : Chars) :
    ['\n'].intercalate (lines ++ [last]) = toText lines ++ last := by
  induction lines with
  | nil => exact List.intercalate_singleton
  | cons line lines ih =>
    have hne : lines ++ [last] ≠ [] := List.append_ne_nil_of_right_ne_nil _ (List.cons_ne_nil _ _)
    obtain ⟨next, more, heq⟩ := List.exists_cons_of_ne_nil hne
    rw [heq] at ih
    rw [List.cons_append, heq, List.intercalate_cons_cons, ih, ← List.append_assoc, toText_cons]

theorem splitOn_toText (h : ∀ line ∈ lines, '\n' ∉ line) (hlast : '\n' ∉ last) :
    (toText lines ++ last).splitOn '\n' = lines ++ [last] := by
  rw [← intercalate_concat]
  refine List.splitOn_intercalate '\n' (fun line hline => ?_)
    (List.append_ne_nil_of_right_ne_nil _ (List.cons_ne_nil _ _))
  rcases List.mem_append.mp hline with hline | hline
  · exact h line hline
  · exact List.mem_singleton.mp hline ▸ hlast

theorem ofText_toText (h : ∀ line ∈ lines, '\n' ∉ line) : ofText (toText lines) = lines := by
  have hsplit := splitOn_toText h List.not_mem_nil
  rw [List.append_nil] at hsplit
  rw [ofText, hsplit, List.getLast?_concat, if_pos rfl, List.dropLast_concat]

theorem toText_splitOn (text : Chars) : toText (text.splitOn '\n') = text ++ ['\n'] := by
  have hjoin : ['\n'].intercalate ((text ++ ['\n']).splitOn '\n') = text ++ ['\n'] := List.intercalate_splitOn '\n'
  rwa [List.splitOn_append_cons_self, List.splitOn_nil, intercalate_concat, List.append_nil] at hjoin

theorem toText_ofText_ended (text : Chars) : toText (ofText (text ++ ['\n'])) = text ++ ['\n'] := by
  rw [ofText, List.splitOn_append_cons_self, List.splitOn_nil, List.getLast?_concat, if_pos rfl, List.dropLast_concat,
    toText_splitOn]

theorem toText_ofText_open {c : Char} (h : text.getLast? = some c) (hc : c ≠ '\n') :
    toText (ofText text) = text ++ ['\n'] := by
  rw [ofText, if_neg (Text.getLast?_splitOn_ne h hc), toText_splitOn]

theorem whole_toText (h : ∀ line ∈ lines, '\n' ∉ line) (hlast : '\n' ∉ last) :
    whole (toText lines ++ last) = lines.map (· ++ ['\n']) ++ if last.isEmpty then [] else [last] := by
  rw [whole, splitOn_toText h hlast, List.reverse_append, List.reverse_singleton, List.singleton_append]
  dsimp only
  rw [List.reverse_reverse]
  cases last.isEmpty with
  | true => exact (List.append_nil _).symm
  | false => rfl

theorem exists_toText_append (text : Chars) :
    ∃ lines last, text = toText lines ++ last ∧ (∀ line ∈ lines, '\n' ∉ line) ∧ '\n' ∉ last := by
  induction text with
  | nil => exact ⟨[], [], rfl, nofun, List.not_mem_nil⟩
  | cons c text ih =>
    obtain ⟨lines, last, rfl, hlines, hlast⟩ := ih
    by_cases hc : c = '\n'
    · refine ⟨[] :: lines, last, by rw [hc, toText_cons]; rfl, ?_, hlast⟩
      exact List.forall_mem_cons.mpr ⟨List.not_mem_nil, hlines⟩
    · cases lines with
      | nil => exact ⟨[], c :: last, rfl, nofun, List.not_mem_cons_of_ne_of_not_mem (Ne.symm hc) hlast⟩
      | cons line lines =>
        obtain ⟨hline, hlines⟩ := List.forall_mem_cons.mp hlines
        refine ⟨(c :: line) :: lines, last, by rw [toText_cons, toText_cons]; rfl, ?_, hlast⟩
        exact List.forall_mem_cons.mpr ⟨List.not_mem_cons_of_ne_of_not_mem (Ne.symm hc) hline, hlines⟩

theorem flatten_whole (text : Chars) : (whole text).flatten = text := by
  obtain ⟨lines, last, rfl, hlines, hlast⟩ := exists_toText_append text
  rw [whole_toText hlines hlast, List.flatten_append, toText, List.flatMap_def]
  cases last with
  | nil => rfl
  | cons c last => exact congrArg (_ ++ ·) List.flatten_singleton

end Texts

section Parts

variable {α : Type}

def Amount.rest : Amount → Amount
  | .upTo n => .allBut n
  | .allBut n => .upTo n

theorem Amount.head_append_tail (amount : Amount) (items : List α) :
    amount.head items ++ amount.rest.tail items = items := by
  cases amount with
  | upTo n => exact List.take_append_drop n items
  | allBut n => exact List.take_append_drop (items.length - n) items

end Parts

section Words

theorem countWords_eq (text : Chars) :
    countWords false text = ((text.splitOnP isSpace).filter fun word => !word.isEmpty).length ∧
      countWords true text = ((text.splitOnP isSpace).tail.filter fun word => !word.isEmpty).length := by
  induction text with
  | nil => exact ⟨rfl, rfl⟩
  | cons c text ih =>
    obtain ⟨hout, hin⟩ := ih
    obtain ⟨word, words, hwords⟩ := List.exists_cons_of_ne_nil (List.splitOnP_ne_nil isSpace text)
    rw [hwords] at hout hin
    rw [countWords, countWords, List.splitOnP_cons_eq_if_modifyHead, hwords, hout, hin]
    cases isSpace c with
    | true => exact ⟨rfl, rfl⟩
    | false => exact ⟨rfl, rfl⟩

end Words

section Runs

variable {same : Chars → Chars → Bool}

theorem exists_splitBy_cons (same : Chars → Chars → Bool) (line : Chars) (lines : List Chars) :
    ∃ run runs, (line :: lines).splitBy same = (line :: run) :: runs := by
  obtain ⟨run, runs, hruns⟩ := List.exists_cons_of_ne_nil
    ((List.splitBy_ne_nil (r := same)).mpr (List.cons_ne_nil line lines))
  have hflatten := List.flatten_splitBy same (line :: lines)
  have hrun : run ≠ [] := List.ne_nil_of_mem_splitBy (hruns ▸ List.mem_cons_self)
  obtain ⟨first, rest, rfl⟩ := List.exists_cons_of_ne_nil hrun
  rw [hruns] at hflatten
  exact ⟨rest, runs, hruns.trans (by rw [(List.cons.inj hflatten).1])⟩

theorem splitBy_cons_of_same {a b : Chars} {lines run : List Chars} {runs : List (List Chars)}
    (h : same a b = true) (hruns : (b :: lines).splitBy same = (b :: run) :: runs) :
    (a :: b :: lines).splitBy same = (a :: b :: run) :: runs := by
  obtain ⟨hflatten, hnil, hchains, hbreaks⟩ := List.splitBy_eq_iff.mp hruns
  obtain ⟨hchain, hchains⟩ := List.forall_mem_cons.mp hchains
  refine List.splitBy_eq_iff.mpr ⟨?_, ?_, ?_, ?_⟩
  · rw [hflatten]
    rfl
  · exact List.not_mem_cons_of_ne_of_not_mem nofun (List.not_mem_of_not_mem_cons hnil)
  · exact List.forall_mem_cons.mpr ⟨List.isChain_cons_cons.mpr ⟨h, hchain⟩, hchains⟩
  · cases runs with
    | nil => exact .singleton _
    | cons next runs =>
      obtain ⟨⟨hne, hnext, hbreak⟩, hbreaks⟩ := List.isChain_cons_cons.mp hbreaks
      refine List.isChain_cons_cons.mpr ⟨⟨List.cons_ne_nil _ _, hnext, ?_⟩, hbreaks⟩
      rwa [List.getLast_cons hne]

theorem countRuns_eq (same : Chars → Chars → Bool) (lines : List Chars) :
    countRuns same lines = (lines.splitBy same).map fun run => (run.length, run.headD []) := by
  induction lines with
  | nil => rfl
  | cons a lines ih =>
    rw [countRuns, ih]
    cases lines with
    | nil => rfl
    | cons b lines =>
      obtain ⟨run, runs, hruns⟩ := exists_splitBy_cons same b lines
      rw [hruns]
      cases hsame : same a b with
      | true =>
        rw [splitBy_cons_of_same hsame hruns]
        exact if_pos hsame
      | false =>
        have hsplit := List.splitBy_append_cons (r := same) (l := [a]) (a := b) lines fun x hx => by
          cases hx
          exact hsame
        rw [List.singleton_append] at hsplit
        rw [hsplit, hruns]
        exact if_neg (Bool.eq_false_iff.mp hsame)

theorem replicate_of_mem_splitBy {lines run : List Chars} (h : run ∈ lines.splitBy (· == ·)) :
    List.replicate run.length (run.headD []) = run := by
  have hpairwise := (List.isChain_of_mem_splitBy h).imp fun _ _ => beq_iff_eq.mp
  rw [List.isChain_iff_pairwise] at hpairwise
  cases run with
  | nil => rfl
  | cons line run =>
    refine (List.eq_replicate_iff.mpr ⟨rfl, fun other hother => ?_⟩).symm
    rcases List.mem_cons.mp hother with rfl | hother
    · rfl
    · exact ((List.pairwise_cons.mp hpairwise).1 other hother).symm

theorem flatMap_countRuns (lines : List Chars) :
    (countRuns (· == ·) lines).flatMap (fun run => List.replicate run.1 run.2) = lines := by
  rw [countRuns_eq, List.flatMap_map, List.flatMap_def, List.map_congr_left fun _ => replicate_of_mem_splitBy,
    List.map_id', List.flatten_splitBy]

end Runs

section Squeezed

variable {accepts : Char → Bool} {before : Option Char} {text : Chars}

def Squeezed (accepts : Char → Bool) (before : Option Char) (text : Chars) : Prop :=
  (before.toList ++ text).IsChain fun a b => accepts b = true → a ≠ b

theorem squeeze_sublist (accepts : Char → Bool) (before : Option Char) (text : Chars) :
    (squeeze accepts before text).Sublist text := by
  fun_induction squeeze accepts before text with
  | case1 => exact List.Sublist.refl _
  | case2 before c text hdrop ih => exact ih.trans (List.sublist_cons_self c text)
  | case3 before c text hkeep ih => exact ih.cons_cons c

theorem squeezed_cons {c : Char} : Squeezed accepts before (c :: text) ↔
    ¬(accepts c && before == some c) = true ∧ Squeezed accepts (some c) text := by
  rw [Bool.and_eq_true, not_and, beq_iff_eq]
  cases before with
  | none =>
    have hopen : accepts c = true → ¬none = some c := fun _ => nofun
    exact (and_iff_right hopen).symm
  | some d =>
    change List.IsChain _ (d :: c :: text) ↔ _
    rw [List.isChain_cons_cons]
    exact and_congr_left fun _ => imp_congr_right fun _ => not_congr Option.some_inj.symm

theorem squeezed_squeeze (accepts : Char → Bool) (before : Option Char) (text : Chars) :
    Squeezed accepts before (squeeze accepts before text) := by
  fun_induction squeeze accepts before text with
  | case1 before => cases before <;> constructor
  | case2 before c text hdrop ih => exact ih
  | case3 before c text hkeep ih => exact squeezed_cons.mpr ⟨hkeep, ih⟩

theorem squeeze_eq_self_iff : squeeze accepts before text = text ↔ Squeezed accepts before text := by
  constructor
  · intro h
    rw [← h]
    exact squeezed_squeeze accepts before text
  · intro h
    fun_induction squeeze accepts before text with
    | case1 => rfl
    | case2 before c text hdrop ih => exact absurd hdrop (squeezed_cons.mp h).1
    | case3 before c text hkeep ih => rw [ih (squeezed_cons.mp h).2]

end Squeezed

section Translated

variable {source target : Chars}

theorem mem_translate_of_deletes (source target : Chars) (complement : Bool) (text : Chars) (c : Char) :
    c ∈ translate ⟨source, target, complement, true, false⟩ text ↔ c ∈ text ∧ (c ∈ source ↔ complement = true) := by
  change c ∈ text.filter (fun c => !(source.contains c != complement)) ↔ _
  rw [List.mem_filter, Bool.not_eq_true', bne_eq_false_iff_eq, Bool.eq_iff_iff, List.contains_iff_mem]

def changed (source target : Chars) (c : Char) : Char :=
  match source.reverse.findIdx? (· == c) with
  | some i => (target[source.length - 1 - i]?).getD (target.getLast?.getD c)
  | none => c

theorem changed_of_notMem {c : Char} (h : c ∉ source) : changed source target c = c := by
  have hnone : source.reverse.findIdx? (· == c) = none :=
    List.findIdx?_eq_none_iff.mpr fun d hd => beq_eq_false_iff_ne.mpr fun heq => h (heq ▸ List.mem_reverse.mp hd)
  rw [changed, hnone]

theorem changed_mem {c : Char} (h : c ∈ source) (htarget : target ≠ []) : changed source target c ∈ target := by
  have hplace : (source.reverse.findIdx? (· == c)).isSome = true := by
    rw [List.findIdx?_isSome, List.any_eq_true]
    exact ⟨c, List.mem_reverse.mpr h, beq_self_eq_true c⟩
  obtain ⟨i, hi⟩ := Option.isSome_iff_exists.mp hplace
  rw [changed, hi]
  dsimp only
  cases hget : target[source.length - 1 - i]? with
  | some d => exact List.mem_of_getElem? hget
  | none =>
    rw [Option.getD_none, List.getLast?_eq_some_getLast htarget]
    exact List.getLast_mem htarget

theorem translate_eq_map (htarget : target ≠ []) (text : Chars) :
    translate ⟨source, target, false, false, false⟩ text = text.map (changed source target) := by
  obtain ⟨d, target, rfl⟩ := List.exists_cons_of_ne_nil htarget
  refine List.map_congr_left fun c _ => ?_
  change (if (source.contains c != false) = true then changed source (d :: target) c else c) = _
  rw [Bool.bne_false]
  split
  · rfl
  · next hc => rw [changed_of_notMem fun hmem => hc (List.contains_iff_mem.mpr hmem)]

end Translated

end WorkflowScript.Shell.Lines
