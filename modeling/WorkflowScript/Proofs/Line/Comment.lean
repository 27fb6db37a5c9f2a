import WorkflowScript.Proofs.Line.Source

namespace WorkflowScript.Line

open Text

structure BareHash (line before rest : List Char) : Prop where
  split : line = before ++ '#' :: rest
  free : before.getLast? ≠ some '\\'

structure CommentMark (line before rest : List Char) : Prop extends BareHash line before rest where
  to_end : '\n' ∉ rest

structure Leftmost (Place : List Char → List Char → Prop) (before rest : List Char) : Prop where
  place : Place before rest
  first : ∀ before' rest', Place before' rest' → before.length ≤ before'.length

structure CommentMatch (line before group rest : List Char) : Prop where
  split : line = before ++ (group ++ '#' :: rest)
  captured : (group = [] ∧ before = []) ∨ ∃ c, group = [c] ∧ c ≠ '\\'
  to_end : '\n' ∉ rest

structure FoundMatch (line before group rest : List Char) : Prop extends
    CommentMatch line before group rest where
  leftmost : ∀ before' group' rest', CommentMatch line before' group' rest' → before.length ≤ before'.length
  preferred : ∀ rest', CommentMatch line before [] rest' → group = []

section Scan

variable {line before rest : List Char}

theorem BareHash.commentMark (h : BareHash line before rest) (hline : '\n' ∉ line) :
    CommentMark line before rest where
  toBareHash := h
  to_end hmem := hline (h.split ▸ List.mem_append_right _ (List.mem_cons_of_mem _ hmem))

theorem BareHash.of_prefix {kept : List Char} (h : BareHash kept before rest) (hkept : kept <+: line) :
    ∃ rest', BareHash line before rest' := by
  obtain ⟨back, rfl⟩ := hkept
  exact ⟨rest ++ back, by rw [h.split]; simp, h.free⟩

theorem Leftmost.eq {Place : List Char → List Char → Prop} {before' rest' : List Char}
    (hsplit : ∀ b r, Place b r → line = b ++ '#' :: r) (h : Leftmost Place before rest)
    (h' : Leftmost Place before' rest') : before = before' ∧ rest = rest' := by
  have hlength : before.length = before'.length := Nat.le_antisymm (h.first _ _ h'.place) (h'.first _ _ h.place)
  have hlines := (hsplit _ _ h.place).symm.trans (hsplit _ _ h'.place)
  obtain ⟨hbefore, hrest⟩ := List.append_inj hlines hlength
  exact ⟨hbefore, (List.cons.inj hrest).2⟩

theorem Leftmost.imp {P Q : List Char → List Char → Prop} (h : Leftmost P before rest)
    (hP : P before rest → Q before rest) (hQ : ∀ b r, Q b r → P b r) : Leftmost Q before rest :=
  ⟨hP h.place, fun b r hplace => h.first b r (hQ b r hplace)⟩

theorem beforeComment_behind (lead text : List Char) :
    (∃ rest, CommentMark (lead ++ text) (lead ++ beforeComment (lead.getLast? == some '\\') text) rest ∧
      ∀ before' rest', CommentMark (lead ++ text) before' rest' → lead.length ≤ before'.length →
        (lead ++ beforeComment (lead.getLast? == some '\\') text).length ≤ before'.length) ∨
    (beforeComment (lead.getLast? == some '\\') text = text ∧
      ∀ before' rest', CommentMark (lead ++ text) before' rest' → before'.length < lead.length) := by
  induction text generalizing lead with
  | nil =>
    refine .inr ⟨rfl, fun before' rest' hmark => ?_⟩
    rw [← List.append_nil lead, hmark.split, List.length_append, List.length_cons]
    omega
  | cons c text ih =>
    by_cases hc : c = '#' ∧ (lead.getLast? == some '\\') = false ∧ '\n' ∉ text
    · obtain ⟨rfl, hfree, hend⟩ := hc
      have hkept : beforeComment (lead.getLast? == some '\\') ('#' :: text) = [] :=
        if_pos ⟨rfl, hfree, hend⟩
      rw [hkept, List.append_nil]
      exact .inl ⟨text, ⟨⟨rfl, beq_eq_false_iff_ne.mp hfree⟩, hend⟩, fun _ _ _ hlength => hlength⟩
    · have hkept : beforeComment (lead.getLast? == some '\\') (c :: text) =
          c :: beforeComment ((lead ++ [c]).getLast? == some '\\') text := by
        rw [beforeComment, if_neg hc, List.getLast?_concat]
        rfl
      have hnext := ih (lead ++ [c])
      rw [List.append_assoc, List.append_assoc, List.singleton_append, List.singleton_append, ← hkept,
        List.length_append, List.length_singleton] at hnext
      -- a mark right behind `lead` would be this character
      have hbehind : ∀ before' rest', CommentMark (lead ++ c :: text) before' rest' →
          lead.length ≤ before'.length → lead.length + 1 ≤ before'.length := by
        intro before' rest' hmark hlength
        refine Nat.lt_of_le_of_ne hlength fun hsame => hc ?_
        obtain ⟨rfl, htail⟩ := List.append_inj hmark.split hsame
        obtain ⟨rfl, rfl⟩ := List.cons.inj htail
        exact ⟨rfl, beq_eq_false_iff_ne.mpr hmark.free, hmark.to_end⟩
      rcases hnext with ⟨rest', hmark, hfirst⟩ | ⟨hall, hnone⟩
      · exact .inl ⟨rest', hmark, fun b r h hlength => hfirst b r h (hbehind b r h hlength)⟩
      · refine .inr ⟨by rw [hkept, hall], fun b r h => ?_⟩
        by_contra hlength
        have hless := hnone b r h
        have hmore := hbehind b r h (Nat.le_of_not_lt hlength)
        omega

theorem beforeComment_spec (line : List Char) :
    (∃ rest, Leftmost (CommentMark line) (beforeComment false line) rest) ∨
      (beforeComment false line = line ∧ ∀ before rest, ¬ CommentMark line before rest) := by
  rcases beforeComment_behind [] line with ⟨rest, hmark, hfirst⟩ | ⟨hall, hnone⟩
  · exact .inl ⟨rest, hmark, fun b r h => hfirst b r h (Nat.zero_le _)⟩
  · exact .inr ⟨hall, fun b r h => absurd (hnone b r h) (Nat.not_lt_zero _)⟩

theorem beforeComment_of_leftmost (h : Leftmost (CommentMark line) before rest) :
    beforeComment false line = before := by
  rcases beforeComment_spec line with ⟨rest', h'⟩ | ⟨-, hnone⟩
  · exact (Leftmost.eq (fun _ _ hmark => hmark.split) h' h).1
  · exact absurd h.place (hnone _ _)

theorem beforeComment_of_none (h : ∀ before rest, ¬ CommentMark line before rest) :
    beforeComment false line = line := by
  rcases beforeComment_spec line with ⟨rest, hfirst⟩ | ⟨hall, -⟩
  · exact absurd hfirst.place (h _ _)
  · exact hall

theorem prefix_beforeComment (line : List Char) : beforeComment false line <+: line := by
  rcases beforeComment_spec line with ⟨rest, hfirst⟩ | ⟨hall, -⟩
  · exact ⟨'#' :: rest, hfirst.place.split.symm⟩
  · exact ⟨[], by rw [hall, List.append_nil]⟩

theorem not_bareHash_of_prefix {kept : List Char} (hline : '\n' ∉ line)
    (hkept : kept <+: beforeComment false line) : ¬ BareHash kept before rest := by
  intro h
  obtain ⟨rest', hbare⟩ := h.of_prefix (hkept.trans (prefix_beforeComment line))
  rcases beforeComment_spec line with ⟨behind, hfirst⟩ | ⟨-, hnone⟩
  · have hshort := hfirst.first _ _ (hbare.commentMark hline)
    have hlength := hkept.length_le
    rw [h.split, List.length_append, List.length_cons] at hlength
    omega
  · exact hnone _ _ (hbare.commentMark hline)

end Scan

section Pattern

variable {line before group rest : List Char}

theorem commentMatch_iff : CommentMatch line before group rest ↔
    CommentMark line (before ++ group) rest ∧ group = (before ++ group).getLast?.toList := by
  constructor
  · intro h
    rcases h.captured with ⟨rfl, rfl⟩ | ⟨c, rfl, hc⟩
    · exact ⟨⟨⟨h.split, nofun⟩, h.to_end⟩, rfl⟩
    · have hlast : (before ++ [c]).getLast? = some c := List.getLast?_concat
      refine ⟨⟨⟨by rw [h.split, List.append_assoc], ?_⟩, h.to_end⟩, by rw [hlast]; rfl⟩
      rw [hlast]
      exact fun heq => hc (Option.some.inj heq)
  · rintro ⟨hmark, hgroup⟩
    refine ⟨by rw [hmark.split, List.append_assoc], ?_, hmark.to_end⟩
    cases hlast : (before ++ group).getLast? with
    | none =>
      obtain ⟨rfl, rfl⟩ := List.append_eq_nil_iff.mp (List.getLast?_eq_none_iff.mp hlast)
      exact .inl ⟨rfl, rfl⟩
    | some c =>
      rw [hlast] at hgroup
      exact .inr ⟨c, hgroup, fun hc => hmark.free (hc ▸ hlast)⟩

theorem CommentMatch.length_group_le (h : CommentMatch line before group rest) : group.length ≤ 1 := by
  rcases h.captured with ⟨rfl, -⟩ | ⟨c, rfl, -⟩
  · exact Nat.zero_le 1
  · exact Nat.le_refl 1

theorem foundMatch_iff : FoundMatch line before group rest ↔
    Leftmost (CommentMark line) (before ++ group) rest ∧ group = (before ++ group).getLast?.toList := by
  constructor
  · intro h
    obtain ⟨hmark, hgroup⟩ := commentMatch_iff.mp h.toCommentMatch
    refine ⟨⟨hmark, fun kept rest' hkept => ?_⟩, hgroup⟩
    rw [List.length_append]
    rcases List.eq_nil_or_concat' kept with rfl | ⟨front, c, rfl⟩
    · have hmatch : CommentMatch line [] [] rest' := commentMatch_iff.mpr ⟨hkept, rfl⟩
      have hbefore : before = [] := List.eq_nil_of_length_eq_zero (Nat.le_zero.mp (h.leftmost _ _ _ hmatch))
      have hempty : group = [] := h.preferred rest' (hbefore ▸ hmatch)
      simp [hbefore, hempty]
    · have hmatch : CommentMatch line front [c] rest' :=
        commentMatch_iff.mpr ⟨hkept, by rw [List.getLast?_concat]; rfl⟩
      have hleft := h.leftmost _ _ _ hmatch
      have hshort := h.length_group_le
      simp only [List.length_append, List.length_singleton]
      omega
  · rintro ⟨hfirst, hgroup⟩
    have hmatch : CommentMatch line before group rest := commentMatch_iff.mpr ⟨hfirst.place, hgroup⟩
    refine ⟨hmatch, fun before' group' rest' h => ?_, fun rest' h => ?_⟩
    · have hless := hfirst.first _ _ (commentMatch_iff.mp h).1
      rw [List.length_append, List.length_append] at hless
      have hshort := h.length_group_le
      rcases hmatch.captured with ⟨-, rfl⟩ | ⟨c, rfl, -⟩
      · exact Nat.zero_le _
      · rw [List.length_singleton] at hless
        omega
    · have hless := hfirst.first _ _ (commentMatch_iff.mp h).1
      rw [List.append_nil, List.length_append] at hless
      exact List.eq_nil_of_length_eq_zero (by omega)

theorem dropLast_append_last (kept : List Char) : kept.dropLast ++ kept.getLast?.toList = kept := by
  rcases List.eq_nil_or_concat' kept with rfl | ⟨front, c, rfl⟩
  · rfl
  · rw [List.dropLast_concat, List.getLast?_concat]
    rfl

theorem comment?_eq_some_iff {o : Occurrence} : comment? line = some o ↔
    ∃ before group rest, FoundMatch line before group rest ∧ o = ⟨group ++ '#' :: rest, [group]⟩ := by
  rcases beforeComment_spec line with ⟨rest, hfirst⟩ | ⟨hall, hnone⟩
  · generalize hkept : beforeComment false line = kept at hfirst
    have hcomment : comment? line = some ⟨kept.getLast?.toList ++ '#' :: rest, [kept.getLast?.toList]⟩ := by
      have hlength : ¬ kept.length = line.length := by
        rw [hfirst.place.split, List.length_append, List.length_cons]
        omega
      have hdrop : line.drop kept.length = '#' :: rest := by rw [hfirst.place.split, List.drop_left]
      rw [comment?]
      simp only [hkept, if_neg hlength, hdrop]
    rw [hcomment, Option.some.injEq]
    constructor
    · rintro rfl
      refine ⟨kept.dropLast, kept.getLast?.toList, rest, foundMatch_iff.mpr ?_, rfl⟩
      rw [dropLast_append_last]
      exact ⟨hfirst, rfl⟩
    · rintro ⟨before, group, rest', hfound, rfl⟩
      obtain ⟨hfirst', hgroup⟩ := foundMatch_iff.mp hfound
      obtain ⟨hsame, rfl⟩ := Leftmost.eq (fun _ _ hmark => hmark.split) hfirst hfirst'
      rw [hgroup, ← hsame]
  · have hcomment : comment? line = none := by
      rw [comment?]
      simp only [hall, if_true]
    rw [hcomment]
    refine iff_of_false nofun ?_
    rintro ⟨before, group, rest, hfound, -⟩
    exact hnone _ _ (foundMatch_iff.mp hfound).1.place

end Pattern

section Result

variable {line : List Char}

theorem stripComment_prefix (line : List Char) : stripComment line <+: line :=
  (prefix_trimEnd _).trans (prefix_beforeComment line)

theorem not_bareHash_stripComment (h : '\n' ∉ line) (before rest : List Char) :
    ¬ BareHash (stripComment line) before rest := not_bareHash_of_prefix h (prefix_trimEnd _)

theorem stripComment_stripComment (h : '\n' ∉ line) : stripComment (stripComment line) = stripComment line := by
  have hnone : ∀ before rest, ¬ CommentMark (stripComment line) before rest :=
    fun before rest hmark => not_bareHash_stripComment h before rest hmark.toBareHash
  rw [stripComment, beforeComment_of_none hnone, stripComment, trimEnd_trimEnd]

theorem bareHash_of_blank {gap : List Char} (hgap : allBlank gap = true) (rest : List Char) :
    BareHash (gap ++ '#' :: rest) gap rest := by
  refine ⟨rfl, fun hlast => ?_⟩
  have hblank := List.all_eq_true.mp hgap _ (List.mem_of_getLast? hlast)
  exact absurd hblank (by decide)

theorem isElided_stripComment_iff (h : '\n' ∉ line) : isElided (stripComment line) = true ↔
    allBlank line = true ∨ ∃ gap rest, allBlank gap = true ∧ line = gap ++ '#' :: rest := by
  rw [← isElided_iff]
  constructor
  · intro helided
    rcases isElided_iff.mp helided with hblank | ⟨gap, rest, hgap, hline⟩
    · rw [stripComment, allBlank_trimEnd] at hblank
      refine isElided_iff.mpr ?_
      rcases beforeComment_spec line with ⟨rest, hfirst⟩ | ⟨hall, -⟩
      · exact .inr ⟨_, rest, hblank, hfirst.place.split⟩
      · exact .inl (hall ▸ hblank)
    · exact absurd (hline ▸ bareHash_of_blank hgap rest) (not_bareHash_stripComment h gap rest)
  · intro helided
    rw [stripComment_of_isElided helided h]
    rfl

theorem comment_scanned (h : '\n' ∉ line) :
    (∀ before group rest, FoundMatch line before group rest ↔
      Leftmost (BareHash line) (before ++ group) rest ∧ group = (before ++ group).getLast?.toList) ∧
    (∀ o, comment? line = some o ↔
      ∃ before group rest, FoundMatch line before group rest ∧ o = ⟨group ++ '#' :: rest, [group]⟩) ∧
    (∀ before rest, Leftmost (BareHash line) before rest → stripComment line = trimEnd before) ∧
    ((∀ before rest, ¬ BareHash line before rest) → stripComment line = trimEnd line) ∧
    stripComment line <+: line ∧
    (∀ before rest, ¬ BareHash (stripComment line) before rest) ∧
    stripComment (stripComment line) = stripComment line ∧
    (isElided (stripComment line) = true ↔
      allBlank line = true ∨ ∃ gap rest, allBlank gap = true ∧ line = gap ++ '#' :: rest) := by
  have hmark : ∀ before rest, CommentMark line before rest ↔ BareHash line before rest :=
    fun before rest => ⟨fun hmark => hmark.toBareHash, fun hbare => hbare.commentMark h⟩
  have hplaces : CommentMark line = BareHash line :=
    funext fun before => funext fun rest => propext (hmark before rest)
  refine ⟨fun before group rest => hplaces ▸ foundMatch_iff, fun o => comment?_eq_some_iff, ?_, ?_,
    stripComment_prefix line, not_bareHash_stripComment h, stripComment_stripComment h,
    isElided_stripComment_iff h⟩
  · intro before rest hfirst
    rw [stripComment, beforeComment_of_leftmost (hplaces ▸ hfirst)]
  · intro hnone
    rw [stripComment, beforeComment_of_none (hplaces ▸ hnone)]

def twoHashes : List Char := "é \\##x".toList

theorem comment_of_twoHashes : '\n' ∉ twoHashes ∧ stripComment twoHashes = "é \\#".toList ∧
    isElided (stripComment twoHashes) = false := by
  have hline : '\n' ∉ twoHashes := by decide
  have hcomment : comment? twoHashes = some ⟨['#'] ++ ['#', 'x'], [['#']]⟩ := by decide
  obtain ⟨hplace, hpattern, hkept, -⟩ := comment_scanned hline
  obtain ⟨before, group, rest, hfound, ho⟩ := (hpattern _).mp hcomment
  obtain rfl : ['#'] = group := (List.cons.inj (congrArg Occurrence.groups ho)).1
  obtain rfl : ['x'] = rest := (List.cons.inj (List.append_cancel_left (congrArg Occurrence.whole ho))).2
  obtain rfl : "é \\".toList = before := List.append_cancel_right (show "é \\".toList ++ _ = _ from hfound.split)
  exact ⟨hline, hkept _ _ ((hplace _ _ _).mp hfound).1, by decide⟩

end Result

end WorkflowScript.Line
