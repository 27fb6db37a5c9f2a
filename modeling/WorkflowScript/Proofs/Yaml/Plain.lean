import WorkflowScript.Proofs.Yaml.Cursor
import WorkflowScript.Yaml.Scalar.Plain

namespace WorkflowScript.Yaml

namespace Plain

structure IsWord (word : List Char) : Prop where
  ne_nil : word ≠ []
  solid : ∀ c ∈ word, isGap c = false
  open_end : word.getLast? ≠ some ':'

theorem isWord_iff {word : List Char} :
    IsWord word ↔ word ≠ [] ∧ word.any isGap = false ∧ word.getLast? ≠ some ':' := by
  have hsolid : word.any isGap = false ↔ ∀ c ∈ word, isGap c = false := by simp
  rw [hsolid]
  exact ⟨fun h => ⟨h.ne_nil, h.solid, h.open_end⟩, fun ⟨hne, hsolid, hend⟩ => ⟨hne, hsolid, hend⟩⟩

instance (word : List Char) : Decidable (IsWord word) := decidable_of_iff' _ isWord_iff

inductive OneLine : List Char → Prop
  | word {word : List Char} (hword : IsWord word) : OneLine word
  | cons {word gap rest : List Char} (hword : IsWord word) (hgap : ∀ c ∈ gap, isSpace c = true)
      (hne : gap ≠ []) (hmark : rest.head? ≠ some '#') (hrest : OneLine rest) :
      OneLine (word ++ (gap ++ rest))

variable {word line rest text : List Char} {indent n : Nat} {gap : Gap} {offset row column : Nat}

theorem IsWord.exists_cons (h : IsWord word) : ∃ c tail, word = c :: tail ∧ isGap c = false := by
  obtain ⟨c, tail, rfl⟩ := List.exists_cons_of_ne_nil h.ne_nil
  exact ⟨c, tail, rfl, h.solid c List.mem_cons_self⟩

theorem OneLine.exists_cons (h : OneLine line) : ∃ c tail, line = c :: tail ∧ isGap c = false := by
  cases h with
  | word hword => exact hword.exists_cons
  | @cons word gap rest hword =>
    obtain ⟨c, tail, rfl, hc⟩ := hword.exists_cons
    exact ⟨c, tail ++ (gap ++ rest), rfl, hc⟩

theorem OneLine.not_isBreak (h : OneLine line) : ∀ c ∈ line, isBreak c = false := by
  induction h with
  | word hword => exact fun c hc => isBreak_of_isGap (hword.solid c hc)
  | cons hword hgap _ _ _ ih =>
    simp only [List.forall_mem_append]
    exact ⟨fun c hc => isBreak_of_isGap (hword.solid c hc), fun c hc => isBreak_of_isSpace (hgap c hc), ih⟩

theorem run_append (hsolid : ∀ c ∈ word, isGap c = false) (hend : word.getLast? ≠ some ':')
    (hstop : run false rest = .ok []) : run false (word ++ rest) = .ok word := by
  induction word with
  | nil => exact hstop
  | cons c word ih =>
    have hc : isGap c = false := hsolid c List.mem_cons_self
    have hrun : run false (word ++ rest) = .ok word := by
      cases word with
      | nil => exact hstop
      | cons d word =>
        refine ih (fun x hx => hsolid x (List.mem_cons_of_mem c hx)) ?_
        rwa [List.getLast?_cons_cons] at hend
    have hcolon : (c == ':' && startsGap (word ++ rest)) = false := by
      cases word with
      | nil =>
        have hne : c ≠ ':' := by simpa using hend
        simp [hne]
      | cons d word =>
        have hd : isGap d = false := hsolid d (by simp)
        simp [startsGap, hd]
    rw [List.cons_append, run, if_neg (by rw [hc]; exact Bool.false_ne_true),
      if_neg (by simp), if_neg (by rw [hcolon]; simp), hrun]
    rfl

def afterRun (indent n : Nat) (text : List Char) (cursor : Cursor) : Except Fault Result :=
  if !(cursor.rest.head?.any isGap) then .ok ⟨text, false, cursor⟩
  else do
    let gap ← gapFrom indent cursor.column .none cursor.rest
    let cursor := cursor.skipWhile isGap
    if cursor.column < indent then return ⟨text, !gap.breaks.isEmpty, cursor⟩
    loop false indent n text gap cursor

theorem loop_word (hword : IsWord word) (hstop : run false rest = .ok [])
    (hdocument : Cursor.atDocumentMark? ⟨word ++ rest, offset, row, column⟩ = none)
    (hmark : word.head? ≠ some '#') :
    loop false indent (n + 1) text gap ⟨word ++ rest, offset, row, column⟩ =
      afterRun indent n (text ++ gap.text ++ word)
        ⟨rest, offset + Text.bytes word, row, column + word.length⟩ := by
  obtain ⟨c, tail, rfl, -⟩ := hword.exists_cons
  have hhead : (c :: tail ++ rest).head? ≠ some '#' := hmark
  have hskip := Cursor.skip_append (fun d hd => isBreak_of_isGap (hword.solid d hd)) rest offset row column
  rw [loop, hdocument, run_append hword.solid hword.open_end hstop]
  simp only [Option.isSome_none, Bool.false_or, beq_iff_eq, if_neg hhead, afterRun, bind, Except.bind,
    hskip, Bool.not_false, Bool.true_and, decide_eq_true_eq]
  rfl

theorem gapFrom_spaces {spaces : List Char} (h : ∀ c ∈ spaces, isSpace c = true)
    (hrest : rest.head?.all (!isGap ·) = true) (before : List Char) (column : Nat) :
    gapFrom indent column ⟨before, []⟩ (spaces ++ rest) = .ok ⟨before ++ spaces, []⟩ := by
  induction spaces generalizing before column with
  | nil =>
    cases rest with
    | nil => simp [gapFrom]
    | cons d rest =>
      have hd : isGap d = false := by simpa using hrest
      rw [List.nil_append, gapFrom, if_neg (by rw [isBreak_of_isGap hd]; simp),
        if_neg (by rw [isSpace_of_isGap hd]; simp), List.append_nil]
  | cons c spaces ih =>
    have hc : isSpace c = true := h c List.mem_cons_self
    rw [List.cons_append, gapFrom, if_neg (by rw [isBreak_of_isSpace hc]; simp), if_pos hc,
      ih fun d hd => h d (List.mem_cons_of_mem c hd)]
    simp

theorem afterRun_spaces {spaces : List Char} (h : ∀ c ∈ spaces, isSpace c = true) (hne : spaces ≠ [])
    (hrest : rest.head?.all (!isGap ·) = true) (hindent : indent ≤ column) :
    afterRun indent n text ⟨spaces ++ rest, offset, row, column⟩ =
      loop false indent n text ⟨spaces, []⟩
        ⟨rest, offset + Text.bytes spaces, row, column + spaces.length⟩ := by
  obtain ⟨c, tail, rfl⟩ := List.exists_cons_of_ne_nil hne
  have hc : isGap c = true := isGap_of_isSpace (h c List.mem_cons_self)
  have hskip := Cursor.skipWhile_append (fun d hd => isGap_of_isSpace (h d hd)) hrest
    (fun d hd => isBreak_of_isSpace (h d hd)) offset row column
  have hgap : gapFrom indent column .none (c :: tail ++ rest) = .ok ⟨c :: tail, []⟩ :=
    gapFrom_spaces h hrest [] column
  rw [afterRun, if_neg (by simp [hc]), hgap, hskip]
  change (if column + (c :: tail).length < indent then _ else _) = _
  rw [if_neg (by omega)]

theorem afterRun_comment {spaces : List Char} (h : ∀ c ∈ spaces, isSpace c = true) (hne : spaces ≠ [])
    (hindent : indent ≤ column) :
    afterRun indent (n + 1) text ⟨spaces ++ '#' :: rest, offset, row, column⟩ =
      .ok ⟨text, false, ⟨'#' :: rest, offset + Text.bytes spaces, row, column + spaces.length⟩⟩ := by
  rw [afterRun_spaces h hne (by simp [isGap, isSpace, isBreak, lineSeparator, paragraphSeparator]) hindent]
  simp [loop]

theorem loop_oneLine (text : List Char) (gap : Gap) (h : OneLine line) (hstop : run false rest = .ok [])
    (hdocument : Cursor.atDocumentMark? ⟨line ++ rest, offset, row, column⟩ = none)
    (hmark : line.head? ≠ some '#') (hindent : indent ≤ column + 1) (hn : line.length ≤ n) :
    ∃ m, n ≤ m + line.length ∧
      loop false indent (n + 1) text gap ⟨line ++ rest, offset, row, column⟩ =
        afterRun indent m (text ++ gap.text ++ line)
          ⟨rest, offset + Text.bytes line, row, column + line.length⟩ := by
  induction h generalizing text gap offset column n with
  | word hword => exact ⟨n, by omega, loop_word hword hstop hdocument hmark⟩
  | @cons word spaces line hword hspaces hne hmark' hline ih =>
    have hlength : 0 < word.length := List.length_pos_iff.mpr hword.ne_nil
    have hlength' : 0 < spaces.length := List.length_pos_iff.mpr hne
    obtain ⟨c, tail, hcons, hc⟩ := hline.exists_cons
    have hstop' : run false (spaces ++ (line ++ rest)) = .ok [] := by
      obtain ⟨d, more, rfl⟩ := List.exists_cons_of_ne_nil hne
      rw [List.cons_append, run, if_pos (isGap_of_isSpace (hspaces d List.mem_cons_self))]
    have hhead : (line ++ rest).head?.all (!isGap ·) = true := by
      rw [hcons]
      simp [hc]
    have hmarked : word.head? ≠ some '#' := by
      obtain ⟨d, more, rfl, -⟩ := hword.exists_cons
      exact hmark
    simp only [List.append_assoc] at hdocument ⊢
    rw [loop_word hword hstop' hdocument hmarked, afterRun_spaces hspaces hne hhead (by omega)]
    simp only [List.length_append] at hn ⊢
    obtain ⟨k, rfl⟩ : ∃ k, n = k + 1 := ⟨n - 1, by omega⟩
    have hcolumn : Cursor.atDocumentMark? ⟨line ++ rest, offset + Text.bytes word + Text.bytes spaces, row,
        column + word.length + spaces.length⟩ = none := if_neg (by dsimp only; omega)
    have hlength'' : line.length ≤ k := by omega
    obtain ⟨m, hm, hloop⟩ := ih (text ++ gap.text ++ word) ⟨spaces, []⟩ hcolumn hmark' (by omega) hlength''
    refine ⟨m, by omega, ?_⟩
    rw [hloop]
    simp [Gap.text, Text.bytes_append, Nat.add_assoc]

theorem read_oneLine (h : OneLine line) (hstop : run false rest = .ok [])
    (hdocument : Cursor.atDocumentMark? ⟨line ++ rest, offset, row, column⟩ = none)
    (hmark : line.head? ≠ some '#') (hindent : indent ≤ column + 1) :
    ∃ m, rest.length ≤ m ∧ read false indent ⟨line ++ rest, offset, row, column⟩ =
      afterRun indent m line ⟨rest, offset + Text.bytes line, row, column + line.length⟩ := by
  have hlength : line.length ≤ (line ++ rest).length := by simp
  obtain ⟨m, hm, hloop⟩ := loop_oneLine [] .none h hstop hdocument hmark hindent hlength
  rw [List.length_append] at hm
  exact ⟨m, by omega, hloop⟩

end Plain

end WorkflowScript.Yaml
