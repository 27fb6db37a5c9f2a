import WorkflowScript.Proofs.Yaml.Cursor
import WorkflowScript.Yaml.Scalar.Block

namespace WorkflowScript.Yaml.Block

variable {line : List Char}

theorem leadFrom_indentation {rest : List Char} (width column count : Nat)
    (hrest : rest.head?.any (fun c => c != ' ' && c != '\t' && !isBreak c) = true) :
    leadFrom 0 column ⟨count, [], 0⟩ (List.replicate width ' ' ++ rest) =
      .ok ⟨count + width, [], column + width⟩ := by
  induction width generalizing column count with
  | zero =>
    cases rest with
    | nil => cases hrest
    | cons c rest =>
      simp only [List.head?_cons, Option.any_some, Bool.and_eq_true, bne_iff_ne, Bool.not_eq_true'] at hrest
      obtain ⟨⟨hspace, htab⟩, hbreak⟩ := hrest
      simp [leadFrom, hspace, htab, hbreak]
  | succ width ih =>
    rw [List.replicate_succ, List.cons_append, leadFrom, if_pos (by simp), ih]
    simp [Nat.add_assoc, Nat.add_comm 1 width]

theorem lead_indentation {rest : List Char} (width offset row : Nat)
    (hrest : rest.head?.any (fun c => c != ' ' && c != '\t' && !isBreak c) = true) :
    lead 0 ⟨List.replicate width ' ' ++ rest, offset, row, 0⟩ =
      .ok (⟨width, [], width⟩, ⟨rest, offset + Text.bytes (List.replicate width ' '), row, width⟩) := by
  have hbreaks : ∀ c ∈ List.replicate width ' ', isBreak c = false := by
    intro c hc
    rw [(List.mem_replicate.mp hc).2]
    decide
  have hskip := Cursor.skip_append hbreaks rest offset row 0
  rw [List.length_replicate, Nat.zero_add] at hskip
  rw [lead, leadFrom_indentation width 0 0 hrest]
  simp only [Except.map, Nat.zero_add, hskip]

theorem loop_line (n offset row column : Nat) (hline : ∀ c ∈ line, isBreak c = false) (hne : line ≠ []) :
    loop true column (n + 2) false ⟨[], [], [], ⟨line ++ ['\n'], offset, row, column⟩⟩ =
      .ok ⟨line, ['\n'], [], ⟨[], offset + Text.bytes line + 1, row + 1, 0⟩⟩ := by
  obtain ⟨c, tail, rfl⟩ := List.exists_cons_of_ne_nil hne
  obtain ⟨column', hspan⟩ : ∃ column', Cursor.span (!isBreak ·)
      ⟨c :: (tail ++ ['\n']), offset, row, column⟩ =
        (c :: tail, ⟨['\n'], offset + Text.bytes (c :: tail), row, column'⟩) :=
    ⟨_, Cursor.span_append (fun d hd => by simp [hline d hd]) (by simp [isBreak]) hline offset row column⟩
  have hnext : Cursor.next ⟨['\n'], offset + Text.bytes (c :: tail), row, column'⟩ =
      ⟨[], offset + Text.bytes (c :: tail) + 1, row + 1, 0⟩ := rfl
  simp [loop, hspan, hnext, lead, leadFrom, between, bind, Except.bind, Except.map, Cursor.skip]

theorem read_literal {parent width : Nat} (hwidth : parent < width)
    (hline : ∀ c ∈ line, isBreak c = false)
    (hstart : line.head?.any (fun c => c != ' ' && c != '\t') = true) (offset row column : Nat) :
    ∃ offset' row', read true (some parent)
        ⟨'|' :: '\n' :: (List.replicate width ' ' ++ (line ++ ['\n'])), offset, row, column⟩ =
      .ok (line ++ ['\n'], ⟨[], offset', row', 0⟩) := by
  obtain ⟨c, tail, rfl⟩ : ∃ c tail, line = c :: tail := by
    cases line with
    | nil => cases hstart
    | cons c tail => exact ⟨c, tail, rfl⟩
  have hhead : (c :: tail ++ ['\n']).head?.any (fun c => c != ' ' && c != '\t' && !isBreak c) = true := by
    have hc : isBreak c = false := hline c List.mem_cons_self
    simpa [hc] using hstart
  have hlead := lead_indentation width (offset + 1 + 1) (row + 1) hhead
  have hend : Cursor.endLine .blockHeader
      ⟨'\n' :: (List.replicate width ' ' ++ (c :: tail ++ ['\n'])), offset + 1, row, column + 1⟩ =
      .ok ⟨List.replicate width ' ' ++ (c :: tail ++ ['\n']), offset + 1 + 1, row + 1, 0⟩ := rfl
  have hheader : header ('\n' :: (List.replicate width ' ' ++ (c :: tail ++ ['\n']))) =
    .ok (⟨.clip, 0⟩, 0) := rfl
  have hnext : Cursor.next ⟨'|' :: '\n' :: (List.replicate width ' ' ++ (c :: tail ++ ['\n'])), offset, row,
      column⟩ = ⟨'\n' :: (List.replicate width ' ' ++ (c :: tail ++ ['\n'])), offset + 1, row, column + 1⟩ := rfl
  have hmax : max width (parent + 1) = width := Nat.max_eq_left hwidth
  have hloop := loop_line (tail.length + 1) (offset + 1 + 1 + Text.bytes (List.replicate width ' ')) (row + 1) width
    hline (List.cons_ne_nil c tail)
  have hfuel : (c :: tail ++ ['\n']).length + 1 = tail.length + 1 + 2 := by simp
  refine ⟨offset + 1 + 1 + Text.bytes (List.replicate width ' ') + Text.bytes (c :: tail) + 1, row + 1 + 1, ?_⟩
  rw [read, hnext]
  simp only [hheader, bind, Except.bind, Cursor.skip, hend, if_pos, hlead, hmax, hfuel, hloop]
  rfl

end WorkflowScript.Yaml.Block
