import WorkflowScript.Proofs.Fragment.Run
import WorkflowScript.Proofs.Line.Plain

namespace WorkflowScript.Fragment

open Line Text

def isContinued (line : List Char) : Bool := (line.reverse.takeWhile (· == '\\')).length % 2 == 1

def joinLines : List (List Char) → List (List Char)
  | [] => []
  | line :: lines =>
    match isContinued line, joinLines lines with
    | true, next :: rest => (line.dropLast ++ next) :: rest
    | _, rest => line :: rest

def shellCommands (lines : List (List Char)) : List (List Char) :=
  ((joinLines lines).map trim).filter fun command => command ≠ []

def trimLines (raws : List (List Char)) : List (List Char) := (raws.map trimEnd).filter fun line => line ≠ []

structure Unbroken (raws : List (List Char)) : Prop where
  atEnd : ∀ raw ∈ raws, isContinued (trimEnd raw) = true → isContinued raw = true
  behind : raws.IsChain fun raw next => isContinued raw = true → allBlank next = false

section Join

variable {raw first : List Char} {raws others : List (List Char)}

theorem trimLines_cons_of_blank (h : allBlank raw = true) (raws : List (List Char)) :
    trimLines (raw :: raws) = trimLines raws := by
  rw [trimLines, List.map_cons, (trimEnd_eq_nil_iff raw).mpr h]
  rfl

theorem trimLines_cons_of_open (h : allBlank raw = false) (raws : List (List Char)) :
    trimLines (raw :: raws) = trimEnd raw :: trimLines raws := by
  have hne : trimEnd raw ≠ [] := by
    rw [ne_eq, trimEnd_eq_nil_iff, h]
    exact Bool.false_ne_true
  rw [trimLines, List.map_cons, List.filter_cons_of_pos (by simpa using hne)]
  rfl

theorem exists_concat_of_isContinued (h : isContinued raw = true) : ∃ front, raw = front ++ ['\\'] := by
  rcases raw.eq_nil_or_concat with rfl | ⟨front, c, rfl⟩
  · cases h
  · refine ⟨front, ?_⟩
    by_cases hc : c = '\\'
    · rw [hc, List.concat_eq_append]
    · simp [isContinued, hc] at h

theorem allBlank_of_isContinued (h : isContinued raw = true) : allBlank raw = false := by
  obtain ⟨front, rfl⟩ := exists_concat_of_isContinued h
  rw [allBlank_append]
  exact Bool.and_false _

theorem trimEnd_of_isContinued (h : isContinued raw = true) : trimEnd raw = raw := by
  obtain ⟨front, rfl⟩ := exists_concat_of_isContinued h
  exact trimEnd_concat (by decide) front

theorem joinLines_cons_of_continued (h : isContinued raw = true) (hrest : joinLines raws = first :: others) :
    joinLines (raw :: raws) = (raw.dropLast ++ first) :: others := by
  rw [joinLines, h, hrest]

theorem joinLines_cons_of_not_continued (h : isContinued raw = false) (raws : List (List Char)) :
    joinLines (raw :: raws) = raw :: joinLines raws := by
  rw [joinLines, h]

theorem joinLines_singleton (raw : List Char) : joinLines [raw] = [raw] := by
  rw [joinLines]
  cases isContinued raw <;> rfl

theorem Unbroken.tail (h : Unbroken (raw :: raws)) : Unbroken raws where
  atEnd line hline := h.atEnd line (List.mem_cons_of_mem _ hline)
  behind := h.behind.of_cons

theorem exists_joinLines_cons (h : Unbroken (raw :: raws)) (hopen : allBlank raw = false) :
    ∃ first others, joinLines (raw :: raws) = first :: others ∧ allBlank first = false := by
  induction raws generalizing raw with
  | nil => exact ⟨raw, [], joinLines_singleton raw, hopen⟩
  | cons next raws ih =>
    cases hcontinued : isContinued raw with
    | false => exact ⟨raw, _, joinLines_cons_of_not_continued hcontinued _, hopen⟩
    | true =>
      have hnext : allBlank next = false := (List.isChain_cons_cons.mp h.behind).1 hcontinued
      obtain ⟨first, others, hrest, hfirst⟩ := ih h.tail hnext
      refine ⟨_, others, joinLines_cons_of_continued hcontinued hrest, ?_⟩
      rw [allBlank_append, hfirst, Bool.and_false]

theorem joinLines_trimLines (h : Unbroken raws) : joinLines (trimLines raws) = trimLines (joinLines raws) := by
  induction raws with
  | nil => rfl
  | cons raw raws ih =>
    cases hcontinued : isContinued raw with
    | false =>
      rw [joinLines_cons_of_not_continued hcontinued]
      cases hblank : allBlank raw with
      | true => rw [trimLines_cons_of_blank hblank, trimLines_cons_of_blank hblank, ih h.tail]
      | false =>
        have hend : isContinued (trimEnd raw) = false := by
          rw [← Bool.not_eq_true]
          intro hcontrary
          have hraw := h.atEnd raw List.mem_cons_self hcontrary
          rw [hcontinued] at hraw
          cases hraw
        rw [trimLines_cons_of_open hblank, trimLines_cons_of_open hblank, joinLines_cons_of_not_continued hend,
          ih h.tail]
    | true =>
      have hopen := allBlank_of_isContinued hcontinued
      rw [trimLines_cons_of_open hopen, trimEnd_of_isContinued hcontinued]
      cases raws with
      | nil =>
        rw [joinLines_singleton, trimLines_cons_of_open hopen, trimEnd_of_isContinued hcontinued]
        exact joinLines_singleton raw
      | cons next raws =>
        -- the line behind is kept, so that the two are joined in both
        have hnext : allBlank next = false := (List.isChain_cons_cons.mp h.behind).1 hcontinued
        obtain ⟨first, others, hrest, hfirst⟩ := exists_joinLines_cons h.tail hnext
        have hkept : joinLines (trimLines (next :: raws)) = trimEnd first :: trimLines others := by
          rw [ih h.tail, hrest, trimLines_cons_of_open hfirst]
        have hjoined : allBlank (raw.dropLast ++ first) = false := by
          rw [allBlank_append, hfirst, Bool.and_false]
        rw [joinLines_cons_of_continued hcontinued hkept, joinLines_cons_of_continued hcontinued hrest,
          trimLines_cons_of_open hjoined, trimEnd_append hfirst]

theorem shellCommands_trimLines (h : Unbroken raws) : shellCommands (trimLines raws) = shellCommands raws := by
  rw [shellCommands, joinLines_trimLines h, shellCommands]
  generalize joinLines raws = lines
  induction lines with
  | nil => rfl
  | cons line lines ih =>
    cases hblank : allBlank line with
    | true => rw [trimLines_cons_of_blank hblank, ih, List.map_cons, (trim_eq_nil_iff line).mpr hblank]; rfl
    | false =>
      rw [trimLines_cons_of_open hblank, List.map_cons, List.map_cons, List.filter_cons, List.filter_cons, ih,
        trim_trimEnd]

end Join

section Run

variable {bindings : Bindings} {state : Continuing} {raws : List (List Char)}

theorem runs_of_plain (h : ∀ raw ∈ raws, Plain raw) :
    Runs .shell bindings state raws (raws.map keep) state := by
  induction raws with
  | nil => exact .nil state
  | cons raw raws ih =>
    obtain ⟨hraw, hraws⟩ := List.forall_mem_cons.mp h
    exact .cons (transform_eq_ok_iff.mpr (hraw.becomes state)) (ih hraws)

theorem toList_flatMap_keep (raws : List (List Char)) :
    ((raws.map keep).flatMap Emitted.toLines).map String.toList = trimLines raws := by
  induction raws with
  | nil => rfl
  | cons raw raws ih =>
    rw [List.map_cons, List.flatMap_cons, List.map_append, ih, keep]
    cases hblank : allBlank raw with
    | true => rw [trimLines_cons_of_blank hblank]; rfl
    | false => rw [trimLines_cons_of_open hblank]; simp [Emitted.toLines]

theorem plain_of_mem_physicalLines {text raw : List Char} (hcomment : '#' ∉ text) (hdollar : '$' ∉ text)
    (hpause : ∀ raw ∈ physicalLines text, sleepDigits? raw = none) (h : raw ∈ physicalLines text) :
    Plain raw := by
  obtain ⟨-, hsubset⟩ := of_mem_physicalLines h
  exact ⟨fun hmem => hcomment (hsubset hmem), fun hmem => hdollar (hsubset hmem), hpause raw h⟩

end Run

theorem shell_commands_kept {bindings : Bindings} {text : String} (hcomment : '#' ∉ text.toList)
    (hdollar : '$' ∉ text.toList) (hpause : ∀ raw ∈ physicalLines text.toList, sleepDigits? raw = none) :
    ∃ lines, transform .shell bindings text = .ok lines ∧
      lines.map String.toList = trimLines (physicalLines text.toList) ∧
      (Unbroken (physicalLines text.toList) →
        shellCommands (lines.map String.toList) = shellCommands (physicalLines text.toList)) := by
  have hplain : ∀ raw ∈ physicalLines text.toList, Plain raw :=
    fun raw hraw => plain_of_mem_physicalLines hcomment hdollar hpause hraw
  have hlines := toList_flatMap_keep (physicalLines text.toList)
  refine ⟨_, transformLines_eq_ok_iff.mpr ⟨_, _, runs_of_plain hplain, rfl⟩, hlines, ?_⟩
  intro hunbroken
  rw [hlines, shellCommands_trimLines hunbroken]

def imageText : String := "docker run \\\n  --rm image  \n\n  echo done\n"

theorem commands_of_image : ∃ lines, transform .shell noBindings imageText = .ok lines ∧
    shellCommands (lines.map String.toList) =
      ["docker run   --rm image".toList, "echo done".toList] := by
  obtain ⟨lines, hlines, -, hcommands⟩ := @shell_commands_kept noBindings imageText (by decide) (by decide)
    (by decide)
  exact ⟨lines, hlines, (hcommands ⟨by decide, by decide⟩).trans (by decide)⟩

def blankBehind : String := "echo a \\\n\necho b"

def gapBehind : String := "echo a \\ \necho b"

theorem commands_merged :
    ('#' ∉ blankBehind.toList ∧ '$' ∉ blankBehind.toList ∧
      ∀ raw ∈ physicalLines blankBehind.toList, sleepDigits? raw = none) ∧
    transform .shell noBindings blankBehind = .ok ["echo a \\", "echo b"] ∧
    shellCommands (physicalLines blankBehind.toList) = ["echo a".toList, "echo b".toList] ∧
    ('#' ∉ gapBehind.toList ∧ '$' ∉ gapBehind.toList ∧
      ∀ raw ∈ physicalLines gapBehind.toList, sleepDigits? raw = none) ∧
    transform .shell noBindings gapBehind = .ok ["echo a \\", "echo b"] ∧
    shellCommands (physicalLines gapBehind.toList) = ["echo a \\".toList, "echo b".toList] ∧
    shellCommands ["echo a \\".toList, "echo b".toList] = ["echo a echo b".toList] := by
  decide +kernel

end WorkflowScript.Fragment
