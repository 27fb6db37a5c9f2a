import WorkflowScript.Proofs.Shell.Phrase

namespace WorkflowScript.Shell

open Reader

def reserved : List String :=
  ["if", "while", "until", "for", "select", "case", "[[", "\x7b", "function", "coproc", "]]", "in", "!", "time"] ++
    closers ++ declarers

structure IsCommandName (name : Chars) : Prop where
  ne_nil : name ≠ []
  letters : ∀ c ∈ name, isNameChar c = true
  free : String.ofList name ∉ reserved

section Name

variable {c : Char} {name rest more : Chars}

theorem ne_of_isNameChar (h : isNameChar c = true) {mark : Char} (hmark : isNameChar mark = false) : c ≠ mark := by
  rintro rfl
  exact Bool.false_ne_true (hmark.symm.trans h)

theorem isBare_of_isNameChar (h : isNameChar c = true) : isBare c = true := isBare_of h rfl

theorem written_name (h : ∀ c ∈ name, isNameChar c = true) : Written name (name.map .char) :=
  .letters fun c hc => isBare_of_isNameChar (h c hc)

theorem spanPlain_name (h : ∀ c ∈ name, isNameChar c = true) :
    Word.spanPlain isNameChar (name.map .char) = (name, []) := by
  induction name with
  | nil => rfl
  | cons c name ih =>
    obtain ⟨hc, hname⟩ := List.forall_mem_cons.mp h
    rw [List.map_cons, Word.spanPlain, if_pos hc, ih hname]

theorem assignment?_name (h : ∀ c ∈ name, isNameChar c = true) : Word.assignment? (name.map .char) = none := by
  rw [Word.assignment?, spanPlain_name h]
  dsimp only
  split <;> rfl

theorem plain?_name (name : Chars) : Word.plain? (name.map .char) = some name := by
  induction name with
  | nil => rfl
  | cons c name ih =>
    rw [Word.plain?] at ih
    rw [Word.plain?, List.map_cons, List.mapM_cons, ih]
    rfl

theorem keyword?_name (hletters : ∀ c ∈ name, isNameChar c = true) (hne : name ≠ []) (hends : Ends rest) :
    keyword? (name ++ rest) = some (.ofList name) := by
  have hplain : ∀ c ∈ name, (!isMeta c && c != '\'' && c != '"' && c != '\\' && c != '$' && c != backtick) = true := by
    intro c hc
    have hbare := isBare_iff.mp (isBare_of_isNameChar (hletters c hc))
    simp [hbare.isMeta, hbare.single, hbare.double, hbare.backslash, hbare.dollar, hbare.backquote]
  have hmeta : ∀ c ∈ rest.head?, isMeta c = true := by
    intro c hc
    rcases hends c hc with hblank | rfl
    · simp [isMeta, hblank]
    · rfl
  have hstop : ∀ c ∈ rest.head?,
      (!isMeta c && c != '\'' && c != '"' && c != '\\' && c != '$' && c != backtick) = false := by
    intro c hc
    simp [hmeta c hc]
  have hall : rest.head?.all isMeta = true := by
    rw [Option.all_eq_true]
    exact hmeta
  rw [keyword?]
  dsimp only
  rw [span_append hplain hstop]
  dsimp only
  rw [hall, List.isEmpty_eq_false_iff.mpr hne]
  rfl

end Name

theorem IsCommandName.begins {name rest : Chars} (h : IsCommandName name) : Begins (name ++ rest) := by
  exact (written_name h.letters).begins h.ne_nil rest

theorem IsCommandName.head?_ne {name rest : Chars} (h : IsCommandName name) {mark : Char}
    (hmark : isNameChar mark = false) : (name ++ rest).head? ≠ some mark := by
  obtain ⟨c, letters, rfl⟩ := List.exists_cons_of_ne_nil h.ne_nil
  exact fun heq => ne_of_isNameChar (h.letters c List.mem_cons_self) hmark (Option.some.inj heq)

namespace Reader.Reads

variable {breaks n : Nat} {inner : Reader Command} {text more name : Chars} {word : String} {words : List Word}

theorem nextKeyword? (h : Begins text) : Reads breaks Reader.nextKeyword? text (keyword? text) text :=
  .bind (.skipNothing h) (.bind .whole (.pure _))

theorem compound?_none (hbegins : Begins text) (hparen : text.head? ≠ some '(')
    (hkeyword : keyword? text = some word) (hfree : word ∉ reserved) :
    Reads breaks (compound? false inner) text none text := by
  have hne {other : String} (hmem : other ∈ reserved) : some word ≠ some other :=
    fun heq => hfree (Option.some.inj heq ▸ hmem)
  refine .bind (.skipNothing hbegins) (.bind .get (.bind .whole ?_))
  rw [if_neg hparen, hkeyword]
  split
  case h_8 other _ _ _ _ _ _ _ heq =>
    have hbrace : other ≠ openBraceWord := fun h => hne (by decide) (h ▸ heq)
    rw [if_neg hbrace]
    exact .pure none
  case h_9 heq => exact absurd heq (Option.some_ne_none word)
  all_goals next heq => exact absurd heq (hne (by decide))

theorem simple (hname : IsCommandName name) (h : Phrase text words) :
    Reads breaks (command.simple false inner) (name ++ (text ++ '\n' :: more))
      (.simple (⟨name ++ (text ++ '\n' :: more), none, breaks⟩ : Source).line []
        ((name.map .char :: words).map .word) []) ('\n' :: more) := by
  have hdeclares : ((Word.plain? (name.map .char)).any fun name => declarers.contains (.ofList name)) = false := by
    have hfree : String.ofList name ∉ declarers := fun hmem => hname.free (List.mem_append_right _ hmem)
    rw [plain?_name, Option.any_some, List.contains_eq_mem, decide_eq_false hfree]
  have hfirst : Reads breaks
      (Reader.simpleFrom false ((name ++ (text ++ '\n' :: more)).length + 1) ⟨[], [], [], false⟩)
      (name ++ (text ++ '\n' :: more)) ⟨[], (name.map .char :: words).map .word, [], false⟩ ('\n' :: more) := by
    refine simpleFrom_word (List.forall_mem_nil _) hname.ne_nil (written_name hname.letters) (h.ends more)
      (.inl (assignment?_name hname.letters)) ?_
    have hlength : (name ++ (text ++ '\n' :: more)).length = (name ++ (text ++ more)).length + 1 := by
      simp only [List.length_append, List.length_cons, Nat.add_assoc]
    have hstart : SimpleCommand.addWord (name.map .char) ⟨[], [], [], false⟩ =
        ⟨[], [.word (name.map .char)], [], false⟩ := by
      rw [SimpleCommand.addWord, hdeclares]
      rfl
    rw [hlength, hstart]
    refine .simpleFrom h ?_ (List.cons_ne_nil _ _) rfl
    simp only [List.length_append]
    omega
  refine .bind .get (.bind .whole (.bind hfirst ?_))
  exact .bind (.startsWith "(") (.pure _)

theorem command (hname : IsCommandName name) (h : Phrase text words) :
    Reads breaks (Reader.command false inner) (name ++ (text ++ '\n' :: more))
      (.simple (⟨name ++ (text ++ '\n' :: more), none, breaks⟩ : Source).line []
        ((name.map .char :: words).map .word) []) ('\n' :: more) := by
  have hkeyword := keyword?_name hname.letters hname.ne_nil (h.ends more)
  have hne {other : String} (hmem : other ∈ reserved) : some (String.ofList name) ≠ some other :=
    fun heq => hname.free (Option.some.inj heq ▸ hmem)
  refine .bind (compound?_none hname.begins (hname.head?_ne rfl) hkeyword hname.free)
    (.bind (nextKeyword? hname.begins) ?_)
  rw [hkeyword]
  split
  case h_3 other _ _ heq =>
    cases heq
    have hopen : ¬ (String.ofList name ∈ closers ∨ String.ofList name = "]]" ∨ String.ofList name = "in") := by
      rintro (hmem | heq | heq)
      · exact hname.free (List.mem_append_left _ (List.mem_append_right _ hmem))
      · exact hne (by decide) (congrArg some heq)
      · exact hne (by decide) (congrArg some heq)
    rw [if_neg hopen]
    exact simple hname h
  case h_4 heq => exact absurd heq (Option.some_ne_none _)
  all_goals next heq => exact absurd heq (hne (by decide))

section Chain

variable {found : Command} (hcommand : Reads breaks (Reader.command false inner) text found ('\n' :: more))
include hcommand

theorem stagesFrom : Reads breaks (Reader.stagesFrom false inner (n + 1)) text [(found, false)] ('\n' :: more) := by
  rw [Reader.stagesFrom]
  refine .bind hcommand (.bind (.skipNothing .lineFeed) (.bind (.startsWith "||") ?_))
  exact .bind (.take?_of_not rfl) (.bind (.take?_of_not rfl) (.pure _))

variable (hbegins : Begins text) (hkeyword : keyword? text = some word) (hfree : word ∉ reserved)
include hbegins hkeyword hfree

theorem pipeline : Reads breaks (Reader.pipeline false inner) text found ('\n' :: more) := by
  have hne {other : String} (hmem : other ∈ reserved) : some word ≠ some other :=
    fun heq => hfree (Option.some.inj heq ▸ hmem)
  refine .bind (nextKeyword? hbegins) ?_
  rw [hkeyword]
  split
  case h_3 => exact .bind .whole (.bind (stagesFrom hcommand) (.pure _))
  all_goals next heq => exact absurd heq (hne (by decide))

theorem chain : Reads breaks (Reader.chain false inner) text found ('\n' :: more) := by
  refine .bind .whole (.bind (pipeline hcommand hbegins hkeyword hfree) ?_)
  rw [linksFrom]
  refine .bind (.skipNothing .lineFeed) ?_
  exact .bind (.take?_of_not rfl) (.bind (.take?_of_not rfl) (.pure _))

theorem listFrom :
    Reads breaks (Reader.listFrom false inner false (n + 1) none) text found ('\n' :: more) := by
  rw [Reader.listFrom]
  have hbackground : Reads breaks (listFrom.isMark '&') ('\n' :: more) false ('\n' :: more) :=
    .bind .whole (.pure _)
  have hseparator : Reads breaks (listFrom.isMark ';') ('\n' :: more) false ('\n' :: more) :=
    .bind .whole (.pure _)
  have hends : Reads breaks endsList ('\n' :: more) true ('\n' :: more) :=
    .bind (nextKeyword? .lineFeed) (.bind .whole (.pure _))
  refine .bind (chain hcommand hbegins hkeyword hfree) (.bind (.skipNothing .lineFeed) (.bind hbackground ?_))
  exact .bind hseparator (.bind (.pure false) (.bind .whole (.bind hends (.pure _))))

end Chain

theorem skipBreaks (h : Begins text) (hbreak : text.head? ≠ some '\n') :
    Reads breaks Reader.skipBreaks text () text := by
  refine .bind .whole ?_
  rw [breaksFrom]
  refine .bind (.skipNothing h) (.bind .whole ?_)
  rw [if_neg hbreak]
  exact .pure ()

theorem line? (hname : IsCommandName name) (h : Phrase text words) :
    Reads breaks (Reader.line? false) (name ++ (text ++ '\n' :: more))
      (some (.simple (⟨name ++ (text ++ '\n' :: more), none, breaks⟩ : Source).line []
        ((name.map .char :: words).map .word) [])) more := by
  have hkeyword := keyword?_name hname.letters hname.ne_nil (h.ends more)
  have hempty : (name ++ (text ++ '\n' :: more)).isEmpty = false := by
    rw [List.isEmpty_eq_false_iff]
    exact List.append_ne_nil_of_left_ne_nil hname.ne_nil _
  refine .bind (skipBreaks hname.begins ?_) (.bind .whole ?_)
  · exact hname.head?_ne rfl
  · rw [hempty, if_neg Bool.false_ne_true]
    refine .bind (listFrom (command hname h) hname.begins hkeyword hname.free) ?_
    exact .bind (.skipNothing .lineFeed) (.bind .whole (.bind .takeBreak (.pure _)))

end Reader.Reads

theorem Reader.line?_lineFeed (patterns : Bool) (text : Chars) (breaks : Nat) :
    line? patterns ⟨'\n' :: text, none, breaks⟩ = line? patterns ⟨text, none, breaks⟩ := by
  have hskip : skipBreaks ⟨'\n' :: text, none, breaks⟩ = skipBreaks ⟨text, none, breaks⟩ := rfl
  rw [line?]
  change (skipBreaks ⟨'\n' :: text, none, breaks⟩ >>= _) = (skipBreaks ⟨text, none, breaks⟩ >>= _)
  rw [hskip]

end WorkflowScript.Shell
