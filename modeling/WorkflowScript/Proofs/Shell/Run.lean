import WorkflowScript.Proofs.Shell.Line
import WorkflowScript.Proofs.Shell.Literal
import WorkflowScript.Shell.Evaluate
import WorkflowScript.Shell.Run

namespace WorkflowScript.Shell

def State.print (s : State) (text : Chars) : World := { s.world with output := text.reverseAux s.world.output }

structure State.Ready (s : State) : Prop where
  traps : s.process.traps = []
  functions : s.process.functions = []
  runs : "noexec" ∉ s.process.options
  noGroups : "extglob" ∉ s.process.habits
  output : ∃ number, s.process.descriptors.lookup 1 = some number ∧ s.world.channels[number]? = some .output

theorem State.Ready.notGroups {s : State} (h : s.Ready) : s.process.habits.contains "extglob" = false := by
  rw [List.contains_eq_mem, decide_eq_false h.noGroups]

namespace Execution

variable {s : State} {perform : Perform} {text name : Chars} {words : List Word} {values : List Chars}

def Prints (action : Execution Unit) (s : State) (text : Chars) : Prop :=
  ∃ left, Gives action s () left ∧ left.Ready ∧ left.process.status = 0 ∧ left.world = s.print text

def Shows (builtin : List Chars → Execution Nat) (values : List Chars) (text : Chars) : Prop :=
  ∀ s : State, s.Ready → ∃ left, Gives (builtin values) s 0 left ∧ left.Ready ∧ left.world = s.print text

structure Calls (name : Chars) (builtin : List Chars → Execution Nat) : Prop where
  isName : IsCommandName name
  notExec : name ≠ "exec".toList
  isBuiltin : isBuiltin (toPath name) = true
  runs : ∀ perform arguments,
    runBuiltin perform name arguments = builtin (arguments.map declaredText) >>= setStatus

section Builtins

theorem calls_echo : Calls "echo".toList showWords :=
  ⟨⟨by decide, List.all_eq_true.mp rfl, by decide⟩, by decide, rfl, fun _ _ => rfl⟩

theorem calls_set : Calls "set".toList set :=
  ⟨⟨by decide, List.all_eq_true.mp rfl, by decide⟩, by decide, rfl, fun _ _ => rfl⟩

theorem shows_echo (values : List Chars) : Shows showWords values (Format.echo values) := by
  intro s h
  obtain ⟨number, hdescriptor, hchannel⟩ := h.output
  have hwrite := Gives.write hdescriptor hchannel (Format.echo values)
  exact ⟨_, .bind hwrite (.pure 0), ⟨h.traps, h.functions, h.runs, h.noGroups, h.output⟩, rfl⟩

theorem shows_strict : Shows set ["-e".toList] [] := by
  intro s h
  have hgives : Gives (set ["-e".toList]) s 0
      { s with process := { s.process with options := with_ "errexit" true s.process.options } } := rfl
  refine ⟨_, hgives, ⟨h.traps, h.functions, ?_, h.noGroups, h.output⟩, rfl⟩
  dsimp only
  rw [with_, if_pos rfl]
  split
  · exact h.runs
  · exact fun hmem => (List.mem_append.mp hmem).elim h.runs (by decide)

end Builtins

theorem runTrap_gives (h : s.process.traps = []) (event : String) : Gives (runTrap perform event) s () s := by
  refine .bind .process ?_
  rw [h]
  exact .pure ()

theorem Calls.prints_named {builtin : List Chars → Execution Nat} (hcalls : Calls name builtin) (h : s.Ready)
    (hshows : Shows builtin values text) (perform : Perform) :
    Prints (runNamed perform .any name (values.map .word)) s text := by
  have hvalues : (values.map Declared.word).map declaredText = values := by
    rw [List.map_map]
    exact List.map_id values
  obtain ⟨shown, hshown, hready, hworld⟩ := hshows s h
  refine ⟨{ shown with process := { shown.process with status := 0 } }, .bind .process ?_,
    ⟨hready.traps, hready.functions, hready.runs, hready.noGroups, hready.output⟩, rfl, hworld⟩
  rw [h.functions]
  dsimp only
  rw [if_pos rfl, List.lookup_nil]
  dsimp only
  rw [if_pos ⟨by decide, hcalls.isBuiltin⟩, hcalls.runs, hvalues]
  exact .tryCatch _ (.bind hshown (.setStatus 0))

theorem arguments_gives (hhabits : "extglob" ∉ s.process.habits)
    (h : ∀ word ∈ words, word.IsLiteral ∧ word ≠ []) :
    Gives ((words.map Argument.word).mapM (argumentsOf perform)) s (words.map fun word => [.word word.value]) s := by
  rw [List.mapM_map]
  exact .mapM fun word hmem => .bind (expand_literal hhabits (h word hmem).1 (h word hmem).2) (.pure _)

theorem declared_flatten (words : List Word) :
    (words.map fun word => [Declared.word word.value]).flatten = (words.map Word.value).map .word := by
  induction words with
  | nil => rfl
  | cons word words ih =>
    rw [List.map_cons, List.flatten_cons, ih]
    rfl

theorem withAssignments_nil (action : Execution Unit) : withAssignments perform [] action = action := rfl

theorem withRedirects_nil (action refused : Execution Unit) : withRedirects perform [] action refused = action :=
  rfl

theorem setStageStatuses_gives (s : State) (statuses : List Nat) : ∃ store,
    Gives (setStageStatuses statuses) s () { s with process := { s.process with store := store } } := ⟨_, rfl⟩

theorem checkFailure_gives (h : s.process.status = 0) : Gives (checkFailure perform) s () s := by
  refine .bind .process ?_
  rw [if_neg fun hfailed => hfailed.1 h]
  exact .pure ()

theorem Calls.prints_simple {builtin : List Chars → Execution Nat} (hcalls : Calls name builtin) (h : s.Ready)
    (hwords : ∀ word ∈ words, word.IsLiteral ∧ word ≠ []) (hshows : Shows builtin (words.map Word.value) text)
    (perform : Perform) (line : Nat) :
    Prints (runSimple perform line [] ((name.map .char :: words).map .word) []) s text := by
  have hname : Word.IsLiteral (name.map .char) ∧ name.map Part.char ≠ [] :=
    ⟨(written_name hcalls.isName.letters).isLiteral, by simpa using hcalls.isName.ne_nil⟩
  have hhead : name.head? ≠ some '%' := by
    have hne := @IsCommandName.head?_ne name [] hcalls.isName '%' rfl
    rwa [List.append_nil] at hne
  obtain ⟨started, hstarted, hready, hworld⟩ : ∃ started,
      Gives (changeProcess fun p => { p with line := line, substituted := none }) s () started ∧
        started.Ready ∧ started.world = s.world :=
    ⟨_, .changeProcess _, ⟨h.traps, h.functions, h.runs, h.noGroups, h.output⟩, rfl⟩
  obtain ⟨ended, hended, hendedReady, hstatus, hendedWorld⟩ := hcalls.prints_named hready hshows perform
  obtain ⟨store, hstore⟩ := setStageStatuses_gives ended [ended.process.status]
  refine ⟨{ ended with process := { ended.process with store := store } },
    .bind hstarted (.bind (runTrap_gives hready.traps "DEBUG")
      (.bind (arguments_gives hready.noGroups (List.forall_mem_cons.mpr ⟨hname, hwords⟩)) ?_)),
    ⟨hendedReady.traps, hendedReady.functions, hendedReady.runs, hendedReady.noGroups, hendedReady.output⟩,
    hstatus, ?_⟩
  · rw [declared_flatten, List.map_cons, value_name, List.map_cons]
    dsimp only [declaredText]
    rw [if_neg hhead, if_neg fun hexec => hcalls.notExec hexec.1, withAssignments_nil, withRedirects_nil]
    exact .bind hended (.bind .process (.bind hstore (checkFailure_gives hstatus)))
  · exact hendedWorld.trans (congrArg (fun world => { world with output := text.reverseAux world.output }) hworld)

end Execution

open Execution

inductive Says : Chars → Chars → Prop where
  | blank : Says [] []
  | call {name text printed : Chars} {words : List Word} {builtin : List Chars → Execution Nat}
      (hcalls : Calls name builtin) (h : Phrase text words) (hshows : Shows builtin (words.map Word.value) printed) :
      Says (name ++ text) printed

variable {s : State} {text printed : Chars} {words : List Word} {lines printeds : List Chars} {n : Nat}

theorem Phrase.isLiteral (h : Phrase text words) : ∀ word ∈ words, word.IsLiteral ∧ word ≠ [] := by
  induction h with
  | done hgap => exact List.forall_mem_nil _
  | word hgap hgapNe htext hword h ih =>
    exact List.forall_mem_cons.mpr ⟨⟨hword.isLiteral, hword.word_ne_nil htext⟩, ih⟩

theorem Says.echo (h : Phrase text words) : Says ("echo".toList ++ text) (Format.echo (words.map Word.value)) :=
  .call calls_echo h (shows_echo _)

theorem Says.strict : Says "set -e".toList [] := by
  have hoption : Written ['-', 'e'] [.char '-', .char 'e'] := .bare rfl (.bare rfl .nil)
  have hphrase : Phrase ([' '] ++ (['-', 'e'] ++ [])) [[.char '-', .char 'e']] :=
    .word (List.forall_mem_singleton.mpr rfl) (List.cons_ne_nil _ _) (List.cons_ne_nil _ _) hoption
      (.done (List.forall_mem_nil _))
  exact .call calls_set hphrase shows_strict

namespace Execution

theorem runLine_prints {perform : Perform} {command : Command} (h : Prints (perform (.command command)) s text) :
    Prints (runLine perform command) s text := by
  obtain ⟨left, hgives, hrest⟩ := h
  exact ⟨left, .bind .process (.tryCatch _ hgives), hrest⟩

theorem runCommand_prints {builtin : List Chars → Execution Nat} {name : Chars} (hcalls : Calls name builtin)
    (h : s.Ready) (hphrase : Phrase text words) (hshows : Shows builtin (words.map Word.value) printed)
    (line : Nat) :
    Prints (run (n + 1) (.command (.simple line [] ((name.map .char :: words).map .word) []))) s printed := by
  obtain ⟨left, hgives, hrest⟩ := hcalls.prints_simple h hphrase.isLiteral hshows (run n) line
  refine ⟨left, .bind (.hasOption "noexec") ?_, hrest⟩
  rw [List.contains_eq_mem, decide_eq_false h.runs]
  exact hgives

theorem print_append {left : State} (h : left.world = s.print text) (more : Chars) :
    left.print more = s.print (text ++ more) := by
  rw [State.print, h, State.print, State.print, List.reverseAux_eq, List.reverseAux_eq, List.reverseAux_eq,
    List.reverse_append, List.append_assoc]

theorem runLines_lineFeed (perform : Perform) (ranAny : Bool) (text : Chars) (breaks : Nat) :
    runLines perform n ranAny ⟨'\n' :: text, none, breaks⟩ = runLines perform n ranAny ⟨text, none, breaks⟩ := by
  cases n with
  | zero => rfl
  | succ n =>
    simp only [runLines, Reader.line?_lineFeed]

theorem runLines_prints (h : List.Forall₂ Says lines printeds) (hready : s.Ready) {ranAny : Bool}
    (hran : ranAny = true → s.process.status = 0) {k : Nat}
    (hk : (lines.flatMap (· ++ ['\n'])).length < k) (breaks : Nat) :
    Prints (runLines (run (n + 1)) k ranAny ⟨lines.flatMap (· ++ ['\n']), none, breaks⟩) s printeds.flatten := by
  obtain ⟨k, rfl⟩ := Nat.exists_eq_add_of_le' (Nat.one_le_of_lt hk)
  induction h generalizing s ranAny k with
  | nil =>
    rw [runLines]
    cases ranAny with
    | false =>
      refine ⟨{ s with process := { s.process with status := 0 } }, .bind (.hasHabit "extglob") ?_,
        ⟨hready.traps, hready.functions, hready.runs, hready.noGroups, hready.output⟩, rfl, rfl⟩
      rw [hready.notGroups]
      exact .setStatus 0
    | true =>
      refine ⟨s, .bind (.hasHabit "extglob") ?_, hready, hran rfl, rfl⟩
      rw [hready.notGroups]
      exact .pure ()
  | @cons line printed lines printeds hline hlines ih =>
    cases hline with
    | blank =>
      rw [List.flatMap_cons, List.nil_append, List.singleton_append, runLines_lineFeed, List.flatten_cons,
        List.nil_append]
      refine ih hready hran k ?_
      rw [List.flatMap_cons, List.length_append] at hk
      omega
    | @call name text printed words builtin hcalls hphrase hshows =>
      rw [List.flatMap_cons, List.append_assoc, List.singleton_append, List.append_assoc] at hk ⊢
      have hread : Reader.Reads breaks (Reader.line? false)
          (name ++ (text ++ '\n' :: lines.flatMap (· ++ ['\n']))) _ _ := .line? hcalls.isName hphrase
      have hname := List.length_pos_iff.mpr hcalls.isName.ne_nil
      simp only [List.length_append, List.length_cons] at hk
      obtain ⟨mid, hmid, hmidReady, hstatus, hworld⟩ :=
        runLine_prints (runCommand_prints hcalls hready hphrase hshows _)
      obtain ⟨k, rfl⟩ := Nat.exists_eq_add_of_le' (show 1 ≤ k by omega)
      obtain ⟨left, hleft, hleftReady, hleftStatus, hleftWorld⟩ := ih hmidReady (fun _ => hstatus) k (by omega)
      refine ⟨left, ?_, hleftReady, hleftStatus, ?_⟩
      · rw [runLines]
        refine .bind (.hasHabit "extglob") ?_
        rw [hready.notGroups, hread]
        exact .bind hmid hleft
      · rw [hleftWorld, print_append hworld, List.flatten_cons]

theorem runText_prints (h : List.Forall₂ Says lines printeds) (hready : s.Ready) :
    Prints (runText (run (n + 1)) (lines.flatMap (· ++ ['\n']))) s printeds.flatten := by
  obtain ⟨started, hstarted, hstartedReady, hworld⟩ : ∃ started,
      Gives (changeProcess fun p => { p with texts := p.texts + 1 }) s () started ∧ started.Ready ∧
        started.world = s.world :=
    ⟨_, .changeProcess _, ⟨hready.traps, hready.functions, hready.runs, hready.noGroups, hready.output⟩, rfl⟩
  have hlength : (lines.flatMap (· ++ ['\n'])).length < (lines.flatMap (· ++ ['\n'])).length + 2 := by omega
  have hran : false = true → started.process.status = 0 := nofun
  obtain ⟨ended, hended, hendedReady, hstatus, hendedWorld⟩ :=
    runLines_prints (n := n) h hstartedReady hran hlength (countBreaks (lines.flatMap (· ++ ['\n'])))
  refine ⟨{ ended with process := { ended.process with texts := s.process.texts } },
    .bind .process (.bind hstarted (.ensuring hended (.changeProcess _))),
    ⟨hendedReady.traps, hendedReady.functions, hendedReady.runs, hendedReady.noGroups, hendedReady.output⟩,
    hstatus, ?_⟩
  have hprinted : ended.world = started.print printeds.flatten := hendedWorld
  rw [State.print, hworld] at hprinted
  exact hprinted

theorem toEnd_gives {perform : Perform} {action : Execution Unit} {left : State} (h : Gives action s () left)
    (htraps : left.process.traps = []) : Gives (toEnd perform action) s left.process.status left := by
  refine .bind (.tryCatch _ (.bind h (.bind .process (.pure _)))) (.bind .process ?_)
  rw [htraps]
  exact .pure _

theorem settle_gives {perform : Perform} (h : s.world.waiting = []) : Gives (settle perform) s () s := by
  rw [settle, mostGenerations, settleFrom]
  refine .bind .world ?_
  rw [h]
  exact .pure ()

theorem script_gives (h : List.Forall₂ Says lines printeds) (hready : s.Ready) (hwaiting : s.world.waiting = [])
    (perform : Perform) (hperform : perform = run (n + 2)) : ∃ left,
    Gives (do
      let status ← toEnd perform (perform (.text (lines.flatMap (· ++ ['\n']))))
      settle perform
      return status) s 0 left ∧ left.world = s.print printeds.flatten := by
  subst hperform
  obtain ⟨left, hleft, hleftReady, hstatus, hworld⟩ := runText_prints (n := n) h hready
  have hended : Gives (toEnd (run (n + 2)) (run (n + 2) (.text (lines.flatMap (· ++ ['\n']))))) s
      left.process.status left := toEnd_gives hleft hleftReady.traps
  rw [hstatus] at hended
  have hsettled : left.world.waiting = [] := by
    rw [hworld]
    exact hwaiting
  exact ⟨left, .bind hended (.bind (settle_gives hsettled) (.pure 0)), hworld⟩

end Execution

theorem Setting.ready (setting : Setting) (name : String) :
    State.Ready ⟨setting.world, setting.process name⟩ := by
  refine ⟨rfl, rfl, ?_, ?_, 1, rfl, rfl⟩
  · show "noexec" ∉ "errexit" :: firstOptions
    decide
  · show "extglob" ∉ firstHabits
    decide

theorem run_lines (h : List.Forall₂ Says lines printeds) (setting : Setting) (name text : String)
    (htext : (ofString text).filter (· != '\x00') ++ ['\n'] = lines.flatMap (· ++ ['\n'])) :
    Shell.run setting name text = ⟨0, toBytes printeds.flatten, [], setting.files⟩ := by
  obtain ⟨left, hgives, hworld⟩ :=
    script_gives h (setting.ready name) rfl (Execution.run mostTasks) (show _ = Execution.run (1998 + 2) from rfl)
  rw [Shell.run, htext]
  dsimp only
  rw [Gives] at hgives
  rw [hgives]
  dsimp only
  rw [hworld, State.print]
  dsimp only [Setting.world]
  rw [List.reverseAux_eq, List.append_nil, List.reverse_reverse]
  rfl

end WorkflowScript.Shell
