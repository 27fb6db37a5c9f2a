import WorkflowScript.Shell.Options
import WorkflowScript.Shell.Parameter
import WorkflowScript.Shell.Quote

namespace WorkflowScript.Shell.Execution

def optionNames : List String :=
  ["allexport", "braceexpand", "emacs", "errexit", "errtrace", "functrace", "hashall", "histexpand", "history",
    "ignoreeof", "interactive-comments", "keyword", "monitor", "noclobber", "noexec", "noglob", "nolog",
    "notify", "nounset", "onecmd", "physical", "pipefail", "posix", "privileged", "verbose", "vi", "xtrace"]

structure SetRequest where
  changes : List (String × Bool)
  lists : Option Bool
  arguments : Option (List Chars)

inductive SetFault where
  | letter (c : Char)
  | name (name : Chars)

def setLetters (isOn : Bool) : Chars → List Chars → Except SetFault (SetRequest × List Chars)
  | [], words => .ok (⟨[], none, none⟩, words)
  | 'o' :: letters, [] => (setLetters isOn letters []).map fun r => ({ r.1 with lists := some !isOn }, r.2)
  | 'o' :: letters, name :: words =>
    if optionNames.contains (.ofList name) then
      (setLetters isOn letters words).map fun r =>
        ({ r.1 with changes := (.ofList name, isOn) :: r.1.changes }, r.2)
    else .error (.name name)
  | c :: letters, words =>
    match optionLetters.find? (·.2 == c) with
    | some option =>
      (setLetters isOn letters words).map fun r => ({ r.1 with changes := (option.1, isOn) :: r.1.changes }, r.2)
    | none => .error (.letter c)

def setRequest : Nat → List Chars → Except SetFault SetRequest
  | 0, _ => .ok ⟨[], none, none⟩
  | _ + 1, [] => .ok ⟨[], none, none⟩
  | n + 1, word :: words =>
    match word with
    | ['-', '-'] => .ok ⟨[], none, some words⟩
    | ['-'] => .ok ⟨[("xtrace", false), ("verbose", false)], none, if words.isEmpty then none else some words⟩
    | mark :: c :: letters =>
      if mark = '-' ∨ mark = '+' then do
        let (request, rest) ← setLetters (mark == '-') (c :: letters) words
        let more ← setRequest n rest
        return ⟨request.changes ++ more.changes, request.lists.or more.lists, more.arguments⟩
      else .ok ⟨[], none, some (word :: words)⟩
    | word => .ok ⟨[], none, some (word :: words)⟩

def padRight (width : Nat) (text : String) : String :=
  text ++ .ofList (List.replicate (width - text.length) ' ')

def listOptions (asCommands : Bool) : Execution Unit := do
  for name in optionNames do
    let isOn ← hasOption name
    printString <|
      if asCommands then "set " ++ (if isOn then "-o " else "+o ") ++ name ++ "\n"
      else padRight 15 name ++ "\t" ++ (if isOn then "on\n" else "off\n")

def listedValue (text : Chars) : Chars :=
  if text.any fun c => c < ' ' || '\x7f' ≤ c then Quote.withBackslashes.ansi text
  else if text.any fun c => " '\"\\|&;()<>!\x7b\x7d*[]?^$\x60~#".toList.contains c then Quote.inQuotes text
  else text

def listVariables : Execution Unit := do
  let sorted := (← process).store.mergeSort fun a b => !decide (b.1 < a.1)
  for (name, v) in sorted do
    match v.value.bind valueText with
    | some text => printLine (name ++ '=' :: listedValue text)
    | none => pure ()

def set (words : List Chars) : Execution Nat := do
  if words.isEmpty then
    listVariables
    return 0
  match setRequest (words.length + 1) words with
  | .error (.letter c) =>
    complainOf "set" (['-', c] ++ ": invalid option".toList)
    return 2
  | .error (.name name) =>
    complainOf "set" (name ++ ": invalid option name".toList)
    return 2
  | .ok request =>
    for (name, isOn) in request.changes do setOption name isOn
    match request.lists with
    | some asCommands => listOptions asCommands
    | none => pure ()
    match request.arguments with
    | some arguments => changeProcess fun p => { p with arguments := arguments }
    | none => pure ()
    return 0

def habitNames : List String :=
  ["autocd", "assoc_expand_once", "cdable_vars", "cdspell", "checkhash", "checkjobs", "checkwinsize", "cmdhist",
    "compat31", "compat32", "compat40", "compat41", "compat42", "compat43", "compat44", "complete_fullquote",
    "direxpand", "dirspell", "dotglob", "execfail", "expand_aliases", "extdebug", "extglob", "extquote",
    "failglob", "force_fignore", "globasciiranges", "globskipdots", "globstar", "gnu_errfmt", "histappend",
    "histreedit", "histverify", "hostcomplete", "huponexit", "inherit_errexit", "interactive_comments",
    "lastpipe", "lithist", "localvar_inherit", "localvar_unset", "login_shell", "mailwarn",
    "no_empty_cmd_completion", "nocaseglob", "nocasematch", "noexpand_translation", "nullglob",
    "patsub_replacement", "progcomp", "progcomp_alias", "promptvars", "restricted_shell", "shift_verbose",
    "sourcepath", "varredir_close", "xpg_echo"]

def firstHabits : List String :=
  ["checkwinsize", "cmdhist", "complete_fullquote", "extquote", "force_fignore", "globasciiranges",
    "globskipdots", "hostcomplete", "interactive_comments", "login_shell", "patsub_replacement", "progcomp",
    "promptvars", "sourcepath"]

def showSwitch (asCommand : Bool) (command name : String) (isOn : Bool) : Execution Unit :=
  printString <|
    if asCommand then command ++ (if isOn then " -s " else " -u ") ++ name ++ "\n"
    else padRight 15 name ++ "\t" ++ (if isOn then "on\n" else "off\n")

def shopt (words : List Chars) : Execution Nat := do
  match Options.read (.first "suqpo" "") words with
  | .error _ =>
    complainOf "shopt" "invalid option".toList
    return 2
  | .ok options =>
    let ofSet := options.has 'o'
    let names := if ofSet then optionNames else habitNames
    let isOn (name : String) : Execution Bool := if ofSet then hasOption name else hasHabit name
    if options.has 's' && options.has 'u' then
      complainOf "shopt" "cannot set and unset shell options simultaneously".toList
      return 1
    let present (name : String) : Execution Unit := do
      if options.has 'p' then
        if ofSet then printString ("set " ++ (if ← isOn name then "-o " else "+o ") ++ name ++ "\n")
        else showSwitch true "shopt" name (← isOn name)
      else showSwitch false "shopt" name (← isOn name)
    if options.operands.isEmpty then
      for name in names do
        let shown ← isOn name
        if (options.has 's' && !shown) || (options.has 'u' && shown) then pure () else present name
      return 0
    let done ← options.operands.mapM fun word => do
      let name := String.ofList word
      if !names.contains name then
        complainOf "shopt" (word ++ (if ofSet then ": invalid option name" else ": invalid shell option name").toList)
        return false
      if options.has 's' || options.has 'u' then
        if ofSet then setOption name (options.has 's') else setHabit name (options.has 's')
        return true
      else
        unless options.has 'q' do present name
        isOn name
    return if done.all id then 0 else 1

def signalNames : List String :=
  ["HUP", "INT", "QUIT", "ILL", "TRAP", "ABRT", "BUS", "FPE", "KILL", "USR1", "SEGV", "USR2", "PIPE", "ALRM", "TERM",
    "STKFLT", "CHLD", "CONT", "STOP", "TSTP", "TTIN", "TTOU", "URG", "XCPU", "XFSZ", "VTALRM", "PROF",
    "WINCH", "IO", "PWR", "SYS"]

def eventNames : List String := ["DEBUG", "ERR", "RETURN"]

def signalOfNumber? (n : Nat) : Option String :=
  if n = 0 then some "EXIT" else (signalNames[n - 1]?).map ("SIG" ++ ·)

def trapName? (word : Chars) : Option String :=
  match Text.digits? 10 word with
  | some n => signalOfNumber? n
  | none =>
    let name := String.ofList (word.map Char.toUpper)
    let short := if "SIG".isPrefixOf name then (name.drop 3).toString else name
    if name = "EXIT" then some name
    else if eventNames.contains name then some name
    else if signalNames.contains short then some ("SIG" ++ short)
    else none

def trapOrder : List String := "EXIT" :: signalNames.map ("SIG" ++ ·) ++ eventNames

def showTrap (name : String) : Execution Unit := do
  match (← process).traps.lookup name with
  | some text => printLine ("trap -- ".toList ++ Quote.inQuotes text ++ ' ' :: name.toList)
  | none => pure ()

def setTrap (name : String) (text : Option Chars) : Execution Unit :=
  changeProcess fun p =>
    let others := p.traps.filter (·.1 != name)
    { p with traps := match text with
        | some text => (name, text) :: others
        | none => others }

def forSignals (words : List Chars) (act : String → Execution Unit) : Execution Nat := do
  let done ← words.mapM fun word => do
    match trapName? word with
    | some name =>
      act name
      return true
    | none =>
      complainOf "trap" (word ++ ": invalid signal specification".toList)
      return false
  return if done.all id then 0 else 1

def trapUsage : Execution Nat := do
  complain "trap: usage: trap [-lp] [[arg] signal_spec ...]".toList
  return 2

def trap (words : List Chars) : Execution Nat := do
  match Options.read (.first "lp" "") words with
  | .error _ =>
    complainOf "trap" "invalid option".toList
    trapUsage
  | .ok options =>
    if options.has 'l' then
      for (name, i) in signalNames.zipIdx do printLine (ofNat (i + 1) ++ ") SIG".toList ++ name.toList)
      return 0
    match options.operands with
    | [] =>
      for name in trapOrder do showTrap name
      return 0
    | first :: rest =>
      if options.has 'p' then forSignals (first :: rest) showTrap
      else if rest.isEmpty then
        if (trapName? first).isSome then forSignals [first] fun name => setTrap name none else trapUsage
      else if first = ['-'] ∨ first.all Char.isDigit = true ∧ first ≠ [] then
        let names := if first = ['-'] then rest else first :: rest
        forSignals names fun name => setTrap name none
      else forSignals rest fun name => setTrap name (some first)

end WorkflowScript.Shell.Execution
