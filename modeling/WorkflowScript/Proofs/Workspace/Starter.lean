import WorkflowScript.Proofs.Yaml.Build
import WorkflowScript.Proofs.Yaml.Lexer
import WorkflowScript.Proofs.Yaml.Literal
import WorkflowScript.Workspace.Scaffold

namespace WorkflowScript.Creation.Starter

open Document Yaml Lexer

def spelt (text : String) {chars : List Char} (_ : text.toList = chars) : List Char := chars

section Text

variable (job : List Char)

def behindRun : List Char := spelt " |\n          echo Hello from " String.toList_ofList ++ (job ++ ['\n'])

def fromRun : List Char := spelt "- run:" String.toList_ofList ++ behindRun job

def behindUses : List Char := spelt " actions/checkout@v4\n\n      " String.toList_ofList ++ fromRun job

def behindSteps : List Char := spelt "\n      - uses:" String.toList_ofList ++ behindUses job

def fromComment : List Char :=
  spelt "# may use $\x7b\x7b matrix.<name> \x7d\x7d\n\n    steps:" String.toList_ofList ++ behindSteps job

def behindRunner : List Char := spelt " ubuntu-latest   " String.toList_ofList ++ fromComment job

def behindJob : List Char :=
  spelt "\n    # strategy:\n    #   matrix:\n    #     configuration: [Debug, Release]\n\n    runs-on:"
    String.toList_ofList ++ behindRunner job

def behindJobs : List Char := spelt "\n\n  " String.toList_ofList ++ (job ++ ':' :: behindJob job)

def behindTrigger : List Char := spelt "\n\njobs:" String.toList_ofList ++ behindJobs job

def behindOn : List Char :=
  spelt "\n  # push:\n  #   branches: [ \"main\" ]\n  workflow_dispatch:" String.toList_ofList ++ behindTrigger job

def fromOn : List Char := spelt "on:" String.toList_ofList ++ behindOn job

def behindName : List Char := spelt " " String.toList_ofList ++ (job ++ '\n' :: '\n' :: fromOn job)

def text : List Char := spelt "name:" String.toList_ofList ++ behindName job

end Text

theorem toList_line {line : String} {lines : List String} {chars rest : List Char} (hline : line.toList = chars)
    (h : (String.join (lines.map (· ++ "\n"))).toList = rest) :
    (String.join ((line :: lines).map (· ++ "\n"))).toList = chars ++ '\n' :: rest := by
  rw [List.map_cons, String.join_cons, String.toList_append, String.toList_append, hline, h, List.append_assoc]
  rfl

-- The text is compared letter by letter.
set_option maxRecDepth 4000 in
theorem toList_starter (job : String) : (starter job).toList = text job.toList := by
  have hname : ("name: " ++ job).toList = _ ++ job.toList :=
    String.toList_append.trans (congrArg (· ++ _) String.toList_ofList)
  have hkey : ("  " ++ job ++ ":").toList = _ ++ job.toList ++ _ :=
    String.toList_append.trans (congrArg₂ (· ++ ·)
      (String.toList_append.trans (congrArg (· ++ _) String.toList_ofList)) String.toList_ofList)
  have hecho : ("          echo Hello from " ++ job).toList = _ ++ job.toList :=
    String.toList_append.trans (congrArg (· ++ _) String.toList_ofList)
  have hend : (String.join ([].map (· ++ "\n"))).toList = [] := String.toList_ofList
  have hlines : (starter job).toList = _ :=
    toList_line hname <| toList_line String.toList_ofList <| toList_line String.toList_ofList <|
    toList_line String.toList_ofList <| toList_line String.toList_ofList <| toList_line String.toList_ofList <|
    toList_line String.toList_ofList <| toList_line String.toList_ofList <| toList_line String.toList_ofList <|
    toList_line hkey <| toList_line String.toList_ofList <| toList_line String.toList_ofList <|
    toList_line String.toList_ofList <| toList_line String.toList_ofList <| toList_line String.toList_ofList <|
    toList_line String.toList_ofList <| toList_line String.toList_ofList <| toList_line String.toList_ofList <|
    toList_line String.toList_ofList <| toList_line String.toList_ofList <| toList_line hecho hend
  rw [hlines]
  simp only [List.append_assoc]
  rfl

variable {job : List Char}

section Characters

theorem mem_behind (front : List Char) {rest rest' : List Char} {c : Char}
    (h : c ∈ rest → c ∈ job ∨ c ∈ rest') (hc : c ∈ front ++ rest) : c ∈ job ∨ c ∈ front ++ rest' := by
  rcases List.mem_append.mp hc with hc | hc
  · exact .inr (List.mem_append_left rest' hc)
  · exact (h hc).imp_right (List.mem_append_right front)

theorem mem_behind_job {rest rest' : List Char} {c : Char} (h : c ∈ rest → c ∈ job ∨ c ∈ rest')
    (hc : c ∈ job ++ rest) : c ∈ job ∨ c ∈ rest' :=
  (List.mem_append.mp hc).elim .inl h

theorem mem_text {c : Char} (hc : c ∈ text job) : c ∈ job ∨ c ∈ text [] := by
  have hrun : c ∈ behindRun job → c ∈ job ∨ c ∈ behindRun [] :=
    mem_behind _ (mem_behind_job .inr)
  have hbody : c ∈ behindJob job → c ∈ job ∨ c ∈ behindJob [] :=
    mem_behind _ <| mem_behind _ <| mem_behind _ <| mem_behind _ <| mem_behind _ <| mem_behind _ hrun
  have hjobs : c ∈ behindJobs job → c ∈ job ∨ c ∈ behindJobs [] :=
    mem_behind _ (mem_behind_job (mem_behind [':'] hbody))
  have hon : c ∈ fromOn job → c ∈ job ∨ c ∈ fromOn [] :=
    mem_behind _ <| mem_behind _ <| mem_behind _ hjobs
  have hname : c ∈ behindName job → c ∈ job ∨ c ∈ behindName [] :=
    mem_behind _ (mem_behind_job (mem_behind ['\n', '\n'] hon))
  exact mem_behind _ hname hc

theorem printed_text (h : Printed job) : Printed (text job) := by
  have hfixed : Printed (text []) := by decide +kernel
  exact fun c hc => (mem_text hc).elim (h c) (hfixed c)

theorem le_length_behind (front : List Char) {rest : List Char} {n : Nat} (h : n ≤ rest.length) :
    n ≤ (front ++ rest).length := by
  rw [List.length_append]
  omega

theorem length_text (job : List Char) : 24 ≤ (text job).length := by
  have hbody : 24 ≤ (behindJob job).length := by
    refine Nat.le_trans ?_ (List.length_append ▸ Nat.le_add_right _ _)
    decide +kernel
  have hon : 24 ≤ (fromOn job).length :=
    le_length_behind _ <| le_length_behind _ <| le_length_behind _ <| le_length_behind _ <|
      le_length_behind _ <| le_length_behind [':'] hbody
  exact le_length_behind _ <| le_length_behind _ <| le_length_behind _ <| le_length_behind ['\n', '\n'] hon

end Characters

section Fixed

variable (job : List Char) (tokens : List Token) (column : Nat)

theorem reaches_name : Reaches 2 ⟨text job, 0, [], [], true⟩
    ⟨behindName job, 5, [.value, .scalar "name".toList .plain, .key, .blockMapping], [0], false⟩ := by
  have hsettles : Settles ⟨text job, 0, [], [], true⟩
      ⟨"name".toList ++ ':' :: behindName job, 0, [], [], true⟩ := fun _ _ => ⟨_, _, rfl⟩
  exact reaches_key hsettles ⟨.word (by decide) (by decide), rfl, .inr rfl⟩ rfl (by decide)

theorem reaches_on : Reaches 2 ⟨fromOn job, 0, tokens, [0], true⟩
    ⟨behindOn job, 3, .value :: .scalar "on".toList .plain :: .key :: tokens, [0], false⟩ := by
  have hsettles : Settles ⟨fromOn job, 0, tokens, [0], true⟩
      ⟨"on".toList ++ ':' :: behindOn job, 0, tokens, [0], true⟩ := fun _ _ => ⟨_, _, rfl⟩
  exact reaches_key hsettles ⟨.word (by decide) (by decide), rfl, .inr rfl⟩ rfl (by decide)

theorem reaches_trigger : Reaches 2 ⟨behindOn job, 3, tokens, [0], false⟩
    ⟨behindTrigger job, 20, .value :: .scalar "workflow_dispatch".toList .plain :: .key :: .blockMapping ::
      tokens, [2, 0], false⟩ := by
  have hsettles : Settles ⟨behindOn job, 3, tokens, [0], false⟩
      ⟨"workflow_dispatch".toList ++ ':' :: behindTrigger job, 2, tokens, [0], true⟩ := fun _ _ => ⟨_, _, rfl⟩
  exact reaches_key hsettles ⟨.word (by decide) (by decide), rfl, .inl (by decide)⟩ rfl (by decide)

theorem reaches_jobs : Reaches 2 ⟨behindTrigger job, 20, tokens, [2, 0], false⟩
    ⟨behindJobs job, 5, .value :: .scalar "jobs".toList .plain :: .key :: .blockEnd :: tokens,
      [0], false⟩ := by
  have hsettles : Settles ⟨behindTrigger job, 20, tokens, [2, 0], false⟩
      ⟨"jobs".toList ++ ':' :: behindJobs job, 0, .blockEnd :: tokens, [0], true⟩ := fun _ _ => ⟨_, _, rfl⟩
  exact reaches_key hsettles ⟨.word (by decide) (by decide), rfl, .inr rfl⟩ rfl (by decide)

-- The column is some column behind the job's name; the comments before the next key are long.
set_option maxRecDepth 2000 in
theorem reaches_runner : Reaches 2 ⟨behindJob job, column, tokens, [2, 0], false⟩
    ⟨behindRunner job, 12, .value :: .scalar "runs-on".toList .plain :: .key :: .blockMapping :: tokens,
      [4, 2, 0], false⟩ := by
  have hsettles : Settles ⟨behindJob job, column, tokens, [2, 0], false⟩
      ⟨"runs-on".toList ++ ':' :: behindRunner job, 4, tokens, [2, 0], true⟩ := fun _ _ => ⟨_, _, rfl⟩
  exact reaches_key hsettles ⟨.word (by decide) (by decide), rfl, .inl (by decide)⟩ rfl (by decide)

theorem reaches_ubuntu : Reaches 1 ⟨behindRunner job, 12, tokens, [4, 2, 0], false⟩
    ⟨fromComment job, 29, .scalar "ubuntu-latest".toList .plain :: tokens, [4, 2, 0], false⟩ := by
  have hsettles : Settles ⟨behindRunner job, 12, tokens, [4, 2, 0], false⟩
      ⟨"ubuntu-latest".toList ++ ("   ".toList ++ fromComment job), 13, tokens, [4, 2, 0], false⟩ :=
    fun _ _ => ⟨_, _, rfl⟩
  refine reaches_value hsettles ⟨.word (by decide) (by decide), rfl, .inl (by decide)⟩ rfl ?_
  intro m offset row hm
  obtain ⟨k, rfl⟩ : ∃ k, m = k + 1 := ⟨m - 1, by simp at hm; omega⟩
  have hspaces : ∀ c ∈ "   ".toList, isSpace c = true := List.all_eq_true.mp (by decide)
  exact ⟨_, _, Plain.afterRun_comment hspaces (by decide) (by decide)⟩

theorem reaches_steps : Reaches 2 ⟨fromComment job, column, tokens, [4, 2, 0], false⟩
    ⟨behindSteps job, 10, .value :: .scalar "steps".toList .plain :: .key :: tokens, [4, 2, 0], false⟩ := by
  have hsettles : Settles ⟨fromComment job, column, tokens, [4, 2, 0], false⟩
      ⟨"steps".toList ++ ':' :: behindSteps job, 4, tokens, [4, 2, 0], true⟩ := fun _ _ => ⟨_, _, rfl⟩
  exact reaches_key hsettles ⟨.word (by decide) (by decide), rfl, .inl (by decide)⟩ rfl (by decide)

theorem reaches_uses : Reaches 3 ⟨behindSteps job, 10, tokens, [4, 2, 0], false⟩
    ⟨behindUses job, 13, .value :: .scalar "uses".toList .plain :: .key :: .blockMapping :: .blockEntry ::
      .blockSequence :: tokens, [8, 6, 4, 2, 0], false⟩ := by
  have hsettles : Settles ⟨behindSteps job, 10, tokens, [4, 2, 0], false⟩
      ⟨'-' :: ' ' :: ("uses".toList ++ ':' :: behindUses job), 6, tokens, [4, 2, 0], true⟩ :=
    fun _ _ => ⟨_, _, rfl⟩
  exact reaches_entryKey hsettles ⟨.word (by decide) (by decide), rfl, .inl (by decide)⟩ rfl (by decide)

theorem reaches_checkout : Reaches 1 ⟨behindUses job, 13, tokens, [8, 6, 4, 2, 0], false⟩
    ⟨fromRun job, 6, .scalar "actions/checkout@v4".toList .plain :: tokens, [8, 6, 4, 2, 0], true⟩ := by
  have hsettles : Settles ⟨behindUses job, 13, tokens, [8, 6, 4, 2, 0], false⟩
      ⟨"actions/checkout@v4".toList ++ ("\n\n      ".toList ++ fromRun job), 14, tokens, [8, 6, 4, 2, 0],
        false⟩ := fun _ _ => ⟨_, _, rfl⟩
  exact reaches_value hsettles ⟨.word (by decide) (by decide), rfl, .inl (by decide)⟩ rfl
    fun _ _ _ _ => ⟨_, _, rfl⟩

theorem reaches_run : Reaches 3 ⟨fromRun job, 6, tokens, [8, 6, 4, 2, 0], true⟩
    ⟨behindRun job, 12, .value :: .scalar "run".toList .plain :: .key :: .blockMapping :: .blockEntry ::
      .blockEnd :: tokens, [8, 6, 4, 2, 0], false⟩ := by
  have hsettles : Settles ⟨fromRun job, 6, tokens, [8, 6, 4, 2, 0], true⟩
      ⟨'-' :: ' ' :: ("run".toList ++ ':' :: behindRun job), 6, .blockEnd :: tokens, [6, 4, 2, 0], true⟩ :=
    fun _ _ => ⟨_, _, rfl⟩
  exact reaches_entryKey hsettles ⟨.word (by decide) (by decide), rfl, .inl (by decide)⟩ rfl (by decide)

theorem settles_end : Settles ⟨[], 0, tokens, [8, 6, 4, 2, 0], true⟩
    ⟨[], 0, .blockEnd :: .blockEnd :: .blockEnd :: .blockEnd :: tokens, [0], true⟩ :=
  fun _ _ => ⟨_, _, rfl⟩

end Fixed

section Name

theorem reaches_echo (hjob : ∀ c ∈ job, isBreak c = false) (tokens : List Token) :
    Reaches 1 ⟨behindRun job, 12, tokens, [8, 6, 4, 2, 0], false⟩
      ⟨[], 0, .scalar ("echo Hello from ".toList ++ job ++ ['\n']) .block :: tokens, [8, 6, 4, 2, 0], true⟩ := by
  have hfixed : "echo Hello from ".toList.any isBreak = false := by decide
  have hline : ∀ c ∈ "echo Hello from ".toList ++ job, isBreak c = false :=
    List.forall_mem_append.mpr ⟨fun c hc => by simpa using List.any_eq_false.mp hfixed c hc, hjob⟩
  have hsettles : Settles ⟨behindRun job, 12, tokens, [8, 6, 4, 2, 0], false⟩
      ⟨'|' :: '\n' :: (List.replicate 10 ' ' ++ ("echo Hello from ".toList ++ job ++ ['\n'])), 13, tokens,
        [8, 6, 4, 2, 0], false⟩ := fun _ _ => ⟨_, _, rfl⟩
  have hwidth : 8 < 10 := by decide
  exact reaches_literal hsettles (Block.read_literal hwidth hline rfl · · 13)

variable (h : Unquoted job)
include h

theorem reaches_jobValue (tokens : List Token) : Reaches 1 ⟨behindName job, 5, tokens, [0], false⟩
    ⟨fromOn job, 0, .scalar job .plain :: tokens, [0], true⟩ := by
  have hspaces : spacesFrom false false false false 0 (behindName job) = (1, false) :=
    h.spacesFrom_eq ('\n' :: '\n' :: fromOn job) false 1
  have hsettles : Settles ⟨behindName job, 5, tokens, [0], false⟩
      ⟨job ++ '\n' :: '\n' :: fromOn job, 6, tokens, [0], false⟩ :=
    settles_of_spacesFrom hspaces fun _ _ => ⟨_, _, rfl⟩
  exact reaches_value hsettles ⟨h, rfl, .inl (by decide)⟩ rfl fun _ _ _ _ => ⟨_, _, rfl⟩

theorem reaches_jobKey (hreach : Text.bytes job ≤ keyReach) (tokens : List Token) :
    Reaches 2 ⟨behindJobs job, 5, tokens, [0], false⟩
      ⟨behindJob job, 2 + job.length + 1, .value :: .scalar job .plain :: .key :: .blockMapping :: tokens,
        [2, 0], false⟩ := by
  have hspaces : spacesFrom false false false false 0 (behindJobs job) = (4, true) :=
    h.spacesFrom_eq (':' :: behindJob job) true 4
  have hsettles : Settles ⟨behindJobs job, 5, tokens, [0], false⟩
      ⟨job ++ ':' :: behindJob job, 2, tokens, [0], true⟩ :=
    settles_of_spacesFrom hspaces fun _ _ => ⟨_, _, rfl⟩
  exact reaches_key hsettles ⟨h, rfl, .inl (by decide)⟩ rfl hreach

end Name

def tokens (job : List Char) : List Token :=
  [.blockMapping, .key, .scalar "name".toList .plain, .value, .scalar job .plain,
    .key, .scalar "on".toList .plain, .value,
    .blockMapping, .key, .scalar "workflow_dispatch".toList .plain, .value, .blockEnd,
    .key, .scalar "jobs".toList .plain, .value,
    .blockMapping, .key, .scalar job .plain, .value,
    .blockMapping, .key, .scalar "runs-on".toList .plain, .value, .scalar "ubuntu-latest".toList .plain,
    .key, .scalar "steps".toList .plain, .value,
    .blockSequence,
    .blockEntry, .blockMapping, .key, .scalar "uses".toList .plain, .value,
      .scalar "actions/checkout@v4".toList .plain, .blockEnd,
    .blockEntry, .blockMapping, .key, .scalar "run".toList .plain, .value,
      .scalar ("echo Hello from ".toList ++ job ++ ['\n']) .block, .blockEnd,
    .blockEnd, .blockEnd, .blockEnd, .blockEnd]

theorem tokens_text (h : Unquoted job) (hreach : Text.bytes job ≤ keyReach) (hprinted : Printed job) :
    Yaml.tokens (text job) = .ok (tokens job) := by
  have hreaches : Reaches 24 _ _ :=
    (reaches_name job).trans <| (reaches_jobValue h _).trans <| (reaches_on job _).trans <|
    (reaches_trigger job _).trans <| (reaches_jobs job _).trans <| (reaches_jobKey h hreach _).trans <|
    (reaches_runner job _ _).trans <| (reaches_ubuntu job _).trans <| (reaches_steps job _ _).trans <|
    (reaches_uses job _).trans <| (reaches_checkout job _).trans <| (reaches_run job _).trans <|
    reaches_echo h.words.not_isBreak _
  exact tokens_of_reaches (printed_text hprinted) hreaches (settles_end _) (length_text job)

section Tree

variable (α : Type) (job : List Char)

def stepsTree : Yaml.Tree α := .sequence none [
  .mapping none [(.scalar none "uses".toList true, .scalar none "actions/checkout@v4".toList true)],
  .mapping none [(.scalar none "run".toList true,
    .scalar none ("echo Hello from ".toList ++ job ++ ['\n']) false)]]

def bodyTree : Yaml.Tree α := .mapping none [
  (.scalar none "runs-on".toList true, .scalar none "ubuntu-latest".toList true),
  (.scalar none "steps".toList true, stepsTree α job)]

def tree : Yaml.Tree α := .mapping none [
  (.scalar none "name".toList true, .scalar none job true),
  (.scalar none "on".toList true,
    .mapping none [(.scalar none "workflow_dispatch".toList true, .scalar none [] true)]),
  (.scalar none "jobs".toList true, .mapping none [(.scalar none job true, bodyTree α job)])]

end Tree

theorem ofTokens?_tokens (job : List Char) :
    Yaml.Tree.ofTokens? (tokens job) = .ok (some (tree (List Char) job)) := rfl

theorem numbered_tree (job : List Char) :
    Yaml.Tree.numbered [] (tree (List Char) job) = .ok (tree Nat job, []) := rfl

def echoText (job : List Char) : String := .ofList ("echo Hello from ".toList ++ job ++ ['\n'])

def stepsNode (job : List Char) : Node := .sequence [
  .mapping [(.string "uses", .string "actions/checkout@v4")],
  .mapping [(.string "run", .string (echoText job))]]

def bodyNode (job : List Char) : Node := .mapping [
  (.string "runs-on", .string "ubuntu-latest"),
  (.string "steps", stepsNode job)]

def rootNode (job : List Char) (node : Node) : Node := .mapping [
  (.string "name", node),
  (.string "on", .mapping [(.string "workflow_dispatch", .null)]),
  (.string "jobs", .mapping [(node, bodyNode job)])]

theorem builds_word {word : String} (h : Meaning.scalar none true word.toList = .ok (.string word))
    (depth : Nat) : Builds depth (.scalar none word.toList true) (.string word) :=
  .scalar h depth

theorem builds_body (job : List Char) (depth : Nat) : Builds (depth + 3) (bodyTree Nat job) (bodyNode job) := by
  have hsteps : Builds (depth + 2) (stepsTree Nat job) (stepsNode job) :=
    .sequence <| .cons (.mapping (.cons (builds_word rfl _) rfl (builds_word rfl _) (.nil _))) <|
      .cons (.mapping (.cons (builds_word rfl _) rfl (.scalar rfl _) (.nil _))) .nil
  exact .mapping <| .cons (builds_word rfl _) rfl (builds_word rfl _) <|
    .cons (builds_word rfl _) rfl hsteps (.nil _)

theorem builds_tree {node : Node} (h : Meaning.plain job = .ok node) (depth : Nat) :
    Builds (depth + 5) (tree Nat job) (rootNode job node) := by
  have hjob : ∀ depth, Builds depth (.scalar none job true) node := .scalar h
  have htrigger : Builds (depth + 4) (.mapping none [(.scalar none "workflow_dispatch".toList true,
      .scalar none [] true)]) (.mapping [(.string "workflow_dispatch", .null)]) :=
    .mapping (.cons (builds_word rfl _) rfl (.scalar rfl _) (.nil _))
  have hjobs : Builds (depth + 4) (.mapping none [(.scalar none job true, bodyTree Nat job)])
      (.mapping [(node, bodyNode job)]) :=
    .mapping (.cons (hjob _) rfl (builds_body job depth) (.nil _))
  exact .mapping <| .cons (builds_word rfl _) rfl (hjob _) <| .cons (builds_word rfl _) rfl htrigger <|
    .cons (builds_word rfl _) rfl hjobs (.nil _)

theorem toNode_of_failed {fault : Fault} (h : Meaning.plain job = .error fault) :
    (tree Nat job).toNode = .error fault := by
  have hname : Builds 127 (.scalar none "name".toList true) (.string "name") := .scalar rfl _
  have hscalar : Meaning.scalar none true job = .error fault := h
  have hfailed : ∀ targets, Building.node targets depthLimit (tree Nat job) 0 = .error fault :=
    fun targets => mapping_of_failed hname (scalar_of_failed hscalar) targets 0
  rw [Yaml.Tree.toNode, StateT.run', hfailed]
  rfl

theorem read_starter {job : String} (h : Unquoted job.toList) (hreach : Text.bytes job.toList ≤ keyReach)
    (hprinted : Printed job.toList) :
    Yaml.read (starter job) = (Meaning.plain job.toList).map (rootNode job.toList) := by
  rw [Yaml.read, toList_starter, tokens_text h hreach hprinted]
  simp only [bind, Except.bind, ofTokens?_tokens, numbered_tree]
  cases hplain : Meaning.plain job.toList with
  | error fault => exact toNode_of_failed hplain
  | ok node => exact toNode_of_builds (builds_tree hplain 123)

end WorkflowScript.Creation.Starter
