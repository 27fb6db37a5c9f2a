import WorkflowScript.Proofs.Script.StepLines
import WorkflowScript.Proofs.Script.Success
import WorkflowScript.Proofs.Script.Targets
import WorkflowScript.Proofs.Template.Expression

namespace WorkflowScript

open Outcome

namespace Script

def fixedLines : List String := ["", "echo inputs:", rule '=', rule '-']

/-- What a line of a script is made of: the texts of the document that it repeats, none for a line of
a step and for a line that is always the same. -/
inductive Repeats (workflow : Workflow) (options : Options) : Marked → List String → Prop
  | fixed {line : String} (h : line ∈ fixedLines) :
      Repeats workflow options (.frame, line) []
  | input {entry : String × Input} (h : entry ∈ (InputTable.ofRoot workflow.root).toList) :
      Repeats workflow options (.frame, inputLine entry) [entry.1, entry.2.text]
  | job {job : Job} (h : job ∈ declaredJobs workflow.root) (count : Nat) :
      Repeats workflow options
        (.frame, "echo job '" ++ job.name ++ "': matrix count=" ++ toString count) [job.name]
  | combination {job : Job} {combination : Combination} (h : job ∈ declaredJobs workflow.root)
      (hretained : Retained options job combination) :
      Repeats workflow options (.frame, "echo " ++ sectionTitle job combination)
        (job.name :: combination.pairs.flatMap fun pair => [pair.1, pair.2])
  | runner {job : Job} {combination : Combination} {label : String}
      (h : job ∈ declaredJobs workflow.root) (hretained : Retained options job combination)
      (hlabel : Runner.resolve job ⟨InputTable.ofRoot workflow.root, combination⟩ = .ok label)
      (hunsupported : Runner.isSupported label = false) :
      Repeats workflow options (.frame, "echo Unsupported runner: " ++ label) [label]
  | step {job : Job} {combination : Combination} {runs : List String} {fragments : List (List String)}
      {line : String} (h : job ∈ declaredJobs workflow.root) (hruns : job.runs = .ok runs)
      (hretained : Retained options job combination)
      (hsteps : steps options.target ⟨InputTable.ofRoot workflow.root, combination⟩ runs = .ok fragments)
      (hline : line ∈ fragments.flatten) : Repeats workflow options (.step, line) []

variable {workflow : Workflow} {options : Options}

theorem mem_framed {lines : List String} {marked : Marked} (h : marked ∈ framed lines) :
    ∃ line ∈ lines, marked = (.frame, line) := by
  obtain ⟨line, hline, rfl⟩ := List.mem_map.mp h
  exact ⟨line, hline, rfl⟩

theorem mem_sectionBanner {title line : String} (h : line ∈ Section.banner title) :
    line ∈ fixedLines ∨ line = "echo " ++ title := by
  simp only [Section.banner, List.mem_cons, List.not_mem_nil, or_false] at h
  rcases h with h | h | h | h | h | h <;> simp [fixedLines, h]

theorem mem_jobBanner {job line : String} {count : Nat} (h : line ∈ JobBlock.banner job count) :
    line ∈ fixedLines ∨ line = "echo job '" ++ job ++ "': matrix count=" ++ toString count := by
  simp only [JobBlock.banner, List.mem_cons, List.not_mem_nil, or_false] at h
  rcases h with h | h | h | h | h <;> simp [fixedLines, h]

theorem repeats_of_mem_inputLines {line : String}
    (h : line ∈ inputLines (InputTable.ofRoot workflow.root)) :
    ∃ texts, Repeats workflow options (.frame, line) texts := by
  rw [inputLines] at h
  split at h
  · cases h
  · rcases List.mem_cons.mp h with rfl | h
    · exact ⟨_, .fixed (by simp [fixedLines])⟩
    · obtain ⟨entry, hentry, rfl⟩ := List.mem_map.mp h
      exact ⟨_, .input ((NameTable.sorted_perm _).mem_iff.mp hentry)⟩

theorem repeats_of_mem_section {job : Job} {combination : Combination} {runs : List String}
    {part : Section} (hjob : job ∈ declaredJobs workflow.root) (hruns : job.runs = .ok runs)
    (hretained : Retained options job combination)
    (hpart : sectionFor options.target (InputTable.ofRoot workflow.root) job runs combination = .ok part)
    {marked : Marked} (h : marked ∈ part.marked) : ∃ texts, Repeats workflow options marked texts := by
  obtain ⟨label, hlabel, hbody⟩ := sectionFor_eq_ok_iff.mp hpart
  have htitle : part.title = sectionTitle job combination := by
    rcases hbody with ⟨-, fragments, -, rfl⟩ | ⟨-, rfl⟩ <;> rfl
  rcases List.mem_append.mp h with h | h
  · obtain ⟨line, hline, rfl⟩ := mem_framed h
    rw [htitle] at hline
    rcases mem_sectionBanner hline with hfixed | rfl
    · exact ⟨_, .fixed hfixed⟩
    · exact ⟨_, .combination hjob hretained⟩
  · rcases hbody with ⟨-, fragments, hsteps, rfl⟩ | ⟨hunsupported, rfl⟩
    · obtain ⟨line, hline, rfl⟩ := List.mem_map.mp h
      exact ⟨_, .step hjob hruns hretained hsteps hline⟩
    · obtain ⟨line, hline, rfl⟩ := List.mem_map.mp h
      cases List.mem_singleton.mp hline
      exact ⟨_, .runner hjob hretained hlabel hunsupported⟩

theorem repeats_of_mem_block {job : Job} {block : JobBlock} (hjob : job ∈ declaredJobs workflow.root)
    (hblock : blockFor options (InputTable.ofRoot workflow.root) job = .ok (some block))
    {marked : Marked} (h : marked ∈ block.marked) : ∃ texts, Repeats workflow options marked texts := by
  rcases List.mem_append.mp h with h | h
  · obtain ⟨line, hline, rfl⟩ := mem_framed h
    rw [name_of_blockFor hblock] at hline
    rcases mem_jobBanner hline with hfixed | rfl
    · exact ⟨_, .fixed hfixed⟩
    · exact ⟨_, .job hjob block.count⟩
  · obtain ⟨part, hpart, h⟩ := List.mem_flatMap.mp h
    obtain ⟨runs, combination, hruns, hretained, hok⟩ := exists_combination_of_mem_sections hblock hpart
    exact repeats_of_mem_section hjob hruns hretained hok h

theorem repeats_of_compile_ok {script : Script} (h : workflow.compile options = .ok script) :
    ∀ marked ∈ script.content, ∃ texts, Repeats workflow options marked texts := by
  intro marked hmem
  rcases List.mem_append.mp hmem with hmem | hmem
  · have hinputs : script.inputs = InputTable.ofRoot workflow.root := by
      obtain ⟨table, blocks, -, -, -, rfl⟩ := Workflow.compile_eq_ok_iff.mp h
      rfl
    obtain ⟨line, hline, rfl⟩ := mem_framed hmem
    rw [hinputs] at hline
    exact repeats_of_mem_inputLines hline
  · obtain ⟨block, hblock, hmem⟩ := List.mem_flatMap.mp hmem
    obtain ⟨job, hjob, hok⟩ := exists_job_of_mem_blocks h hblock
    exact repeats_of_mem_block hjob hok hmem

theorem hasExpression_describe (combination : Combination) :
    HasExpression combination.describe ↔
      ∃ pair ∈ combination.pairs, HasExpression pair.1 ∨ HasExpression pair.2 := by
  rw [Combination.describe]
  cases hempty : combination.values.isEmpty with
  | true =>
    have hnil : combination.pairs = [] := List.isEmpty_iff.mp hempty
    have hplain : ¬ HasExpression "no matrix" := not_hasExpression_of_notMem (by simp)
    simpa [hnil] using hplain
  | false =>
    rw [if_neg Bool.false_ne_true, hasExpression_intercalate]
    simp only [List.mem_map, exists_exists_and_eq_and]
    refine exists_congr fun pair => and_congr_right fun _ => ?_
    rw [String.append_assoc, hasExpression_append_of_head (by simp),
      hasExpression_append_of_notMem (by simp)]

theorem hasExpression_inputLine (entry : String × Input) :
    HasExpression (inputLine entry) ↔ HasExpression entry.1 ∨ HasExpression entry.2.text := by
  rw [inputLine, String.append_assoc, String.append_assoc, hasExpression_append_of_notMem (by simp),
    hasExpression_append_of_head (by simp), hasExpression_append_of_notMem (by simp)]

theorem hasExpression_jobLine (job : String) (count : Nat) :
    HasExpression ("echo job '" ++ job ++ "': matrix count=" ++ toString count) ↔
      HasExpression job := by
  rw [String.append_assoc, String.append_assoc, hasExpression_append_of_notMem (by simp),
    hasExpression_append_of_head (by simp), hasExpression_append_of_notMem (by simp),
    or_iff_left (not_hasExpression_of_notMem (dollar_notMem_toString count))]

theorem hasExpression_title (job : Job) (combination : Combination) :
    HasExpression (sectionTitle job combination) ↔ HasExpression job.name ∨
      ∃ pair ∈ combination.pairs, HasExpression pair.1 ∨ HasExpression pair.2 := by
  rw [sectionTitle, String.append_assoc, hasExpression_append_of_head (by simp),
    hasExpression_append_of_notMem (by simp), hasExpression_describe]

theorem dollar_notMem_rule {c : Char} (h : c ≠ '$') : '$' ∉ (rule c).toList := by
  simp [rule, List.mem_replicate, Ne.symm h]

theorem not_hasExpression_of_fixed {line : String} (h : line ∈ fixedLines) : ¬ HasExpression line := by
  apply not_hasExpression_of_notMem
  simp only [fixedLines, List.mem_cons, List.not_mem_nil, or_false] at h
  rcases h with rfl | rfl | rfl | rfl
  · simp
  · simp
  · exact dollar_notMem_rule (by decide)
  · exact dollar_notMem_rule (by decide)

theorem hasExpression_iff_of_repeats {marked : Marked} {texts : List String}
    (h : Repeats workflow options marked texts) :
    HasExpression marked.2 ↔ ∃ text ∈ texts, HasExpression text := by
  cases h with
  | fixed h => simpa using not_hasExpression_of_fixed h
  | @input entry h => simpa using hasExpression_inputLine entry
  | @job job h count => simpa using hasExpression_jobLine job.name count
  | @combination job combination h hretained =>
    rw [hasExpression_append_of_notMem (by simp), hasExpression_title]
    simp only [List.mem_cons, List.mem_flatMap, List.not_mem_nil, or_false, exists_eq_or_imp]
    constructor
    · rintro (hname | ⟨pair, hpair, hleft | hright⟩)
      · exact .inl hname
      · exact .inr ⟨pair.1, ⟨pair, hpair, .inl rfl⟩, hleft⟩
      · exact .inr ⟨pair.2, ⟨pair, hpair, .inr rfl⟩, hright⟩
    · rintro (hname | ⟨text, ⟨pair, hpair, rfl | rfl⟩, htext⟩)
      · exact .inl hname
      · exact .inr ⟨pair, hpair, .inl htext⟩
      · exact .inr ⟨pair, hpair, .inr htext⟩
  | runner h hretained hlabel hunsupported =>
    rw [hasExpression_append_of_notMem (by simp)]
    simp
  | step h hruns hretained hsteps hline =>
    simpa using not_hasExpression_of_numbered (numbered_of_steps_ok hsteps _ hline)

theorem not_hasExpression_around {options : Options} {line : String}
    (h : line ∈ preamble options ++ footer options.target) : ¬ HasExpression line := by
  have hplain : ∀ target failFast, ∀ line ∈ preamble ⟨target, options.onceOnly, failFast⟩ ++ footer target,
      '$' ∉ line.toList := by
    intro target failFast
    cases target <;> cases failFast <;> simp [preamble, footer, errorStatus] <;> decide
  exact not_hasExpression_of_notMem (hplain options.target options.failFast line h)

end Script

namespace Workflow

open Script

theorem expressions_only_repeated {workflow : Workflow} {options : Options} {script : Script}
    (h : workflow.compile options = .ok script) :
    script.lines = preamble options ++ script.content.map Prod.snd ++ footer options.target ∧
    (∀ line ∈ preamble options ++ footer options.target, ¬ HasExpression line) ∧
    (∀ line, (.step, line) ∈ script.content → Line.Numbered line.toList ∧ ¬ HasExpression line) ∧
    ∀ marked ∈ script.content, ∃ texts, Repeats workflow options marked texts ∧
      (HasExpression marked.2 → ∃ text ∈ texts, HasExpression text) := by
  have hcontent := repeats_of_compile_ok h
  refine ⟨?_, fun line => not_hasExpression_around, ?_, ?_⟩
  · obtain ⟨table, blocks, -, -, -, rfl⟩ := compile_eq_ok_iff.mp h
    exact lines_eq_content _
  · intro line hline
    obtain ⟨texts, hrepeats⟩ := hcontent _ hline
    cases hrepeats with
    | step _ _ _ hsteps hmem =>
      have hnumbered := numbered_of_steps_ok hsteps line hmem
      exact ⟨hnumbered, not_hasExpression_of_numbered hnumbered⟩
  · intro marked hmarked
    obtain ⟨texts, hrepeats⟩ := hcontent marked hmarked
    exact ⟨texts, hrepeats, (hasExpression_iff_of_repeats hrepeats).mp⟩

def labelled : Job :=
  ⟨"build", .mapping [(.string "strategy", .mapping [(.string "matrix", .mapping
      [(.string "label", .sequence [.string "$\x7b\x7b github.sha \x7d\x7d"])])]),
    (.string "runs-on", .string "ubuntu-latest"),
    (.string "steps", .sequence [.mapping [(.string "run", .string "echo $1")]])]⟩

theorem expressions_of_labelled : ∃ script,
    (ofJobs [labelled]).compile (.forTarget .shell) = .ok script ∧
    (.step, "echo $1") ∈ script.content ∧ ¬ HasExpression "echo $1" ∧
    (.frame, "echo build: label=\"$\x7b\x7b github.sha \x7d\x7d\"") ∈ script.content ∧
    ∃ texts, Repeats (ofJobs [labelled]) (.forTarget .shell)
        (.frame, "echo build: label=\"$\x7b\x7b github.sha \x7d\x7d\"") texts ∧
      ∃ text ∈ texts, HasExpression text := by
  have hcontent : ((ofJobs [labelled]).compile (.forTarget .shell)).map Script.content = .ok
      (framed ["", "", rule '=', "echo job 'build': matrix count=1", rule '=', "", "", rule '-',
        "echo build: label=\"$\x7b\x7b github.sha \x7d\x7d\"", rule '-', ""] ++
        [(.step, "echo $1")]) := by
    decide +kernel
  obtain ⟨script, hscript, hlines⟩ := map_eq_ok_iff.mp hcontent
  obtain ⟨-, -, hsteps, hall⟩ := expressions_only_repeated hscript
  have hstep : (.step, "echo $1") ∈ script.content := by simp [hlines]
  have hbanner : (.frame, "echo build: label=\"$\x7b\x7b github.sha \x7d\x7d\"") ∈ script.content := by
    simp [hlines, framed]
  obtain ⟨texts, hrepeats, htexts⟩ := hall _ hbanner
  refine ⟨script, hscript, hstep, (hsteps _ hstep).2, hbanner, texts, hrepeats, htexts ?_⟩
  exact ⟨"echo build: label=\"".toList, " github.sha \x7d\x7d\"".toList, by decide +kernel⟩

def foreignJob : Document.Node :=
  .mapping [(.string "strategy", .mapping [(.string "matrix", .mapping
      [(.string "os", .sequence [.string "$\x7b\x7bgithub.runner\x7d\x7d"])])]),
    (.string "runs-on", .string "$\x7b\x7b matrix.os \x7d\x7d"),
    (.string "steps", .sequence [.mapping [(.string "run", .string "echo hi")]])]

def foreign : Workflow :=
  ⟨.mapping [(.string "on", .mapping [(.string "workflow_call", .mapping [(.string "inputs", .mapping
      [(.string "rev", .mapping [(.string "default", .string "$\x7b\x7bgithub.sha\x7d\x7d")])])])]),
    (.string "jobs", .mapping [(.string "$\x7b\x7bgithub.job\x7d\x7d", foreignJob)])], rfl⟩

theorem compile_foreign : ∃ script, foreign.compile (.forTarget .shell) = .ok script ∧
    ∀ line ∈ ["echo   rev=$\x7b\x7bgithub.sha\x7d\x7d",
        "echo job '$\x7b\x7bgithub.job\x7d\x7d': matrix count=1",
        "echo $\x7b\x7bgithub.job\x7d\x7d: os=$\x7b\x7bgithub.runner\x7d\x7d",
        "echo Unsupported runner: $\x7b\x7bgithub.runner\x7d\x7d"],
      line ∈ script.lines ∧ HasExpression line := by
  have hlines : (foreign.compile (.forTarget .shell)).map Script.lines = .ok
      ["set -e", "", "echo inputs:", "echo   rev=$\x7b\x7bgithub.sha\x7d\x7d", "", "", rule '=',
        "echo job '$\x7b\x7bgithub.job\x7d\x7d': matrix count=1", rule '=', "", "", rule '-',
        "echo $\x7b\x7bgithub.job\x7d\x7d: os=$\x7b\x7bgithub.runner\x7d\x7d", rule '-', "",
        "echo Unsupported runner: $\x7b\x7bgithub.runner\x7d\x7d"] := by
    decide +kernel
  obtain ⟨script, hscript, hlines⟩ := map_eq_ok_iff.mp hlines
  refine ⟨script, hscript, fun line hline => ⟨?_, ?_⟩⟩
  · rw [hlines]
    simp only [List.mem_cons, List.not_mem_nil, or_false] at hline
    rcases hline with rfl | rfl | rfl | rfl <;> simp
  · revert line
    decide +kernel

end Workflow

end WorkflowScript
