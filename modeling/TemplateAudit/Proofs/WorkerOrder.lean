import TemplateAudit.Engine
import TemplateAudit.Proofs.Results

namespace TemplateAudit

/-! # The workers do not show in a report

A worker takes every job whose number leaves a certain remainder (`Schedule.share_numbered`). The
remainders below the number of workers cut the numbers of the jobs into disjoint parts
(`Schedule.deal_perm`), so whatever is handed in, in whatever order, is one result for each job
(`Schedule.handed_perm`). Each result carries the number of its job, so all slots are filled with
the right results (`Schedule.gather_eq`). What an engine reports is therefore the same as if it had
walked through its rules and evaluated each of them alone (`Engine.analyzeIn_eq_walk`).
-/

namespace Schedule

variable {α β : Type}

/-! ## Dealing out -/

/-- The jobs of a list with their numbers. -/
def numbered (jobs : List α) : List (Nat × α) :=
  jobs.zipIdx.map fun (job, position) => (position, job)

/-- The number of a job is its position. -/
theorem mem_numbered {jobs : List α} {position : Nat} {job : α} :
    (position, job) ∈ numbered jobs ↔ jobs[position]? = some job := by
  rw [numbered, List.mem_map, ← List.mem_zipIdx_iff_getElem? (x := (job, position))]
  constructor
  · rintro ⟨pair, hmem, hpair⟩
    rcases Prod.mk.inj hpair with ⟨rfl, rfl⟩
    exact hmem
  · intro hmem
    exact ⟨(job, position), hmem, rfl⟩

/-- Jobs are numbered from zero on. -/
theorem numbers_eq (jobs : List α) : (numbered jobs).map Prod.fst = List.range jobs.length := by
  have hsnd := List.zipIdx_map_snd 0 jobs
  rw [List.range_eq_range', ← hsnd]
  simp [numbered, Function.comp_def]

/-- Passing over jobs before taking one is the same as leaving them out first. -/
theorem takeEvery_drop (step passed : Nat) (jobs : List α) :
    takeEvery step 0 (jobs.drop passed) = takeEvery step passed jobs := by
  induction passed generalizing jobs with
  | zero => rfl
  | succ passed ih =>
      cases jobs with
      | nil => rfl
      | cons job rest => rw [List.drop_succ_cons, takeEvery, ih]

/-- Of jobs that are numbered on from `start` a stride takes those whose numbers leave the remainder
of the first one that it takes. -/
theorem takeEvery_zipIdx {step passed : Nat} (h : passed < step) (jobs : List α) (start : Nat) :
    takeEvery step passed ((jobs.zipIdx start).map fun (job, position) => (position, job)) =
      ((jobs.zipIdx start).map fun (job, position) => (position, job)).filter
        fun job => job.1 % step = (start + passed) % step := by
  -- over the jobs, with the number of the next one and how many are still to be passed over
  induction jobs generalizing start passed with
  | nil => cases passed <;> rfl
  | cons job rest ih =>
      rw [List.zipIdx_cons, List.map_cons]
      cases passed with
      | zero =>
          -- the job is taken, and the next one of its remainder is `step` jobs further on
          have hnext : (start + 1 + (step - 1)) % step = start % step := by
            have hround : start + 1 + (step - 1) = start + step := by omega
            rw [hround, Nat.add_mod_right]
          rw [takeEvery, ih (by omega), hnext, List.filter_cons_of_pos (by simp)]
          rfl
      | succ passed =>
          -- the job is passed over, for fewer than `step` jobs on there is no second one
          have hother : ¬ start % step = (start + (passed + 1)) % step := by
            intro hsame
            have hzero := Nat.sub_mod_eq_zero_of_mod_eq hsame.symm
            rw [Nat.add_sub_cancel_left, Nat.mod_eq_of_lt h] at hzero
            cases hzero
          rw [takeEvery, ih (by omega), List.filter_cons_of_neg (by simpa using hother)]
          congr 2
          funext other
          rw [Nat.add_right_comm, Nat.add_assoc start passed]

/-- The share of a worker are the jobs whose numbers leave its own number as a remainder. -/
theorem share_numbered {workers worker : Nat} (h : worker < workers) (jobs : List α) :
    share workers worker (numbered jobs) =
      (numbered jobs).filter fun job => job.1 % workers = worker := by
  rw [share, stride, takeEvery_drop, numbered, takeEvery_zipIdx h, Nat.zero_add,
    Nat.mod_eq_of_lt h]

/-- The first remainders together are left by the jobs that leave a small one. -/
theorem remainders_perm (workers : Nat) (jobs : List (Nat × α)) (first : Nat) :
    ((List.range first).map fun worker =>
      jobs.filter fun job => job.1 % workers = worker).flatten.Perm
        (jobs.filter fun job => job.1 % workers < first) := by
  induction first with
  | zero => simp
  | succ first ih =>
      -- of the remainders up to `first` one worker more gets exactly the greatest
      have hlower : (jobs.filter fun job => job.1 % workers < first + 1).filter
          (fun job => decide (job.1 % workers < first)) =
            jobs.filter fun job => job.1 % workers < first := by
        rw [List.filter_filter]
        apply List.filter_congr
        intro job _
        rw [Bool.eq_iff_iff, Bool.and_eq_true, decide_eq_true_iff, decide_eq_true_iff]
        omega
      have hgreatest : (jobs.filter fun job => job.1 % workers < first + 1).filter
          (fun job => !decide (job.1 % workers < first)) =
            jobs.filter fun job => job.1 % workers = first := by
        rw [List.filter_filter]
        apply List.filter_congr
        intro job _
        rw [Bool.eq_iff_iff, Bool.and_eq_true, Bool.not_eq_true', decide_eq_false_iff_not,
          decide_eq_true_iff, decide_eq_true_iff]
        omega
      have hsplit := List.filter_append_perm (fun job => decide (job.1 % workers < first))
        (jobs.filter fun job => job.1 % workers < first + 1)
      rw [hlower, hgreatest] at hsplit
      rw [List.range_succ, List.map_append, List.flatten_append, List.map_singleton,
        List.flatten_singleton]
      exact (ih.append_right _).trans hsplit

/-- All workers together have every job once. -/
theorem deal_perm {workers : Nat} (h : 0 < workers) (jobs : List α) :
    (deal workers jobs).flatten.Perm (numbered jobs) := by
  have hall : (numbered jobs).filter (fun job => job.1 % workers < workers) = numbered jobs := by
    rw [List.filter_eq_self]
    intro job _
    exact decide_eq_true (Nat.mod_lt job.1 h)
  have hshares : deal workers jobs = (List.range workers).map fun worker =>
      (numbered jobs).filter fun job => job.1 % workers = worker :=
    List.map_congr_left fun worker hworker => share_numbered (List.mem_range.mp hworker) jobs
  have hperm := remainders_perm workers (numbered jobs) workers
  rwa [hall, ← hshares] at hperm

/-! ## Handing in -/

/-- What workers hand in together is the work on all their shares. -/
theorem work_flatten (run : α → β) (shares : List (List (Nat × α))) :
    (shares.map (work run)).flatten = work run shares.flatten := by
  simp only [work, List.map_flatten]
  rfl

/-- In whatever order the workers finish, they hand in the results of all jobs. -/
theorem handed_perm {finish : List (List (Nat × β)) → List (List (Nat × β))}
    (hfinish : ∀ handed, (finish handed).Perm handed) {workers : Nat} (hworkers : 0 < workers)
    (run : α → β) (jobs : List α) :
    (finish ((deal workers jobs).map (work run))).flatten.Perm (work run (numbered jobs)) := by
  -- the order of the workers only permutes what is handed in
  have hflatten := (hfinish ((deal workers jobs).map (work run))).flatten
  rw [work_flatten] at hflatten
  exact hflatten.trans ((deal_perm hworkers jobs).map _)

/-- The work on numbered jobs are the results at the positions of the jobs. -/
theorem mem_work_numbered {run : α → β} {jobs : List α} {position : Nat} {result : β} :
    (position, result) ∈ work run (numbered jobs) ↔
      (jobs.map run)[position]? = some result := by
  rw [work, List.mem_map, List.getElem?_map, Option.map_eq_some_iff]
  constructor
  · rintro ⟨⟨position', job⟩, hjob, hpair⟩
    rcases Prod.mk.inj hpair with ⟨rfl, hresult⟩
    exact ⟨job, mem_numbered.mp hjob, hresult⟩
  · rintro ⟨job, hjob, hresult⟩
    exact ⟨(position, job), mem_numbered.mpr hjob, by rw [hresult]⟩

/-! ## Filling the slots -/

/-- Whatever results have been written, a slot holds the right result if there was one for it, and
else what it held before. -/
theorem getElem?_foldl_set {expected : List β} {results : List (Nat × β)}
    (hright : ∀ result ∈ results, expected[result.1]? = some result.2) {slots : List β}
    (hlength : slots.length = expected.length) (position : Nat) :
    (results.foldl (fun slots result => slots.set result.1 result.2) slots)[position]? =
      if position ∈ results.map Prod.fst then expected[position]? else slots[position]? := by
  -- over the results as they are written; the slots so far are any of the right number
  induction results generalizing slots with
  | nil => simp
  | cons result rest ih =>
      have hfirst := hright result (by simp)
      have hset : (slots.set result.1 result.2).length = expected.length := by
        rw [List.length_set, hlength]
      have hrest := ih (fun other hother => hright other (by simp [hother])) hset
      rw [List.foldl_cons, hrest]
      by_cases hlater : position ∈ rest.map Prod.fst
      · simp [hlater]
      · -- nothing is written to this slot any more, so this result stays there or it is another's
        by_cases hhere : position = result.1
        · have hinside : result.1 < slots.length := by
            rw [hlength]
            exact (List.getElem?_eq_some_iff.mp hfirst).1
          subst hhere
          simp [hlater, hfirst, hinside]
        · have hother : (slots.set result.1 result.2)[position]? = slots[position]? :=
            List.getElem?_set_ne (Ne.symm hhere)
          simp [hlater, hhere, hother]

/-- If there are right results for all slots, they are gathered in order, and no slot keeps the
value that stands for a missing result. -/
theorem gather_eq {expected : List β} {results : List (Nat × β)}
    (hright : ∀ result ∈ results, expected[result.1]? = some result.2)
    (hall : ∀ position, position < expected.length → position ∈ results.map Prod.fst)
    (missing : β) : gather expected.length missing results = expected := by
  apply List.ext_getElem?
  intro position
  rw [gather, getElem?_foldl_set hright (by simp)]
  split
  · rfl
  · next hnone =>
    have hbeyond : ¬ position < expected.length := fun hlt => hnone (hall position hlt)
    rw [List.getElem?_eq_none (by simpa using hbeyond), List.getElem?_eq_none (by omega)]

/-- Workers give the same results as running the jobs one after the other. -/
theorem runIn_eq_map {finish : List (List (Nat × β)) → List (List (Nat × β))}
    (hfinish : ∀ handed, (finish handed).Perm handed) {workers : Nat} (hworkers : 0 < workers)
    (missing : β) (run : α → β) (jobs : List α) :
    runIn finish workers missing run jobs = jobs.map run := by
  have hperm := handed_perm hfinish hworkers run jobs
  have hlength : (jobs.map run).length = jobs.length := List.length_map run
  rw [runIn, ← hlength]
  apply gather_eq
  · rintro ⟨position, result⟩ hresult
    exact mem_work_numbered.mp (hperm.mem_iff.mp hresult)
  · intro position hposition
    have hhanded : (position, (jobs.map run)[position]) ∈ work run (numbered jobs) :=
      mem_work_numbered.mpr (List.getElem?_eq_getElem hposition)
    exact List.mem_map.mpr ⟨_, hperm.mem_iff.mpr hhanded, rfl⟩

/-- Every slot gets one result. -/
theorem handed_numbers_perm {finish : List (List (Nat × β)) → List (List (Nat × β))}
    (hfinish : ∀ handed, (finish handed).Perm handed) {workers : Nat} (hworkers : 0 < workers)
    (run : α → β) (jobs : List α) :
    ((finish ((deal workers jobs).map (work run))).flatten.map Prod.fst).Perm
      (List.range jobs.length) := by
  have hnumbers := (handed_perm hfinish hworkers run jobs).map Prod.fst
  have hwork : (work run (numbered jobs)).map Prod.fst = (numbered jobs).map Prod.fst := by
    rw [work, List.map_map]
    rfl
  rwa [hwork, numbers_eq] at hnumbers

end Schedule

/-! ## Evaluating rules alone -/

mutual

/-- The nodes of a tree, each before those below it. -/
def Outcome.nodes : Outcome → List Outcome
  | .leaf operator findings => [.leaf operator findings]
  | .allOf children => .allOf children :: Outcome.nodesAmong children
  | .anyOf children => .anyOf children :: Outcome.nodesAmong children

/-- The nodes of several trees. -/
def Outcome.nodesAmong : List Outcome → List Outcome
  | [] => []
  | outcome :: rest => outcome.nodes ++ Outcome.nodesAmong rest

end

/-- The nodes of an evaluation, each with the facts about the rule that it shows. -/
def Evaluation.nodes (evaluation : Evaluation) : List Evaluation :=
  evaluation.outcome.nodes.map fun outcome => ⟨evaluation.metadata, outcome⟩

/-- The same evaluation, reported at another severity. -/
def Evaluation.atSeverity (severity : Severity) (evaluation : Evaluation) : Evaluation :=
  { evaluation with metadata := { evaluation.metadata with severity := severity } }

/-- The other severity shows in every node. -/
theorem Evaluation.nodes_atSeverity (severity : Severity) (evaluation : Evaluation) :
    (evaluation.atSeverity severity).nodes = evaluation.nodes.map (atSeverity severity) := by
  rw [nodes, nodes, List.map_map]
  rfl

/-- The result of a rule that is evaluated by itself, reported at the severity that counts. -/
def ActiveRule.alone (active : ActiveRule) (template : Template) :
    Except EvaluationError Evaluation :=
  (active.rule.evaluate template).map (Evaluation.atSeverity active.severity)

/-- Evaluating at a severity is evaluating alone and showing the severity afterwards. -/
theorem ActiveRule.evaluate_eq_alone (active : ActiveRule) (template : Template) :
    active.evaluate template = active.alone template := by
  unfold ActiveRule.evaluate ActiveRule.alone Rule.evaluate Rule.evaluateAt
  split <;> rfl

theorem ActiveRule.ruleId_of_alone {active : ActiveRule} {template : Template}
    {error : EvaluationError} (h : active.alone template = .error error) :
    error.ruleId = some active.rule.id := by
  rw [← evaluate_eq_alone, ActiveRule.evaluate, Rule.evaluateAt] at h
  split at h
  · cases h
  · obtain rfl := Except.error.inj h
    rfl

/-! ## Reports -/

namespace Report

/-- The report after the result of one more rule. -/
def add (template : Template) (report : Report) (active : ActiveRule) : Report :=
  match active.alone template with
  | .ok evaluation => { report with evaluations := report.evaluations ++ [evaluation] }
  | .error error =>
    { report with errors := report.errors ++ [⟨active.rule.id, template.identifier, error⟩] }

/-- The report of walking through rules and evaluating each of them alone. -/
def walk (template : Template) (rules : List ActiveRule) : Report :=
  rules.foldl (add template) ⟨[], []⟩

/-- A report lists the results of some rules: the evaluations and the failures are both in the order
of the rules, and every rule is found once in one of the two lists. -/
def Covers (report : Report) (template : Template) (rules : List ActiveRule) : Prop :=
  ∃ evaluated failed : List ActiveRule,
    evaluated.Sublist rules ∧ failed.Sublist rules ∧ (evaluated ++ failed).Perm rules ∧
    evaluated.map (·.alone template) = report.evaluations.map .ok ∧
    failed.map (·.alone template) = report.errors.map (fun failure => .error failure.error) ∧
    failed.map (some ·.rule.id) = report.errors.map (·.error.ruleId) ∧
    failed.map (·.rule.id) = report.errors.map RuleFailure.ruleId

theorem covers_nil (template : Template) : Covers ⟨[], []⟩ template [] :=
  ⟨[], [], .slnil, .slnil, .nil, rfl, rfl, rfl, rfl⟩

/-- One more rule after those that a report covers. -/
theorem Covers.add {report : Report} {template : Template} {rules : List ActiveRule}
    (h : report.Covers template rules) (active : ActiveRule) :
    (report.add template active).Covers template (rules ++ [active]) := by
  rcases h with ⟨evaluated, failed, hevaluated, hfailed, hperm, hresults, herrors, hcauses, hids⟩
  have hskip : ∀ {part : List ActiveRule}, part.Sublist rules → part.Sublist (rules ++ [active]) :=
    fun hpart => hpart.trans (List.sublist_append_left rules [active])
  -- the rule joins one of the two lists, and the other list stays as it is
  unfold Report.add
  split
  · next evaluation hactive =>
    refine ⟨evaluated ++ [active], failed, hevaluated.append_right [active], hskip hfailed, ?_, ?_,
      herrors, hcauses, hids⟩
    · have hmove : (evaluated ++ [active] ++ failed).Perm (evaluated ++ failed ++ [active]) := by
        rw [List.append_assoc, List.append_assoc]
        exact List.perm_append_comm.append_left evaluated
      exact hmove.trans (hperm.append_right [active])
    · simp [hresults, hactive]
  · next error hactive =>
    have hid := ActiveRule.ruleId_of_alone hactive
    refine ⟨evaluated, failed ++ [active], hskip hevaluated, hfailed.append_right [active], ?_,
      hresults, ?_, ?_, ?_⟩
    · rw [← List.append_assoc]
      exact hperm.append_right [active]
    · simp [herrors, hactive]
    · simp [hcauses, hid]
    · simp [hids]

/-- A walk covers the rules that it passes, whatever was covered before. -/
theorem Covers.foldl_add {report : Report} {template : Template} {rules : List ActiveRule}
    (h : report.Covers template rules) (others : List ActiveRule) :
    (others.foldl (Report.add template) report).Covers template (rules ++ others) := by
  induction others generalizing report rules with
  | nil => simpa using h
  | cons active others ih =>
      have hrest := ih (h.add active)
      rwa [List.append_assoc] at hrest

/-- A walk covers its rules. -/
theorem walk_covers (template : Template) (rules : List ActiveRule) :
    (walk template rules).Covers template rules :=
  (covers_nil template).foldl_add rules

/-- A walk that starts with a report adds to its lists what it would report by itself. -/
theorem foldl_add_eq (template : Template) (rules : List ActiveRule) (report : Report) :
    rules.foldl (add template) report =
      let others := ofResults template (rules.map fun active => (active, active.alone template))
      ⟨report.evaluations ++ others.evaluations, report.errors ++ others.errors⟩ := by
  induction rules generalizing report with
  | nil => simp [ofResults]
  | cons active rest ih =>
      rw [List.foldl_cons, ih, List.map_cons]
      cases hactive : active.alone template <;> simp [add, ofResults, hactive]

/-- Collecting the results of the rules is walking through the rules. -/
theorem ofResults_eq_walk (template : Template) (rules : List ActiveRule) :
    ofResults template (rules.map fun active => (active, active.alone template)) =
      walk template rules := by
  simp [walk, foldl_add_eq]

end Report

/-! ## The rules of an engine -/

namespace Configuration

/-- The rules that run are in the order of the catalog. -/
theorem select_ordered (configuration : Configuration) (catalog : Catalog) :
    (configuration.select catalog).Pairwise fun a b => a.index < b.index := by
  apply List.Pairwise.filter
  rw [List.pairwise_map]
  have hnumbers : (catalog.rules.zipIdx.map Prod.snd).Pairwise (· < ·) := by
    rw [List.zipIdx_map_snd, ← List.range_eq_range']
    exact List.pairwise_lt_range
  exact List.pairwise_map.mp hnumbers

/-- A rule that runs is that of the catalog at its place, at the severity that the configuration
gives it. -/
theorem of_mem_select {configuration : Configuration} {catalog : Catalog} {active : ActiveRule}
    (h : active ∈ configuration.select catalog) :
    catalog.rules[active.index]? = some active.rule ∧
      active.severity = configuration.effectiveSeverity active.rule := by
  rcases List.mem_map.mp (List.mem_filter.mp h).1 with ⟨⟨rule, index⟩, hrule, rfl⟩
  exact ⟨List.mem_zipIdx_iff_getElem?.mp hrule, rfl⟩

end Configuration

namespace Engine

/-- However the rules are shared out, the results are those of the rules alone. -/
theorem resultsIn_eq (engine : Engine)
    {finish : List (List (Nat × Except EvaluationError Evaluation)) →
      List (List (Nat × Except EvaluationError Evaluation))}
    (hfinish : ∀ handed, (finish handed).Perm handed) (template : Template)
    (rules : List ActiveRule) :
    engine.resultsIn finish template rules = rules.map (·.alone template) := by
  have halone : rules.map (·.evaluate template) = rules.map (·.alone template) :=
    List.map_congr_left fun active _ => active.evaluate_eq_alone template
  unfold resultsIn
  split
  · next hparallel =>
    have hworkers : 0 < min engine.options.parallelism rules.length := by omega
    rw [Schedule.runIn_eq_map hfinish hworkers, halone]
  · exact halone

/-- For every number of workers, and in whatever order they finish, an engine reports what a walk
through its rules reports, each of them evaluated alone and shown at its severity in every node. So
the report covers the rules in the order of the catalog. Every slot gets one result, and what a slot
would hold without one makes no difference. -/
theorem analyzeIn_eq_walk (engine : Engine)
    {finish : List (List (Nat × Except EvaluationError Evaluation)) →
      List (List (Nat × Except EvaluationError Evaluation))}
    (hfinish : ∀ handed, (finish handed).Perm handed) (template : Template) :
    engine.analyzeIn finish template = Report.walk template engine.activeRules ∧
    (engine.analyzeIn finish template).Covers template engine.activeRules ∧
    (engine.activeRules.Pairwise fun a b => a.index < b.index) ∧
    (∀ active ∈ engine.activeRules,
      engine.catalog.rules[active.index]? = some active.rule ∧
      active.severity = engine.configuration.effectiveSeverity active.rule) ∧
    (∀ severity evaluation, (Evaluation.atSeverity severity evaluation).nodes =
      evaluation.nodes.map (Evaluation.atSeverity severity)) ∧
    ∀ workers, 0 < workers →
      ((finish ((Schedule.deal workers engine.activeRules).map
        (Schedule.work (·.evaluate template)))).flatten.map Prod.fst).Perm
          (List.range engine.activeRules.length) ∧
      ∀ missing, Schedule.runIn finish workers missing (·.evaluate template) engine.activeRules =
        engine.activeRules.map (·.alone template) := by
  have hwalk : engine.analyzeIn finish template = Report.walk template engine.activeRules := by
    have hzip : engine.activeRules.zip (engine.activeRules.map (·.alone template)) =
        engine.activeRules.map fun active => (active, active.alone template) := by
      simpa using List.zip_map' (f := id) (l := engine.activeRules)
    rw [analyzeIn, resultsIn_eq engine hfinish, hzip, ← Report.ofResults_eq_walk]
  refine ⟨hwalk, ?_, engine.configuration.select_ordered engine.catalog, ?_, ?_, ?_⟩
  · rw [hwalk]
    exact Report.walk_covers template engine.activeRules
  · intro active hactive
    exact Configuration.of_mem_select hactive
  · intro severity evaluation
    exact evaluation.nodes_atSeverity severity
  · intro workers hworkers
    refine ⟨Schedule.handed_numbers_perm hfinish hworkers _ engine.activeRules, ?_⟩
    intro missing
    rw [Schedule.runIn_eq_map hfinish hworkers]
    exact List.map_congr_left fun active _ => active.evaluate_eq_alone template

/-- A rule that only applies an operator to what is called `size`. -/
def sizeRule (id : String) (test : Test) : Rule :=
  ⟨id, "", "", none, .low, .leaf none (some ⟨"size", [.property "size"]⟩) none ⟨test, false⟩⟩

/-- Three rules for two workers; the second rule compares a number. -/
def twoWorkers : Engine where
  catalog := ⟨[sizeRule "a" .present, sizeRule "b" (.greater 0), sizeRule "c" .absent]⟩
  configuration := ⟨none, none, [("c", .high)]⟩
  options := ⟨2, none⟩

/-- A template in which the size is no number. -/
def wordySize : Template :=
  resultOf (Template.ofSource "main" "\x7b\"size\": \"big\"\x7d") (by decide +kernel)

/-- The worker with the rule in the middle may finish first. -/
theorem analyzeIn_reversed :
    (∀ handed : List (List (Nat × Except EvaluationError Evaluation)),
      handed.reverse.Perm handed) ∧
    (twoWorkers.analyzeIn List.reverse wordySize).evaluations.map
        (fun evaluation => (evaluation.metadata.ruleId, evaluation.metadata.severity)) =
      [("a", .low), ("c", .high)] ∧
    (twoWorkers.analyzeIn List.reverse wordySize).errors.map RuleFailure.ruleId = ["b"] := by
  have hfinish : ∀ handed : List (List (Nat × Except EvaluationError Evaluation)),
      (List.reverse handed).Perm handed := List.reverse_perm
  refine ⟨hfinish, ?_⟩
  rw [(twoWorkers.analyzeIn_eq_walk hfinish wordySize).1]
  decide +kernel

end Engine

end TemplateAudit
