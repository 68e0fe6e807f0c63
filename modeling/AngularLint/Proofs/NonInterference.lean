import AngularLint.Proofs.EngineTrace
import AngularLint.Script

/-! Rules do not interfere. What a report holds of one rule depends on that rule and on the file,
whatever other rules run beside it, report or fail; and its severity shows in the severity of the
findings and nowhere else. -/

namespace AngularLint.Proofs.NonInterference
open RuleTrace EngineTrace

universe u

variable {σ : Type}

def recolored (severity : Severity) (diagnostic : Diagnostic) : Diagnostic :=
  { diagnostic with severity }

def recoloredEcho (severity : Severity) (echo : Echo) : Echo :=
  { echo with diagnostics := echo.diagnostics.map (recolored severity) }

def recoloredMade (severity : Severity) (made : Made σ) : Made σ :=
  { made with echo := recoloredEcho severity made.echo }

theorem perform_recolored (reporter : Reporter) (severity : Severity) (acts : List Act) :
    Reporter.perform { reporter with severity } acts =
      ((reporter.perform acts).1.map (recolored severity), (reporter.perform acts).2) := by
  have completed (finding : Finding) :
      Reporter.complete { reporter with severity } finding =
        (reporter.complete finding).map (recolored severity) := by
    simp only [Reporter.complete]
    cases reporter.messages.get? finding.messageId with
    | none => rfl
    | some template =>
      have fix : Reporter.fixOf { reporter with severity } finding = reporter.fixOf finding := rfl
      rw [fix]
      cases reporter.fixOf finding <;> rfl
  induction acts with
  | nil => rfl
  | cons act rest ih =>
    cases act with
    | fail fault => rfl
    | report finding =>
      simp only [Reporter.perform, completed]
      cases reporter.complete finding with
      | error fault => rfl
      | ok diagnostic => simp only [Except.map, ih, List.map_cons]

theorem cut_recolored (reporter : Reporter) (severity : Severity) (state : σ)
    (calls : List (Call σ)) :
    cut { reporter with severity } state calls =
      (cut reporter state calls).map (recoloredMade severity) := by
  induction calls generalizing state with
  | nil => rfl
  | cons call rest ih =>
    have again := perform_recolored reporter severity (call.handler call.cursor state).2
    rcases performed : reporter.perform (call.handler call.cursor state).2 with
      ⟨diagnostics, fault⟩
    rw [performed] at again
    cases fault with
    | some fault =>
      rw [cut_failed rest performed, cut_failed rest again]
      rfl
    | none =>
      rw [cut_passed rest performed, cut_passed rest again, ih]
      rfl

theorem setupFault?_recolored (reporter : Reporter) (severity : Severity) (setup : Setup σ) :
    setupFault? { reporter with severity } setup = setupFault? reporter setup := by
  simp only [setupFault?, perform_recolored]

theorem opening_recolored (reporter : Reporter) (severity : Severity) (setup : Setup σ) :
    opening { reporter with severity } setup = recoloredEcho severity (opening reporter setup) := by
  simp only [opening, perform_recolored, setupFault?_recolored, recoloredEcho]

theorem trace_recolored (reporter : Reporter) (severity : Severity) (setup : Setup σ)
    (root : Node) :
    trace { reporter with severity } setup root =
      (trace reporter setup root).map (recoloredMade severity) := by
  simp only [trace, setupFault?_recolored, cut_recolored]
  cases setupFault? reporter setup <;> rfl

/-- What a rule brings to a report on its own. -/
def brought (active : ActiveRule) (context : Context) : Echo :=
  let setup := active.checker.start context
  (opening (active.reporter context.file) setup).append
    (joined ((trace (active.reporter context.file) setup context.root).map Made.echo))

/-- The severity of a rule shows in the severity of its findings and nowhere else. -/
theorem brought_recolored (rule : Rule) (checker : Checker) (here there : Severity)
    (context : Context) :
    brought ⟨rule, there, checker⟩ context =
      recoloredEcho there (brought ⟨rule, here, checker⟩ context) := by
  have other : ActiveRule.reporter ⟨rule, there, checker⟩ context.file =
      { ActiveRule.reporter ⟨rule, here, checker⟩ context.file with severity := there } := rfl
  simp only [brought, other, opening_recolored, trace_recolored]
  simp only [recoloredEcho, Echo.append, joined, List.map_append, List.map_map, List.flatMap_map,
    List.map_flatMap]
  rfl

structure Owned (id : String) (echo : Echo) : Prop where
  diagnostics : ∀ diagnostic ∈ echo.diagnostics, diagnostic.rule = id
  faults : ∀ fault ∈ echo.faults, fault.rule = id

theorem perform_owned (reporter : Reporter) (acts : List Act) :
    ∀ diagnostic ∈ (reporter.perform acts).1, diagnostic.rule = reporter.rule := by
  induction acts with
  | nil => simp [Reporter.perform]
  | cons act rest ih =>
    cases act with
    | fail fault => simp [Reporter.perform]
    | report finding =>
      simp only [Reporter.perform]
      cases completed : reporter.complete finding with
      | error fault => simp
      | ok diagnostic =>
        intro other member
        rcases List.mem_cons.mp member with rfl | member
        · simp only [Reporter.complete] at completed
          split at completed
          · cases completed
          · split at completed
            · cases completed
            · cases completed
              rfl
        · exact ih other member

theorem opening_owned (reporter : Reporter) (setup : Setup σ) :
    Owned reporter.rule (opening reporter setup) := by
  refine ⟨perform_owned reporter setup.acts, ?_⟩
  intro fault member
  obtain ⟨cause, _, rfl⟩ := List.mem_map.mp member
  rfl

theorem cut_owned (reporter : Reporter) (state : σ) (calls : List (Call σ)) :
    ∀ made ∈ cut reporter state calls, Owned reporter.rule made.echo := by
  induction calls generalizing state with
  | nil => simp [cut]
  | cons call rest ih =>
    have own := perform_owned reporter (call.handler call.cursor state).2
    rcases performed : reporter.perform (call.handler call.cursor state).2 with
      ⟨diagnostics, fault⟩
    rw [performed] at own
    cases fault with
    | some fault =>
      rw [cut_failed rest performed]
      intro made member
      rw [List.mem_singleton.mp member]
      exact ⟨own, fun fault member => by rw [List.mem_singleton.mp member]; rfl⟩
    | none =>
      rw [cut_passed rest performed]
      intro made member
      rcases List.mem_cons.mp member with rfl | member
      · exact ⟨own, by simp⟩
      · exact ih _ made member

theorem trace_owned (reporter : Reporter) (setup : Setup σ) (root : Node) :
    ∀ made ∈ trace reporter setup root, Owned reporter.rule made.echo := by
  rw [trace]
  split
  · simp
  · exact cut_owned reporter setup.state _

theorem journalFrom_place (run : Run) (turns : List (Moment × Cursor)) :
    ∀ entry ∈ journalFrom run turns, entry.place < run.listeners.length := by
  induction turns generalizing run with
  | nil => simp [journalFrom]
  | cons turn rest ih =>
    intro entry member
    rcases List.mem_append.mp member with now | later
    · obtain ⟨⟨listener, place⟩, inside, member⟩ := List.mem_flatMap.mp now
      obtain ⟨made, _, rfl⟩ := List.mem_map.mp member
      simpa using List.snd_lt_of_mem_zipIdx inside
    · have bound := ih _ entry later
      rwa [hear_listeners, List.length_map] at bound

/-- Every call in the journal brings things in the name of the rule that it belongs to. -/
theorem journal_owned (engine : Engine) (context : Context) :
    ∀ entry ∈ journal engine context, ∃ place : Fin engine.rules.length,
      entry.place = place.val ∧ Owned (engine.rules.get place).rule.id entry.made.echo := by
  intro entry member
  have inside := journalFrom_place _ _ entry member
  rw [start_listeners, List.length_map] at inside
  let place : Fin engine.rules.length := ⟨entry.place, inside⟩
  have own : entry ∈ (journal engine context).filter (·.place == place.val) :=
    List.mem_filter.mpr ⟨member, beq_self_eq_true _⟩
  rw [journal_filter engine context place] at own
  obtain ⟨made, found, same⟩ := List.mem_map.mp own
  have echo : made.echo = entry.made.echo := congrArg (fun entry => entry.made.echo) same
  exact ⟨place, rfl, echo ▸ trace_owned _ _ _ made found⟩

private theorem ids_apart (engine : Engine) (distinct : engine.ruleIds.Nodup)
    (first second : Fin engine.rules.length) :
    (engine.rules.get first).rule.id = (engine.rules.get second).rule.id ↔ first = second := by
  have inside (place : Fin engine.rules.length) : place.val < engine.ruleIds.length := by
    rw [Engine.ruleIds, List.length_map]
    exact place.isLt
  have same := @List.getElem_inj _ _ _ _ (inside first) (inside second) distinct
  rw [Fin.val_inj] at same
  simp only [Engine.ruleIds, List.getElem_map] at same
  exact same

section OneRule

variable {β : Type} (part : Echo → List β) (owner : β → String)
  (owned : ∀ id echo, Owned id echo → ∀ result ∈ part echo, owner result = id)

include owned

private theorem filter_part {id : String} {echo : Echo} (brings : Owned id echo)
    (wanted : String) :
    (part echo).filter (fun result => owner result == wanted) =
      if id = wanted then part echo else [] := by
  split
  next same =>
    rw [List.filter_eq_self]
    intro result inside
    rw [owned id echo brings result inside, beq_iff_eq]
    exact same
  next different =>
    rw [List.filter_eq_nil_iff]
    intro result inside
    rw [owned id echo brings result inside, beq_iff_eq]
    exact different

private theorem filter_openings {rules : List ActiveRule} (context : Context)
    (distinct : (rules.map fun active => active.rule.id).Nodup) {mine : ActiveRule}
    (member : mine ∈ rules) :
    (rules.flatMap fun active =>
        part (opening (active.reporter context.file) (active.checker.start context))).filter
        (fun result => owner result == mine.rule.id) =
      part (opening (mine.reporter context.file) (mine.checker.start context)) := by
  have found (active : ActiveRule) := filter_part part owner owned
    (opening_owned (active.reporter context.file) (active.checker.start context)) mine.rule.id
  have absent (others : List ActiveRule)
      (different : mine.rule.id ∉ others.map fun active => active.rule.id) :
      (others.flatMap fun active =>
        (part (opening (active.reporter context.file) (active.checker.start context))).filter
          (fun result => owner result == mine.rule.id)) = [] := by
    rw [List.flatMap_eq_nil_iff]
    intro other present
    rw [found, if_neg]
    intro same
    exact different (same ▸ List.mem_map_of_mem present)
  obtain ⟨before, after, rfl⟩ := List.append_of_mem member
  rw [List.map_append, List.map_cons, List.nodup_append] at distinct
  obtain ⟨_, later, apart⟩ := distinct
  rw [List.filter_flatMap, List.flatMap_append, List.flatMap_cons, found,
    absent before (fun inside => apart _ inside _ (List.mem_cons_self ..) rfl),
    absent after (List.nodup_cons.mp later).1, List.nil_append, List.append_nil]
  exact if_pos rfl

private theorem filter_journal (engine : Engine) (context : Context)
    (distinct : engine.ruleIds.Nodup) (place : Fin engine.rules.length) :
    ((journal engine context).flatMap fun entry => part entry.made.echo).filter
        (fun result => owner result == (engine.rules.get place).rule.id) =
      ((journal engine context).filter (·.place == place.val)).flatMap fun entry =>
        part entry.made.echo := by
  have belong := journal_owned engine context
  generalize journal engine context = entries at belong
  rw [List.filter_flatMap]
  induction entries with
  | nil => rfl
  | cons entry rest ih =>
    obtain ⟨home, located, brings⟩ := belong entry (List.mem_cons_self ..)
    have later := ih fun other member => belong other (List.mem_cons_of_mem _ member)
    rw [List.flatMap_cons, later, filter_part part owner owned brings, List.filter_cons, located]
    by_cases same : home = place
    · rw [if_pos (by rw [same]), if_pos (by rw [same, beq_self_eq_true]), List.flatMap_cons]
    · have apart := mt (ids_apart engine distinct home place).mp same
      rw [if_neg apart, if_neg (by rwa [beq_iff_eq, Fin.val_inj]), List.nil_append]

private theorem filter_report (engine : Engine) (context : Context)
    (distinct : engine.ruleIds.Nodup) {mine : ActiveRule} (member : mine ∈ engine.rules) :
    ((engine.rules.flatMap fun active =>
          part (opening (active.reporter context.file) (active.checker.start context))) ++
        (journal engine context).flatMap fun entry => part entry.made.echo).filter
        (fun result => owner result == mine.rule.id) =
      part (opening (mine.reporter context.file) (mine.checker.start context)) ++
        (trace (mine.reporter context.file) (mine.checker.start context) context.root).flatMap
          fun made => part made.echo := by
  rw [List.filter_append, filter_openings part owner owned context distinct member]
  obtain ⟨place, inside, rfl⟩ := List.getElem_of_mem member
  have calls := filter_journal part owner owned engine context distinct ⟨place, inside⟩
  rw [journal_filter engine context ⟨place, inside⟩, List.flatMap_map] at calls
  exact congrArg _ calls

end OneRule

/-- Of a rule, a report holds what the rule brings on its own, whoever else is there. -/
theorem run_own (engine : Engine) (distinct : engine.ruleIds.Nodup) {file : SourceFile}
    {root : Node} (parsed : file.root? = some root) {mine : ActiveRule}
    (member : mine ∈ engine.rules) :
    (engine.run file).forRule mine.rule.id = (brought mine ⟨file, root⟩).diagnostics ∧
      (engine.run file).faults.filter (·.rule == mine.rule.id) =
        (brought mine ⟨file, root⟩).faults := by
  obtain ⟨diagnostics, faults⟩ := run_report engine parsed
  rw [Report.forRule, diagnostics, faults]
  simp only [brought, joined, Echo.append, List.flatMap_map]
  exact ⟨filter_report Echo.diagnostics Diagnostic.rule (fun _ _ brings => brings.diagnostics)
      engine ⟨file, root⟩ distinct member,
    filter_report Echo.faults RuleFault.rule (fun _ _ brings => brings.faults) engine ⟨file, root⟩
      distinct member⟩

theorem run_alone (mine : ActiveRule) {file : SourceFile} {root : Node}
    (parsed : file.root? = some root) :
    (Engine.run ⟨[mine]⟩ file).diagnostics = (brought mine ⟨file, root⟩).diagnostics ∧
      (Engine.run ⟨[mine]⟩ file).faults = (brought mine ⟨file, root⟩).faults := by
  have calls := journal_filter ⟨[mine]⟩ ⟨file, root⟩ ⟨0, Nat.one_pos⟩
  have all : (journal ⟨[mine]⟩ ⟨file, root⟩).filter (·.place == 0) =
      journal ⟨[mine]⟩ ⟨file, root⟩ := by
    rw [List.filter_eq_self]
    intro entry member
    obtain ⟨place, located, _⟩ := journal_owned _ _ entry member
    rw [located, beq_iff_eq]
    exact Nat.lt_one_iff.mp place.isLt
  rw [all] at calls
  obtain ⟨diagnostics, faults⟩ := run_report ⟨[mine]⟩ parsed
  rw [diagnostics, faults, calls]
  simp only [List.flatMap_cons, List.flatMap_nil, List.append_nil, List.flatMap_map, brought,
    joined, Echo.append]
  exact ⟨rfl, rfl⟩

/-- A rule with settled options reports the same in every engine whose rules have distinct ids, up
to its severity there, and fails in the same way. It is as if the rule ran alone, so no other rule
can change what it reports, by a failure or otherwise. -/
theorem rules_do_not_interfere (file : SourceFile) (rule : Rule) (settings : rule.Settings)
    (here there : Severity) (first second : Engine)
    (inFirst : ⟨rule, here, rule.checker settings⟩ ∈ first.rules)
    (inSecond : ⟨rule, there, rule.checker settings⟩ ∈ second.rules)
    (distinctFirst : first.ruleIds.Nodup) (distinctSecond : second.ruleIds.Nodup) :
    let alone : Engine := ⟨[⟨rule, here, rule.checker settings⟩]⟩
    (second.run file).forRule rule.id =
        ((first.run file).forRule rule.id).map (fun finding => { finding with severity := there }) ∧
      (second.run file).faults.filter (·.rule == rule.id) =
        (first.run file).faults.filter (·.rule == rule.id) ∧
      (here = there → (second.run file).forRule rule.id = (first.run file).forRule rule.id) ∧
      (first.run file).forRule rule.id = (alone.run file).diagnostics ∧
      (first.run file).faults.filter (·.rule == rule.id) = (alone.run file).faults := by
  intro alone
  cases parsed : file.root? with
  | none => simp [Engine.run, parsed, Report.forRule]
  | some root =>
    obtain ⟨findingsFirst, faultsFirst⟩ := run_own first distinctFirst parsed inFirst
    obtain ⟨findingsSecond, faultsSecond⟩ := run_own second distinctSecond parsed inSecond
    obtain ⟨findingsAlone, faultsAlone⟩ :=
      run_alone ⟨rule, here, rule.checker settings⟩ parsed
    have severity := brought_recolored rule (rule.checker settings) here there ⟨file, root⟩
    refine ⟨?_, ?_, ?_, ?_, ?_⟩
    · rw [findingsSecond, findingsFirst, severity]
      rfl
    · rw [faultsSecond, faultsFirst, severity]
      rfl
    · rintro rfl
      exact findingsSecond.trans findingsFirst.symm
    · exact findingsFirst.trans findingsAlone.symm
    · exact faultsFirst.trans faultsAlone.symm

/-- A rule that notes every program, once alone and once, as a warning, behind a rule that fails on
every program. -/
theorem noting_behind_failing :
    let noting : Script :=
      ⟨"noting", .error, .ofList [("seen", "A program.")], [], false,
        [(.named "program", [⟨none, .report ⟨"seen", .node, [], none⟩⟩])]⟩
    let failing : Script :=
      ⟨"failing", .error, .empty, [], false,
        [(.named "program", [⟨none, .fail "RuntimeError" "boom"⟩])]⟩
    let first : Engine := ⟨[⟨noting.rule, .error, noting.rule.checker ()⟩]⟩
    let second : Engine :=
      ⟨[⟨failing.rule, .error, failing.rule.checker ()⟩,
        ⟨noting.rule, .warn, noting.rule.checker ()⟩]⟩
    let file : SourceFile :=
      ⟨"a.ts", "x", some ⟨"program", 0, ⟨0, 1, Nat.zero_le 1⟩, .empty, []⟩, false⟩
    (first.ruleIds.Nodup ∧ second.ruleIds.Nodup) ∧
      (second.run file).forRule "noting" =
        ((first.run file).forRule "noting").map (fun finding => { finding with severity := .warn }) ∧
      (second.run file).faults.filter (·.rule == "noting") =
        (first.run file).faults.filter (·.rule == "noting") := by
  intro noting failing first second file
  have distinctFirst : first.ruleIds.Nodup := by decide
  have distinctSecond : second.ruleIds.Nodup := by decide
  obtain ⟨findings, faults, _⟩ :=
    rules_do_not_interfere file noting.rule () .error .warn first second
      (List.mem_cons_self ..) (List.mem_cons_of_mem _ (List.mem_cons_self ..)) distinctFirst
      distinctSecond
  exact ⟨⟨distinctFirst, distinctSecond⟩, findings, faults⟩

end AngularLint.Proofs.NonInterference
