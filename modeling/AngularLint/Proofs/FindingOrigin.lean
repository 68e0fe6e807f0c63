import AngularLint.Proofs.NonInterference

/-! Where the findings of a report come from. Each was stated by an active rule, when it set itself
up or in one of its handlers, and completed by the reporter of that rule. So a report shows of a
rule only what follows from the findings that the rule can state. -/

namespace AngularLint.Proofs.FindingOrigin
open RuleTrace EngineTrace NonInterference

variable {σ : Type}

/-- A rule states a finding: at once, or in a handler at some node and in some state. -/
inductive States (setup : Setup σ) (finding : Finding) : Prop where
  | atStart (stated : .report finding ∈ setup.acts) : States setup finding
  | inHandler (key : EventKey) (handler : Handler σ) (cursor : Cursor) (state : σ)
      (registered : (key, handler) ∈ setup.handlers.entries)
      (stated : .report finding ∈ (handler cursor state).2) : States setup finding

theorem perform_origin (reporter : Reporter) (acts : List Act) :
    ∀ diagnostic ∈ (reporter.perform acts).1, ∃ finding,
      .report finding ∈ acts ∧ reporter.complete finding = .ok diagnostic := by
  induction acts with
  | nil => simp [Reporter.perform]
  | cons act rest ih =>
    cases act with
    | fail fault => simp [Reporter.perform]
    | report finding =>
      simp only [Reporter.perform]
      cases completed : reporter.complete finding with
      | error fault => simp
      | ok first =>
        intro diagnostic member
        rcases List.mem_cons.mp member with rfl | later
        · exact ⟨finding, List.mem_cons_self, completed⟩
        · obtain ⟨other, stated, complete⟩ := ih diagnostic later
          exact ⟨other, List.mem_cons_of_mem _ stated, complete⟩

/-- A call that is made brings what its handler answers, in whatever state the rule is by then. -/
theorem cut_performed (reporter : Reporter) (state : σ) (calls : List (Call σ)) :
    ∀ made ∈ cut reporter state calls, made.call ∈ calls ∧ ∃ held,
      made.echo.diagnostics =
        (reporter.perform (made.call.handler made.call.cursor held).2).1 := by
  induction calls generalizing state with
  | nil => simp [cut]
  | cons call rest ih =>
    rcases performed : reporter.perform (call.handler call.cursor state).2 with
      ⟨diagnostics, fault⟩
    cases fault with
    | some fault =>
      rw [cut_failed rest performed]
      intro made member
      rw [List.mem_singleton.mp member]
      exact ⟨List.mem_cons_self, state, by rw [performed]⟩
    | none =>
      rw [cut_passed rest performed]
      intro made member
      rcases List.mem_cons.mp member with rfl | later
      · exact ⟨List.mem_cons_self, state, by rw [performed]⟩
      · obtain ⟨due, held, brought⟩ := ih _ made later
        exact ⟨List.mem_cons_of_mem _ due, held, brought⟩

theorem due_registered {table : HandlerTable σ} {moment : Moment} {cursor : Cursor} {call : Call σ}
    (member : call ∈ due table moment cursor) :
    call.cursor = cursor ∧ ∃ key, (key, call.handler) ∈ table.entries := by
  obtain ⟨⟨key, handler⟩, registered, named⟩ := List.mem_filterMap.mp member
  obtain ⟨name, _, rfl⟩ := Option.map_eq_some_iff.mp named
  exact ⟨rfl, key, registered⟩

theorem reference_eq (table : HandlerTable σ) (root : Node) :
    reference table root = (turns root).flatMap fun turn => due table turn.1 turn.2 := by
  rw [reference, ← turns_flatMap (fun turn => due table turn.1 turn.2)]

theorem reference_registered {table : HandlerTable σ} {root : Node} {call : Call σ}
    (member : call ∈ reference table root) : ∃ key, (key, call.handler) ∈ table.entries := by
  rw [reference_eq] at member
  obtain ⟨turn, _, there⟩ := List.mem_flatMap.mp member
  exact (due_registered there).2

theorem trace_origin (reporter : Reporter) (setup : Setup σ) (root : Node) :
    ∀ made ∈ trace reporter setup root, ∀ diagnostic ∈ made.echo.diagnostics, ∃ finding,
      States setup finding ∧ reporter.complete finding = .ok diagnostic := by
  intro made member diagnostic brought
  rw [trace] at member
  split at member
  · cases member
  · obtain ⟨due, held, performed⟩ := cut_performed _ _ _ made member
    obtain ⟨key, registered⟩ := reference_registered due
    rw [performed] at brought
    obtain ⟨finding, stated, complete⟩ := perform_origin _ _ diagnostic brought
    exact ⟨finding, .inHandler key _ _ held registered stated, complete⟩

/-- What an entry of the journal brings is what a rule brings in its own trace. -/
theorem journal_made (engine : Engine) (context : Context) :
    ∀ entry ∈ journal engine context, ∃ active ∈ engine.rules, ∃ made ∈
      trace (active.reporter context.file) (active.checker.start context) context.root,
        made.echo = entry.made.echo := by
  intro entry member
  have inside := journalFrom_place _ _ entry member
  rw [start_listeners, List.length_map] at inside
  have own : entry ∈ (journal engine context).filter (·.place == entry.place) :=
    List.mem_filter.mpr ⟨member, beq_self_eq_true _⟩
  rw [journal_filter engine context ⟨entry.place, inside⟩] at own
  obtain ⟨made, found, same⟩ := List.mem_map.mp own
  exact ⟨_, List.get_mem _ _, made, found, congrArg (fun entry => entry.made.echo) same⟩

theorem journal_origin (engine : Engine) (context : Context) :
    ∀ entry ∈ journal engine context, ∀ diagnostic ∈ entry.made.echo.diagnostics,
      ∃ active ∈ engine.rules, ∃ finding, States (active.checker.start context) finding ∧
        (active.reporter context.file).complete finding = .ok diagnostic := by
  intro entry member diagnostic brought
  obtain ⟨active, registered, made, found, echo⟩ := journal_made engine context entry member
  rw [← echo] at brought
  exact ⟨active, registered, trace_origin _ _ _ made found diagnostic brought⟩

/-- Every finding of a report was stated by an active rule and completed by its reporter. -/
theorem run_origin (engine : Engine) (file : SourceFile) :
    ∀ diagnostic ∈ (engine.run file).diagnostics, ∃ root, file.root? = some root ∧
      ∃ active ∈ engine.rules, ∃ finding, States (active.checker.start ⟨file, root⟩) finding ∧
        (active.reporter file).complete finding = .ok diagnostic := by
  intro diagnostic member
  cases parsed : file.root? with
  | none => simp [Engine.run, parsed] at member
  | some root =>
    refine ⟨root, rfl, ?_⟩
    rw [(run_report engine parsed).1] at member
    rcases List.mem_append.mp member with opened | toured
    · obtain ⟨active, registered, opened⟩ := List.mem_flatMap.mp opened
      obtain ⟨finding, stated, complete⟩ := perform_origin _ _ diagnostic opened
      exact ⟨active, registered, finding, .atStart stated, complete⟩
    · obtain ⟨entry, journaled, brought⟩ := List.mem_flatMap.mp toured
      exact journal_origin engine ⟨file, root⟩ entry journaled diagnostic brought

end AngularLint.Proofs.FindingOrigin
