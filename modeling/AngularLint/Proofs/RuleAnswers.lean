import AngularLint.Proofs.CommaSearch
import AngularLint.Proofs.Descendants
import AngularLint.Proofs.Outcomes
import AngularLint.Proofs.RuleActs
import AngularLint.Registry
import Mathlib.Data.List.TakeWhile

/-! All that the rules of the registry can answer. Most of it is notes, with messages of the rule's
own. Two of the rules also repair what they find, by one edit near a node that they looked at. And
there are two shapes of a tree that a rule fails on: a member expression with several receivers, and
arguments that end where the text begins. -/

namespace AngularLint.Proofs.RuleAnswers
open AngularLint.Angular ClassFrames Descendants NamedTables Outcomes RuleActs

variable {messages : OrderedMap String String} {length : Nat} {node : Node}

/-- What a rule with these messages can answer at a node, in a source of some length. -/
inductive Answer (messages : OrderedMap String String) (length : Nat) (node : Node) :
    Act → Prop where
  | note {finding : Finding} (known : messages.contains finding.messageId = true)
      (unedited : finding.edits = none) : Answer messages length node (.report finding)
  | repair {finding : Finding} {edit : Edit}
      (known : messages.contains finding.messageId = true) (edited : finding.edits = some [edit])
      (inside : edit.span.stop ≤ length ∨
        ∃ inner, Within node inner ∧ edit.span.stop ≤ inner.span.stop)
      (plain : '\r' ∉ edit.text.toList) : Answer messages length node (.report finding)
  | repeated {member : Node} {fault : Fault} (within : Within node member)
      (selects : member.kind = "member_expression") (failed : receiver? member = .error fault) :
      Answer messages length node (.fail fault)
  | unopened {call arguments : Node} {fault : Fault} (within : Within node call)
      (given : call.attribute? "arguments" = some (.node arguments))
      (early : arguments.span.stop = 0) : Answer messages length node (.fail fault)

theorem answer_note {span : Span} {id : String} {data : List (String × String)}
    (known : messages.contains id = true) : Answer messages length node (.note span id data) :=
  .note known rfl

theorem answers_note {span : Span} {id : String} {data : List (String × String)}
    (known : messages.contains id = true) :
    ∀ act ∈ [Act.note span id data], Answer messages length node act :=
  List.forall_mem_singleton.mpr (answer_note known)

theorem answer_repair {span : Span} {id : String} {data : List (String × String)} {edit : Edit}
    {inner : Node} (known : messages.contains id = true) (within : Within node inner)
    (inside : edit.span.stop ≤ length ∨
      ∃ deeper, Within inner deeper ∧ edit.span.stop ≤ deeper.span.stop)
    (plain : '\r' ∉ edit.text.toList) :
    Answer messages length node (.repair span id data edit) := by
  refine .repair known rfl (inside.imp_right ?_) plain
  rintro ⟨deeper, below, ends⟩
  exact ⟨deeper, within.trans below, ends⟩

section Rules
open Rules

theorem rootObject_plain : '\r' ∉ ProvidedInRoot.rootObject.toList := by
  decide

/-- An edit at a service with these arguments: just before their last character, or in something
that they hold. -/
def EditsIn (arguments : Node) (edit : Edit) : Prop :=
  (edit.span.start = edit.span.stop ∧ edit.span.stop + 1 = arguments.span.stop) ∨
    ∃ held ∈ arguments.children, ∃ inner, Within held inner ∧
      inner.span.start ≤ edit.span.start ∧ edit.span.stop ≤ inner.span.stop

/-- All that a decorator of a service can bring: nothing, a failure, or one repair. -/
inductive Provision (decorator : Node) : List Act → Prop where
  | nothing : Provision decorator []
  | unopened {call arguments : Node} {fault : Fault} (within : Within decorator call)
      (given : call.attribute? "arguments" = some (.node arguments))
      (early : arguments.span.stop = 0) : Provision decorator [.fail fault]
  | repair {call arguments : Node} {span : Span} {id : String} {data : List (String × String)}
      {edit : Edit} (within : Within decorator call)
      (given : call.attribute? "arguments" = some (.node arguments))
      (known : ProvidedInRoot.rule.messages.contains id = true) (edits : EditsIn arguments edit)
      (plain : '\r' ∉ edit.text.toList) : Provision decorator [.repair span id data edit]

section Provision

variable {decorator call arguments : Node} (within : Within decorator call)
  (given : call.attribute? "arguments" = some (.node arguments))
include within given

theorem checkEmpty_provision :
    Provision decorator (ProvidedInRoot.checkEmpty decorator arguments) := by
  simp only [ProvidedInRoot.checkEmpty, Span.between, Int.ofNat_eq_natCast]
  split
  next failed =>
    split at failed
    · cases failed
    · exact .unopened within given (by omega)
  next paren made =>
    split at made
    · cases made
      refine .repair within given (by decide) (.inl ⟨rfl, ?_⟩) rootObject_plain
      simp only [Edit.insertBefore, Span.point]
      omega
    · cases made

theorem checkMetadata_provision (source : String) {metadata : Node}
    (held : metadata ∈ arguments.children) :
    Provision decorator (ProvidedInRoot.checkMetadata source metadata) := by
  rw [ProvidedInRoot.checkMetadata]
  split
  · dsimp only
    split
    · exact .repair within given (by decide)
        (.inr ⟨metadata, held, metadata, .refl, Nat.le_refl _, Nat.le_refl _⟩) rootObject_plain
    next first rest properties =>
      have below : first ∈ objectProperties metadata := properties ▸ List.mem_cons_self
      exact .repair within given (by decide)
        (.inr ⟨metadata, held, first, within_child (List.mem_of_mem_filter below), Nat.le_refl _,
          first.span.ordered⟩) (by simp [Edit.insertBefore])
  next property found =>
    split
    · exact .nothing
    next value valued =>
      dsimp only
      split
      · exact .nothing
      · exact .repair within given (by decide)
          (.inr ⟨metadata, held, value,
            (findProperty?_within found).trans (propertyValue?_within valued), Nat.le_refl _,
            Nat.le_refl _⟩) (by simp [Edit.replace])

end Provision

theorem check_provision (source : String) (decorator : Node) :
    Provision decorator (ProvidedInRoot.check source decorator) := by
  rw [ProvidedInRoot.check]
  split
  · exact .nothing
  next arguments found =>
    obtain ⟨call, within, given⟩ := childAt?_second found
    split
    · exact checkEmpty_provision within given
    next metadata rest children =>
      have held : metadata ∈ arguments.children := children ▸ List.mem_cons_self
      split
      · exact checkMetadata_provision within given source held
      · exact .nothing

theorem Provision.answers {decorator : Node} {acts : List Act}
    (provision : Provision decorator acts) :
    ∀ act ∈ acts, Answer ProvidedInRoot.rule.messages length decorator act := by
  cases provision with
  | nothing => simp
  | unopened within given early =>
    exact List.forall_mem_singleton.mpr (.unopened within given early)
  | @repair call arguments _ _ _ edit within given known edits plain =>
    have inside : ∃ inner, Within arguments inner ∧ edit.span.stop ≤ inner.span.stop := by
      rcases edits with ⟨_, before⟩ | ⟨held, child, inner, below, _, ends⟩
      · exact ⟨arguments, .refl, by omega⟩
      · exact ⟨inner, .head child below, ends⟩
    rw [List.forall_mem_singleton]
    exact answer_repair known (within.trans (attribute_holds given)) (.inr inside) plain

theorem providedInRoot_answers (settings : ProvidedInRoot.rule.Settings) (context : Context) :
    Acts (fun cursor => Answer ProvidedInRoot.rule.messages context.file.length cursor.node)
      ((ProvidedInRoot.rule.checker settings).start context) := by
  refine .each (σ := Unit) rfl rfl ?_
  change ∀ entry ∈ [_], _
  rw [List.forall_mem_singleton]
  exact answers_stateless fun cursor _ => (check_provision _ cursor.node).answers

/-- A comma that is found lies within the text. -/
theorem commaAfter?_lt {source : String} {property : Node} {comma : Nat}
    (found : Standalone.commaAfter? source property = some comma) : comma < source.length := by
  have there := (CommaSearch.commaAfter?_iff.mp found).comma
  rw [← String.length_toList]
  exact (List.getElem?_eq_some_iff.mp there).1

theorem indent_plain (file : SourceFile) (offset : Nat) :
    '\r' ∉ (file.lineIndent offset).toList := by
  intro member
  rw [SourceFile.lineIndent, String.toList_ofList] at member
  have blank := List.mem_takeWhile_imp member
  simp at blank

theorem addProperty_plain (file : SourceFile) (metadata : Node) :
    '\r' ∉ (Standalone.addProperty file metadata).text.toList := by
  have indent (span : Span) := indent_plain file span.start
  rw [Standalone.addProperty]
  split
  · simp [Edit.replace]
  · split
    · simp [Edit.insertBefore, indent]
    · dsimp only
      split
      · simp [Edit.insertBefore, indent]
      · simp [Edit.insertAfter, indent]

theorem addProperty_inside (file : SourceFile) (metadata : Node) :
    (Standalone.addProperty file metadata).span.stop ≤ file.length ∨
      ∃ inner, Within metadata inner ∧
        (Standalone.addProperty file metadata).span.stop ≤ inner.span.stop := by
  rw [Standalone.addProperty]
  split
  · exact .inr ⟨metadata, .refl, Nat.le_refl _⟩
  next first rest properties =>
    have below : first ∈ objectProperties metadata := properties ▸ List.mem_cons_self
    split
    · exact .inr ⟨first, within_child (List.mem_of_mem_filter below), first.span.ordered⟩
    next selector found =>
      dsimp only
      split
      next comma behind => exact .inl (commaAfter?_lt behind)
      next => exact .inr ⟨selector, findProperty?_within found, Nat.le_refl _⟩

theorem component_answer (file : SourceFile) (decorator : Node) :
    ∀ act ∈ Standalone.checkComponent file decorator,
      Answer Standalone.rule.messages file.length decorator act := by
  rw [Standalone.checkComponent]
  split
  next metadata rest given =>
    obtain ⟨arguments, found, children⟩ := Option.map_eq_some_iff.mp given
    have below : metadata ∈ arguments.children := children ▸ List.mem_cons_self
    have within := (childAt?_within found).tail below
    split
    · rw [Standalone.checkMetadata]
      split
      · rw [List.forall_mem_singleton]
        exact answer_repair (by decide) within (addProperty_inside file metadata)
          (addProperty_plain file metadata)
      next property named =>
        split
        · simp
        next value valued =>
          split
          · simp
          · rw [List.forall_mem_singleton]
            exact answer_repair (by decide)
              ((within.trans (findProperty?_within named)).trans (propertyValue?_within valued))
              (.inr ⟨value, .refl, Nat.le_refl _⟩) (by simp [Edit.replace])
    · simp
  · simp

theorem moduleImport_answer (statement : Node) :
    ∀ act ∈ Standalone.checkImport statement,
      Answer Standalone.rule.messages length statement act := by
  rw [Standalone.checkImport]
  split
  · split
    · intro act member
      obtain ⟨specifier, _, noted⟩ := List.mem_filterMap.mp member
      obtain ⟨binding, _, noted⟩ := Option.bind_eq_some_iff.mp noted
      rw [Option.ite_none_right_eq_some, Option.some.injEq] at noted
      exact noted.2 ▸ answer_note (by decide)
    · simp
  · simp

theorem standalone_answers (settings : Standalone.rule.Settings) (context : Context) :
    Acts (fun cursor => Answer Standalone.rule.messages context.file.length cursor.node)
      ((Standalone.rule.checker settings).start context) := by
  refine .each (σ := Unit) rfl rfl ?_
  change ∀ entry ∈ [_, _], _
  rw [List.forall_mem_cons, List.forall_mem_singleton]
  exact ⟨answers_stateless fun cursor _ => component_answer _ cursor.node,
    answers_stateless fun cursor _ => moduleImport_answer cursor.node⟩

theorem constructor_answer (cursor : Cursor) (memory : Memory Unit) :
    ∀ act ∈ ConstructorInjection.check cursor memory,
      Answer ConstructorInjection.rule.messages length cursor.node act := by
  rw [ConstructorInjection.check]
  split
  · rw [ConstructorInjection.checkConstructor, List.forall_mem_append]
    constructor
    · intro act member
      obtain ⟨parameter, _, noted⟩ := List.mem_filterMap.mp member
      obtain ⟨name, _, rfl⟩ := Option.map_eq_some_iff.mp noted
      exact answer_note (by decide)
    · split
      · exact answers_note (by decide)
      · simp
  · simp

theorem constructorInjection_answers (settings : ConstructorInjection.rule.Settings)
    (context : Context) :
    Acts (fun cursor => Answer ConstructorInjection.rule.messages context.file.length cursor.node)
      ((ConstructorInjection.rule.checker settings).start context) := by
  refine .tracking ["method_definition"] (ClassKeeper.constructorInjection.starts context) rfl rfl
    (otherNames_apart (by decide)) (by simp) ?_
  rw [List.forall_mem_singleton]
  exact answers_stateless constructor_answer

theorem enteredService_answer (root : Node) (cursor : Cursor) (frame : ClassFrame)
    (memory : Memory Unit) :
    ∀ act ∈ ServiceInjection.check root cursor frame memory,
      Answer ServiceInjection.rule.messages length cursor.node act := by
  have known : ServiceInjection.rule.messages.contains "useInjectFunction" = true := by decide
  rw [ServiceInjection.check]
  split
  · split
    · simp
    · dsimp only
      rw [List.forall_mem_cons]
      refine ⟨answer_note known, ?_⟩
      split
      · simp
      · exact answers_note known
  · simp

theorem serviceInjection_answers (settings : ServiceInjection.rule.Settings) (context : Context) :
    Acts (fun cursor => Answer ServiceInjection.rule.messages context.file.length cursor.node)
      ((ServiceInjection.rule.checker settings).start context) := by
  refine .tracking ["import_statement"] (ClassKeeper.serviceInjection.starts context) rfl rfl
    (otherNames_apart (by decide)) (enteredService_answer context.root) ?_
  rw [List.forall_mem_singleton]
  exact answers_recordImports _

theorem signalInputs_answers (settings : SignalInputs.rule.Settings) (context : Context) :
    Acts (fun cursor => Answer SignalInputs.rule.messages context.file.length cursor.node)
      ((SignalInputs.rule.checker settings).start context) := by
  have listed : ((SignalInputs.rule.checker settings).start context).handlers =
      .ofNamed (trackClasses (fun _ _ _ => []) ++
        ([("import_statement", recordImports context.file.text),
          (endEvent, .stateless SignalInputs.finish)] ++
            SignalInputs.fieldKinds.map fun kind => (kind, SignalInputs.checkField))) :=
    congrArg HandlerTable.ofNamed (List.append_assoc _ _ _)
  refine .tracking (["import_statement", endEvent] ++ SignalInputs.fieldKinds)
    (ClassKeeper.signalInputs.starts context) listed rfl (otherNames_apart (by decide))
    (by simp) ?_
  simp only [List.forall_mem_append, List.forall_mem_cons, List.forall_mem_map]
  refine ⟨⟨answers_recordImports _, answers_stateless ?_, by simp⟩, ?_⟩
  · intro cursor memory
    rw [SignalInputs.finish]
    split
    · exact answers_note (by decide)
    · simp
  · intro kind _ cursor memory
    rw [SignalInputs.checkField]
    split
    · dsimp only
      exact answers_note (by decide)
    · simp

theorem fetchKeywords_answer (settings : DataFetch.Settings) (call : Node) (method : String) :
    ∀ act ∈ DataFetch.checkKeywords settings call method,
      Answer DataFetch.rule.messages length node act := by
  rw [DataFetch.checkKeywords]
  split
  · exact answers_note (by decide)
  · simp

theorem fetchingCall_answer (settings : DataFetch.Settings) (cursor : Cursor)
    (memory : Memory Unit) :
    ∀ act ∈ DataFetch.checkCall settings cursor memory,
      Answer DataFetch.rule.messages length cursor.node act := by
  rw [DataFetch.checkCall]
  split
  · split
    · simp
    next member called =>
      split
      · simp
      next method selected =>
        rw [DataFetch.checkMember]
        split
        · split
          next fault failed =>
            rw [List.forall_mem_singleton]
            rw [DataFetch.receiverName?, map_eq_error_iff] at failed
            rw [memberName?, Option.bind_some, Option.ite_none_right_eq_some,
              beq_iff_eq] at selected
            exact .repeated (callee?_within called) selected.1 failed
          next =>
            split
            · exact answers_note (by decide)
            · exact fetchKeywords_answer _ _ _
        · exact fetchKeywords_answer _ _ _
  · simp

theorem lifecycleHook_answer (settings : DataFetch.Settings) (source : String) (cursor : Cursor)
    (memory : Memory Unit) :
    ∀ act ∈ DataFetch.checkMethod settings source cursor memory,
      Answer DataFetch.rule.messages length cursor.node act := by
  simp only [DataFetch.checkMethod]
  split
  · rw [List.forall_mem_append]
    constructor
    all_goals
      split
      · exact answers_note (by decide)
      · simp
  · simp

theorem dataFetch_answers (settings : DataFetch.rule.Settings) (context : Context) :
    Acts (fun cursor => Answer DataFetch.rule.messages context.file.length cursor.node)
      ((DataFetch.rule.checker settings).start context) := by
  refine .tracking ["call_expression", "method_definition"]
    ((ClassKeeper.dataFetch settings).starts context) rfl rfl (otherNames_apart (by decide))
    (by simp) ?_
  rw [List.forall_mem_cons, List.forall_mem_singleton]
  exact ⟨answers_stateless (fetchingCall_answer settings),
    answers_stateless (lifecycleHook_answer settings _)⟩

theorem crossing_answer (settings : FeatureIsolation.Settings) (filename : String)
    (statement : Node) :
    ∀ act ∈ FeatureIsolation.check settings filename statement,
      Answer FeatureIsolation.rule.messages length statement act := by
  rw [FeatureIsolation.check]
  split
  · split
    · simp only [FeatureIsolation.checkPath, List.forall_mem_append]
      refine ⟨⟨?_, ?_⟩, ?_⟩
      · split
        · simp
        · split
          · simp
          · exact answers_note (by decide)
      · split
        · exact answers_note (by decide)
        · simp
      · intro act member
        have overused := (List.mem_ite_nil_right.mp member).2
        obtain ⟨name, _, rfl⟩ := Option.map_eq_some_iff.mp (Option.mem_toList.mp overused)
        exact answer_note (by decide)
    · simp
  · simp

theorem featureIsolation_answers (settings : FeatureIsolation.rule.Settings) (context : Context) :
    Acts (fun cursor => Answer FeatureIsolation.rule.messages context.file.length cursor.node)
      ((FeatureIsolation.rule.checker settings).start context) := by
  refine acts_ofNamed (σ := Unit) ["import_statement"] rfl ⟨by decide, by decide +kernel⟩ ?_
  rw [List.forall_mem_singleton]
  exact answers_stateless fun cursor _ => crossing_answer settings _ cursor.node

theorem promiseSource_answer (settings : PromiseInObservable.Settings) (methods : List String)
    {call argument : Node} (within : Within call argument) :
    ∀ act ∈ PromiseInObservable.checkSource settings methods call argument,
      Answer PromiseInObservable.rule.messages length call act := by
  rw [PromiseInObservable.checkSource]
  split
  · simp
  next callee called =>
    split
    next fault failed =>
      rw [List.forall_mem_singleton]
      rw [PromiseInObservable.isPromiseStatic] at failed
      split at failed
      next selects =>
        exact .repeated (within.trans (callee?_within called)) (beq_iff_eq.mp selects)
          (map_eq_error_iff.mp failed)
      next => cases failed
    next =>
      exact answers_note (by decide)
    next =>
      split
      · exact answers_note (by decide)
      · simp

theorem observableFrom_answer (settings : PromiseInObservable.Settings) (cursor : Cursor)
    (memory : Memory (List String)) :
    ∀ act ∈ PromiseInObservable.checkCall settings cursor memory,
      Answer PromiseInObservable.rule.messages length cursor.node act := by
  rw [PromiseInObservable.checkCall]
  split
  · split
    · simp
    next argument passed =>
      obtain ⟨first, head, unwrapped⟩ := Option.bind_eq_some_iff.mp passed
      have within := (callArguments_within (List.mem_of_mem_head? head)).trans
        (innermost?_within unwrapped)
      split
      · exact promiseSource_answer settings memory.own within
      · simp
  · simp

theorem newObservable_answer (source : String) (call : Node) :
    ∀ act ∈ PromiseInObservable.checkNew source call,
      Answer PromiseInObservable.rule.messages length call act := by
  rw [PromiseInObservable.checkNew]
  split
  · split
    · simp
    · split
      · exact answers_note (by decide)
      · simp
  · simp

theorem recordMethod_answer (source : String) (cursor : Cursor) (memory : Memory (List String)) :
    (PromiseInObservable.recordMethod source cursor memory).2 = [] := by
  rw [PromiseInObservable.recordMethod]
  split
  · split <;> rfl
  · rfl

theorem promiseInObservable_answers (settings : PromiseInObservable.rule.Settings)
    (context : Context) :
    Acts (fun cursor => Answer PromiseInObservable.rule.messages context.file.length cursor.node)
      ((PromiseInObservable.rule.checker settings).start context) := by
  refine acts_ofNamed (σ := Memory (List String))
    ["import_statement", "method_definition", "call_expression", "new_expression"] rfl
    ⟨by decide, by decide +kernel⟩ ?_
  simp only [List.forall_mem_cons]
  refine ⟨answers_recordImports _, ?_, answers_stateless (observableFrom_answer settings),
    answers_stateless fun cursor _ => newObservable_answer _ cursor.node, by simp⟩
  intro cursor memory act member
  rw [recordMethod_answer] at member
  cases member

/-- The rules of the registry answer nothing else. -/
theorem registry_answers : ∀ rule ∈ registry, ∀ settings context,
    Acts (fun cursor => Answer rule.messages context.file.length cursor.node)
      ((rule.checker settings).start context) := by
  simp only [registry, List.forall_mem_cons]
  exact ⟨providedInRoot_answers, constructorInjection_answers, standalone_answers,
    promiseInObservable_answers, featureIsolation_answers, signalInputs_answers,
    serviceInjection_answers, dataFetch_answers, fun rule none => by cases none⟩

end Rules

end AngularLint.Proofs.RuleAnswers
