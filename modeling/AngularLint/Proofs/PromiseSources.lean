import AngularLint.Proofs.Descendants
import AngularLint.Proofs.ImportHistory
import AngularLint.Proofs.Responses
import AngularLint.Rules.PromiseInObservable

/-! Where promises get into observables. What the rule gathers on its way, the imports and the
methods that give promises, depends on nothing but the nodes that come before a call, so each
finding can be told from the tree alone. -/

namespace AngularLint.Proofs.PromiseSources
open AngularLint.Angular AngularLint.Rules.PromiseInObservable AngularLint.Text
open Descendants Dispatch EngineTrace ImportHistory NamedTables Reactions Responses RuleTrace

def Mentions (text part : String) : Prop :=
  part.toList <:+: text.toList

instance (text part : String) : Decidable (Mentions text part) :=
  inferInstanceAs (Decidable (_ <:+: _))

def Begins (text start : String) : Prop :=
  start.toList <+: text.toList

instance (text start : String) : Decidable (Begins text start) :=
  inferInstanceAs (Decidable (_ <+: _))

theorem splitAtFirst?_isSome (part text : List Char) :
    (splitAtFirst? part text).isSome = true ↔ part <:+: text := by
  induction text with
  | nil =>
    rw [splitAtFirst?, List.infix_nil]
    cases part <;> simp
  | cons first rest ih =>
    rw [splitAtFirst?, List.infix_cons_iff, ← ih, ← List.isPrefixOf_iff_prefix]
    split
    next here => simp [here]
    next absent => simp [absent]

theorem contains_iff (text part : String) : contains text part = true ↔ Mentions text part :=
  splitAtFirst?_isSome _ _

theorem startsWith_iff (text start : String) : startsWith text start = true ↔ Begins text start :=
  List.isPrefixOf_iff_prefix

/-- A call of `from`, where the name is that of the observable library or is not imported. -/
def CallsFrom (bindings : List ImportBinding) (call : Node) : Prop :=
  ∃ callee ∈ callee? call, callee.kind = "identifier" ∧ leafText? callee = some "from" ∧
    ∀ binding ∈ lastBinding? bindings "from",
      binding.importedName = "from" ∧ Begins binding.modulePath "rxjs"

instance (bindings : List ImportBinding) (call : Node) : Decidable (CallsFrom bindings call) :=
  inferInstanceAs (Decidable (∃ callee ∈ callee? call, _))

/-- The first argument of a call without its parentheses. -/
def firstArgument? (call : Node) : Option Node :=
  unwrapParens? (callArguments call).head?

/-- One of the static methods of `Promise` that make a promise. -/
def PromiseStatic (callee : Node) : Prop :=
  callee.kind = "member_expression" ∧
    (∃ receiver ∈ unwrapParens? (callee.childAt? ["object"]),
      leafText? receiver = some "Promise") ∧
    ∃ name ∈ memberName? callee, name ∈ promiseStatics

instance : DecidablePred PromiseStatic := fun _ =>
  inferInstanceAs (Decidable (_ ∧ _ ∧ _))

/-- A name that is known, or that of a method that gives a promise, or that of a member with one of
the configured beginnings. -/
def PromisesByName (settings : Settings) (methods : List String) (callee : Node) : Prop :=
  (callee.kind = "identifier" ∧ ∃ name ∈ leafText? callee,
      name ∈ settings.knownPromiseFunctions ∨ name ∈ methods) ∨
    ∃ name ∈ memberName? callee, name ∈ settings.knownPromiseFunctions ∨ name ∈ methods ∨
      ∃ start ∈ settings.promiseMethodPrefixes, Begins name start

instance (settings : Settings) (methods : List String) (callee : Node) :
    Decidable (PromisesByName settings methods callee) :=
  inferInstanceAs (Decidable (_ ∨ _))

def AsyncFunction (node : Node) : Prop :=
  ∃ inner ∈ unwrapParens? node, inner.kind ∈ functionKinds ∧ inner.hasFlag "async" = true

instance : DecidablePred AsyncFunction := fun node =>
  inferInstanceAs (Decidable (∃ inner ∈ unwrapParens? node, _))

/-- An async function is called, or a member of one. -/
def CallsAsync (callee : Node) : Prop :=
  AsyncFunction callee ∨ callee.kind = "member_expression" ∧
    ∃ object ∈ callee.childAt? ["object"], AsyncFunction object

instance : DecidablePred CallsAsync := fun _ =>
  inferInstanceAs (Decidable (_ ∨ _))

def GivesPromise (source : String) (method : Node) : Prop :=
  method.hasFlag "async" = true ∨
    ∃ type ∈ method.childAt? ["return_type"], Mentions (type.textIn source) "Promise"

instance (source : String) : DecidablePred (GivesPromise source) := fun _ =>
  inferInstanceAs (Decidable (_ ∨ _))

/-- The names of the methods among some nodes that give promises. -/
def promiseMethods (source : String) (cursors : List Cursor) : List String :=
  cursors.filterMap fun cursor =>
    if cursor.node.kind = "method_definition" ∧ GivesPromise source cursor.node then
      methodName? cursor.node
    else none

/-- An observable is made of a function that works on promises. -/
def WrapsPromise (source : String) (node : Node) : Prop :=
  leafTextAt? node "constructor" = some "Observable" ∧
    ∃ body ∈ firstArgument? node, body.kind ∈ functionKinds ∧
      ∃ marker ∈ wrapperMarkers, Mentions (body.textIn source) marker

instance (source : String) : DecidablePred (WrapsPromise source) := fun _ =>
  inferInstanceAs (Decidable (_ ∧ _))

/-- What is said of a call that is passed to `from`. -/
def passedMessage? (settings : Settings) (methods : List String) (callee : Node) : Option String :=
  if PromiseStatic callee then some "noPromiseInObservable"
  else if PromisesByName settings methods callee ∨ CallsAsync callee then some "avoidFromPromise"
  else none

/-- What is said of a node in view of the nodes that come before it. -/
def messageAt? (settings : Settings) (source : String) (earlier : List Cursor) (cursor : Cursor) :
    Option String :=
  if cursor.node.kind = "call_expression" ∧ CallsFrom (bindingsIn source earlier) cursor.node then
    ((firstArgument? cursor.node).filter fun passed => passed.kind = "call_expression").bind
      fun passed => (callee? passed).bind
        (passedMessage? settings (promiseMethods source earlier))
  else if cursor.node.kind = "new_expression" ∧ WrapsPromise source cursor.node then
    some "avoidObservableWrapper"
  else none

/-- No member is selected of several receivers. -/
def SingleReceivers (root : Node) : Prop :=
  ∀ cursor ∈ root.cursors, cursor.node.kind = "member_expression" →
    ∀ nodes, cursor.node.attribute? "object" ≠ some (.nodes nodes)

theorem observableFrom_iff (source : String) (earlier : List Cursor) (call : Node) :
    (callee? call).any (isObservableFrom (tableAfter source earlier)) = true ↔
      CallsFrom (bindingsIn source earlier) call := by
  have named (callee : Node) : isObservableFrom (tableAfter source earlier) callee = true ↔
      callee.kind = "identifier" ∧ leafText? callee = some "from" ∧
        ∀ binding ∈ lastBinding? (bindingsIn source earlier) "from",
          binding.importedName = "from" ∧ Begins binding.modulePath "rxjs" := by
    rw [isObservableFrom, tableAfter, tableOf_get?, Bool.and_eq_true, Bool.and_eq_true, beq_iff_eq,
      beq_iff_eq, and_assoc]
    cases lastBinding? (bindingsIn source earlier) "from" with
    | none => simp
    | some binding => simp [startsWith_iff]
  rw [Option.any_eq_true]
  simp only [CallsFrom, Option.mem_def, named]

theorem childAt?_object (node : Node) :
    node.childAt? ["object"] = (node.attribute? "object").bind Value.node? := rfl

theorem receiver?_single {member : Node}
    (single : ∀ nodes, member.attribute? "object" ≠ some (.nodes nodes)) :
    receiver? member = .ok (unwrapParens? (member.childAt? ["object"])) := by
  rw [receiver?, childAt?_object]
  cases held : member.attribute? "object" with
  | none => rfl
  | some value =>
    cases value with
    | nodes nodes => exact absurd held (single nodes)
    | _ => rfl

theorem isPromiseStatic_eq {callee : Node}
    (single : callee.kind = "member_expression" →
      ∀ nodes, callee.attribute? "object" ≠ some (.nodes nodes)) :
    isPromiseStatic callee = .ok (decide (PromiseStatic callee)) := by
  rw [isPromiseStatic]
  by_cases member : callee.kind = "member_expression"
  · rw [if_pos (beq_iff_eq.mpr member), receiver?_single (single member)]
    apply congrArg Except.ok
    rw [Bool.eq_iff_iff, decide_eq_true_iff, Bool.and_eq_true, beq_iff_eq, Option.any_eq_true,
      leafText?, Option.bind_eq_some_iff]
    simp only [PromiseStatic, leafText?, Option.bind_some, member, true_and, Option.mem_def,
      List.contains_iff_mem]
  · rw [if_neg (mt beq_iff_eq.mp member)]
    exact congrArg Except.ok (decide_eq_false fun static => member static.1).symm

theorem isPromiseName_iff (settings : Settings) (methods : List String) (callee : Node) :
    isPromiseName settings methods callee = true ↔ PromisesByName settings methods callee := by
  rw [isPromiseName, PromisesByName]
  by_cases identifier : callee.kind = "identifier"
  · have noMember : memberName? callee = none := by
      rw [memberName?, Option.bind_some, identifier]
      rfl
    simp [identifier, noMember, Option.any_eq_true]
  · simp [identifier, Option.any_eq_true, startsWith_iff, or_assoc]

theorem isAsyncFunction_iff (node? : Option Node) :
    isAsyncFunction node? = true ↔ ∃ node ∈ node?, AsyncFunction node := by
  cases node? with
  | none => simp [isAsyncFunction, unwrapParens?]
  | some node => simp [isAsyncFunction, AsyncFunction, Option.any_eq_true]

theorem invokesAsyncFunction_iff (callee : Node) :
    invokesAsyncFunction callee = true ↔ CallsAsync callee := by
  simp [invokesAsyncFunction, CallsAsync, isAsyncFunction_iff]

theorem returnsPromise_iff (source : String) (method : Node) :
    returnsPromise source method = true ↔ GivesPromise source method := by
  simp [returnsPromise, GivesPromise, Option.any_eq_true, contains_iff]

theorem wrapper_iff (source : String) (body : Node) :
    (functionKinds.contains body.kind && wrapperMarkers.any (contains (body.textIn source))) =
        true ↔
      body.kind ∈ functionKinds ∧
        ∃ marker ∈ wrapperMarkers, Mentions (body.textIn source) marker := by
  simp [contains_iff]

/-- The finding with a message, if there is one. -/
def noteOf (node : Node) (messageId? : Option String) : List Act :=
  (messageId?.map fun messageId => .note node.span messageId []).toList

theorem checkSource_eq (settings : Settings) (methods : List String) (call : Node) {passed : Node}
    (single : ∀ callee, callee? passed = some callee → callee.kind = "member_expression" →
      ∀ nodes, callee.attribute? "object" ≠ some (.nodes nodes)) :
    checkSource settings methods call passed =
      noteOf call ((callee? passed).bind (passedMessage? settings methods)) := by
  rw [checkSource]
  cases found : callee? passed with
  | none => rfl
  | some callee =>
    simp only [isPromiseStatic_eq (single callee found), Option.bind_some, passedMessage?]
    by_cases static : PromiseStatic callee
    · simp [static, noteOf]
    · have named : (isPromiseName settings methods callee || invokesAsyncFunction callee) = true ↔
          PromisesByName settings methods callee ∨ CallsAsync callee := by
        rw [Bool.or_eq_true, isPromiseName_iff, invokesAsyncFunction_iff]
      simp only [static, decide_false, if_false, named]
      split <;> rfl

theorem checkNew_eq (source : String) (node : Node) :
    checkNew source node =
      noteOf node (if WrapsPromise source node then some "avoidObservableWrapper" else none) := by
  have first : unwrapParens? (callArguments node).head? = firstArgument? node := rfl
  rw [checkNew, first]
  by_cases observable : leafTextAt? node "constructor" = some "Observable"
  · rw [if_pos (beq_iff_eq.mpr observable)]
    cases found : firstArgument? node with
    | none => simp [WrapsPromise, found, noteOf]
    | some body =>
      have wraps : WrapsPromise source node ↔ body.kind ∈ functionKinds ∧
          ∃ marker ∈ wrapperMarkers, Mentions (body.textIn source) marker := by
        simp only [WrapsPromise, observable, found, true_and, Option.mem_def, Option.some.injEq,
          exists_eq_left']
      simp only [wrapper_iff, wraps]
      split <;> rfl
  · rw [if_neg (mt beq_iff_eq.mp observable), if_neg fun wraps => observable wraps.1]
    rfl

theorem passedMessage?_reverse (settings : Settings) (methods : List String) :
    passedMessage? settings methods.reverse = passedMessage? settings methods := by
  have same (callee : Node) : PromisesByName settings methods.reverse callee ↔
      PromisesByName settings methods callee := by
    simp only [PromisesByName, List.mem_reverse]
  funext callee
  simp only [passedMessage?, same]

theorem passed_single {root : Node} (single : SingleReceivers root) {cursor : Cursor}
    (member : cursor ∈ root.cursors) {passed callee : Node}
    (first : firstArgument? cursor.node = some passed) (found : callee? passed = some callee)
    (selects : callee.kind = "member_expression") (nodes : List Node) :
    callee.attribute? "object" ≠ some (.nodes nodes) := by
  obtain ⟨argument, head, unwrapped⟩ := Option.bind_eq_some_iff.mp first
  have argued := callArguments_within (List.mem_of_head? head)
  have within : Within cursor.node callee :=
    (argued.trans (innermost?_within unwrapped)).trans (callee?_within found)
  obtain ⟨place, there, rfl⟩ := within_mem_cursors member within
  exact single place there selects nodes

theorem checkCall_eq (settings : Settings) (source : String) {root : Node}
    (single : SingleReceivers root) (earlier : List Cursor) {cursor : Cursor}
    (member : cursor ∈ root.cursors) (isCall : cursor.node.kind = "call_expression")
    (classes : ClassStack) :
    checkCall settings cursor
        ⟨tableAfter source earlier, classes, (promiseMethods source earlier).reverse⟩ =
      noteOf cursor.node (messageAt? settings source earlier cursor) := by
  have first : unwrapParens? (callArguments cursor.node).head? = firstArgument? cursor.node :=
    rfl
  rw [checkCall, messageAt?, first]
  by_cases calls : CallsFrom (bindingsIn source earlier) cursor.node
  · rw [if_pos ((observableFrom_iff source earlier _).mpr calls), if_pos ⟨isCall, calls⟩]
    cases found : firstArgument? cursor.node with
    | none => rfl
    | some passed =>
      by_cases call : passed.kind = "call_expression"
      · simp only [call, beq_self_eq_true, if_true, Option.filter_some, decide_true,
          Option.bind_some]
        rw [checkSource_eq settings _ _ fun callee => passed_single single member found,
          passedMessage?_reverse]
      · simp [call, noteOf]
  · have noNew : ¬ (cursor.node.kind = "new_expression" ∧ WrapsPromise source cursor.node) := by
      rintro ⟨isNew, _⟩
      rw [isCall] at isNew
      exact absurd isNew (by decide)
    rw [if_neg (mt (observableFrom_iff source earlier _).mp calls), if_neg fun both => calls both.2,
      if_neg noNew]
    rfl

/-- What the rule remembers of some nodes. -/
def gathered (source : String) (cursors : List Cursor) : Memory (List String) :=
  ⟨tableAfter source cursors, [], (promiseMethods source cursors).reverse⟩

def handlers (settings : Settings) (source : String) :
    List (String × Handler (Memory (List String))) :=
  [("import_statement", recordImports source), ("method_definition", recordMethod source),
    ("call_expression", .stateless (checkCall settings)),
    ("new_expression", .stateless fun cursor _ => checkNew source cursor.node)]

theorem messageAt?_other {cursor : Cursor} (noCall : cursor.node.kind ≠ "call_expression")
    (noNew : cursor.node.kind ≠ "new_expression") (settings : Settings) (source : String)
    (earlier : List Cursor) : messageAt? settings source earlier cursor = none := by
  rw [messageAt?, if_neg fun both => noCall both.1, if_neg fun both => noNew both.1]

theorem promiseMethods_snoc (source : String) (cursors : List Cursor) (cursor : Cursor) :
    promiseMethods source (cursors ++ [cursor]) =
      promiseMethods source cursors ++
        (if cursor.node.kind = "method_definition" ∧ GivesPromise source cursor.node then
          methodName? cursor.node else none).toList := by
  rw [promiseMethods, List.filterMap_append, List.filterMap_eq_flatMap_toList _ [cursor],
    List.flatMap_singleton]
  rfl

theorem promiseMethods_other {cursor : Cursor} (noMethod : cursor.node.kind ≠ "method_definition")
    (source : String) (cursors : List Cursor) :
    promiseMethods source (cursors ++ [cursor]) = promiseMethods source cursors := by
  rw [promiseMethods_snoc, if_neg fun both => noMethod both.1]
  exact List.append_nil _

theorem recordMethod_eq {cursor : Cursor} (isMethod : cursor.node.kind = "method_definition")
    (source : String) (earlier : List Cursor) :
    recordMethod source cursor (gathered source earlier) =
      (⟨tableAfter source earlier, [], (promiseMethods source (earlier ++ [cursor])).reverse⟩,
        []) := by
  rw [recordMethod, promiseMethods_snoc]
  cases methodName? cursor.node with
  | none => simp [gathered]
  | some name =>
    by_cases gives : GivesPromise source cursor.node
    · simp [returnsPromise_iff, gives, isMethod, gathered]
    · simp [returnsPromise_iff, gives, gathered]

theorem respond_entering (settings : Settings) (source : String) {root : Node}
    (single : SingleReceivers root) (earlier : List Cursor) (cursor : Cursor)
    (member : cursor ∈ root.cursors) :
    respond (handlers settings source) (.enter, cursor) (gathered source earlier) =
      (gathered source (earlier ++ [cursor]),
        noteOf cursor.node (messageAt? settings source earlier cursor)) := by
  by_cases isImport : cursor.node.kind = "import_statement"
  · rw [respond_named (by rw [isImport]; decide) (by rw [isImport]; rfl),
      messageAt?_other (by rw [isImport]; decide) (by rw [isImport]; decide), gathered, gathered,
      tableAfter_import isImport, promiseMethods_other (by rw [isImport]; decide)]
    rfl
  by_cases isMethod : cursor.node.kind = "method_definition"
  · rw [respond_named (by rw [isMethod]; decide) (by rw [isMethod]; rfl), recordMethod_eq isMethod,
      messageAt?_other (by rw [isMethod]; decide) (by rw [isMethod]; decide), gathered,
      tableAfter_other isImport]
    rfl
  -- From here on nothing is remembered of the node.
  have kept : gathered source (earlier ++ [cursor]) = gathered source earlier := by
    rw [gathered, tableAfter_other isImport, promiseMethods_other isMethod, gathered]
  rw [kept]
  by_cases isCall : cursor.node.kind = "call_expression"
  · rw [respond_named (by rw [isCall]; decide) (by rw [isCall]; rfl)]
    exact congrArg (Prod.mk _) (checkCall_eq settings source single earlier member isCall [])
  by_cases isNew : cursor.node.kind = "new_expression"
  · rw [respond_named (by rw [isNew]; decide) (by rw [isNew]; rfl), messageAt?,
      if_neg fun both => isCall both.1]
    simp only [isNew, true_and]
    exact congrArg (Prod.mk _) (checkNew_eq source cursor.node)
  · rw [respond_silent, messageAt?_other isCall isNew]
    · rfl
    · simp only [handlers, List.forall_mem_cons]
      exact ⟨fun same => absurd same.symm isImport, fun same => absurd same.symm isMethod,
        fun same => absurd same.symm isCall, fun same => absurd same.symm isNew, by simp⟩

theorem messageAt?_known {settings : Settings} {source : String} {earlier : List Cursor}
    {cursor : Cursor} {messageId : String}
    (found : messageAt? settings source earlier cursor = some messageId) :
    rule.messages.contains messageId = true := by
  rw [messageAt?] at found
  split at found
  · obtain ⟨passed, _, called⟩ := Option.bind_eq_some_iff.mp found
    obtain ⟨callee, _, said⟩ := Option.bind_eq_some_iff.mp called
    rw [passedMessage?] at said
    split at said
    · cases said
      rfl
    · split at said <;> cases said
      rfl
  · split at found <;> cases found
    rfl

theorem perform_noteOf {active : ActiveRule} {file : SourceFile} (node : Node)
    {messageId? : Option String}
    (known : ∀ messageId ∈ messageId?, active.rule.messages.contains messageId = true) :
    (active.reporter file).perform (noteOf node messageId?) =
      ((messageId?.map fun messageId =>
        noted active.rule active.severity node.span messageId []).toList, none) := by
  cases messageId? with
  | none => rfl
  | some messageId => exact perform_note (known messageId rfl) node.span []

/-- The findings are those that the tree alone tells of its nodes, each in view of the nodes that
come earlier, and in the order of the nodes. -/
theorem promise_sources_reported {engine : Engine} (distinct : engine.ruleIds.Nodup)
    (settings : Settings) {severity : Severity}
    (activated : ⟨rule, severity, rule.checker settings⟩ ∈ engine.rules)
    {file : SourceFile} {root : Node} (rooted : file.root? = some root)
    (single : SingleReceivers root) :
    (engine.run file).forRule rule.id =
        (withEarlier root.cursors).filterMap (fun place =>
          (messageAt? settings file.text place.1 place.2).map fun messageId =>
            noted rule severity place.2.node.span messageId []) ∧
      (engine.run file).faults.filter (·.rule == rule.id) = [] := by
  have staying : Staying ["import_statement", "method_definition", "call_expression",
      "new_expression"] := ⟨⟨by decide, by decide⟩, by decide⟩
  obtain ⟨found, clean⟩ := run_named distinct activated rooted rfl
    (respond_entering settings file.text single) (fun _ => rfl) staying
    (fun place _ => perform_noteOf place.2.node fun _ => messageAt?_known) rfl
  rw [List.append_nil] at found
  rw [List.filterMap_eq_flatMap_toList]
  exact ⟨found, clean⟩

def leafOf (kind : String) (number : Nat) (text : String) : Node :=
  ⟨kind, number, ⟨number, number + 1, by omega⟩, ⟨[("text", .text text)]⟩, []⟩

def callNode (number : Nat) (callee : Node) (arguments : List Node) : Node :=
  let span : Span := ⟨number, number + 9, by omega⟩
  ⟨"call_expression", number, span, ⟨[("function", .child 0), ("arguments", .child 1)]⟩,
    [callee, ⟨"arguments", number + 1, span, .empty, arguments⟩]⟩

/-- The call of a method by its name, passed to `from`. -/
def fromRefresh (number : Nat) : Node :=
  callNode number (leafOf "identifier" (number + 2) "from")
    [callNode (number + 3) (leafOf "identifier" (number + 5) "refresh") []]

/-- The call of a static method of `Promise`, passed to `from`. -/
def fromPromise (number : Nat) : Node :=
  callNode number (leafOf "identifier" (number + 2) "from")
    [callNode (number + 3) ⟨"member_expression", number + 5, ⟨number + 5, number + 9, by omega⟩,
      ⟨[("object", .child 0), ("property", .child 1)]⟩,
      [leafOf "identifier" (number + 6) "Promise",
        leafOf "property_identifier" (number + 7) "all"]⟩ []]

/-- The method is called above and below the place where it turns out to be async. -/
def promisingFile : Node :=
  ⟨"program", 1, ⟨1, 84, by decide⟩, .empty,
    [importOf 2 "from" "rxjs", fromRefresh 10,
      ⟨"method_definition", 20, ⟨20, 29, by decide⟩, ⟨[("async", .flag), ("name", .child 0)]⟩,
        [leafOf "property_identifier" 21 "refresh"]⟩,
      fromRefresh 30, fromPromise 40]⟩

theorem promising_file_reported :
    let engine : Engine := ⟨[⟨rule, .warn, rule.checker Settings.default⟩]⟩
    let file : SourceFile := ⟨"a.ts", "", some promisingFile, false⟩
    engine.ruleIds.Nodup ∧ SingleReceivers promisingFile ∧
      (engine.run file).forRule rule.id =
        [noted rule .warn (fromRefresh 30).span "avoidFromPromise" [],
          noted rule .warn (fromPromise 40).span "noPromiseInObservable" []] := by
  intro engine file
  have distinct : engine.ruleIds.Nodup := by decide
  have rooted : file.root? = some promisingFile := rfl
  have receivers : ∀ cursor ∈ Places.places [] promisingFile,
      cursor.node.kind = "member_expression" → (cursor.node.childAt? ["object"]).isSome := by
    decide
  have single : SingleReceivers promisingFile := by
    intro cursor member selects nodes held
    rw [Places.cursors_eq] at member
    have one := receivers cursor member selects
    rw [childAt?_object, held] at one
    cases one
  obtain ⟨found, _⟩ := promise_sources_reported distinct Settings.default List.mem_cons_self rooted
    single
  refine ⟨distinct, single, found.trans ?_⟩
  rw [Places.cursors_eq]
  decide +kernel

end AngularLint.Proofs.PromiseSources
