import AngularLint.Selector
import AngularLint.Proofs.AttributePrecedence
import AngularLint.Proofs.Descendants

/-! Where attribute paths lead. From a node of a parsed file they lead to texts, to flags, to the
node itself, to nodes below it, or to several siblings below it, in order. Nothing else can stand at
the end of a path, so a selector that asks for a number there never matches. -/

namespace AngularLint.Proofs.PathValues
open AttributePrecedence Descendants NodeAttributes NodeBuild NodeModel Outcomes Places

/-- At least two children of one parent, in their order, and told apart by their numbers. -/
structure Siblings (parent : Node) (nodes : List Node) : Prop where
  several : 2 ≤ nodes.length
  ordered : nodes.Sublist parent.children
  distinct : nodes.Pairwise fun first second => first.number < second.number

/-- What a path may lead to from a node. -/
inductive Reached (node : Node) : Value → Prop where
  | text (content : String) : Reached node (.text content)
  | flag : Reached node .flag
  | node {inner : Node} (within : Within node inner) : Reached node (.node inner)
  | nodes {parent : Node} {inners : List Node} (within : Within node parent)
      (siblings : Siblings parent inners) : Reached node (.nodes inners)

theorem nodesWhere_sublist (holds : ParseTree → Bool) {tree : ParseTree} {node : Node}
    (same : tree.kept.length = node.children.length) :
    (nodesWhere holds tree node).Sublist node.children := by
  have whole : (tree.kept.zip node.children).map Prod.snd = node.children :=
    List.map_snd_zip (Nat.le_of_eq same.symm)
  rw [← whole]
  exact List.filter_sublist.map Prod.snd

mutual

theorem subtree_sublist {ancestors : List Node} {node : Node} {cursor : Cursor}
    (member : cursor ∈ places ancestors node) :
    (places cursor.ancestors cursor.node).Sublist (places ancestors node) := by
  obtain ⟨kind, number, span, attributes, children⟩ := node
  rw [places_eq] at member
  rcases List.mem_cons.mp member with rfl | deeper
  · exact List.Sublist.refl _
  · rw [places_eq ancestors]
    exact (subtreeAll_sublist deeper).cons _

theorem subtreeAll_sublist {ancestors nodes : List Node} {cursor : Cursor}
    (member : cursor ∈ placesAll ancestors nodes) :
    (places cursor.ancestors cursor.node).Sublist (placesAll ancestors nodes) := by
  cases nodes with
  | nil => cases member
  | cons node rest =>
    rw [placesAll_cons] at member ⊢
    rcases List.mem_append.mp member with first | later
    · exact (subtree_sublist first).trans (List.sublist_append_left _ _)
    · exact (subtreeAll_sublist later).trans (List.sublist_append_right _ _)

end

theorem nodes_sublist (ancestors nodes : List Node) :
    nodes.Sublist ((placesAll ancestors nodes).map Cursor.node) := by
  induction nodes with
  | nil => exact List.nil_sublist _
  | cons node rest ih =>
    rw [placesAll_cons, places_eq, List.cons_append, List.map_cons, List.map_append]
    exact (ih.trans (List.sublist_append_right _ _)).cons_cons node

/-- The children of a node are numbered in their order when the nodes of the tree are. -/
theorem children_numbered {root : Node} {cursor : Cursor} (member : cursor ∈ root.cursors)
    (numbered : (root.cursors.map fun cursor => cursor.node.number).Pairwise (· < ·)) :
    cursor.node.children.Pairwise fun first second => first.number < second.number := by
  rw [cursors_eq] at member numbered
  have below : cursor.node.children.Sublist ((places [] root).map Cursor.node) := by
    have inside := (subtree_sublist member).map Cursor.node
    rw [places_eq cursor.ancestors, List.map_cons] at inside
    exact (nodes_sublist _ _).trans ((List.sublist_cons_self _ _).trans inside)
  have numbers : (cursor.node.children.map Node.number).Sublist
      ((places [] root).map fun cursor => cursor.node.number) := by
    have mapped := below.map Node.number
    rwa [List.map_map] at mapped
  exact List.pairwise_map.mp (numbered.sublist numbers)

theorem together_several {nodes several : List Node}
    (found : together nodes = some (.nodes several)) : several = nodes ∧ 2 ≤ nodes.length := by
  match nodes with
  | [] => cases found
  | [only] => cases found
  | first :: second :: rest =>
    cases found
    exact ⟨rfl, Nat.le_add_left 2 rest.length⟩

theorem ranked_several {source : String} {tree : ParseTree} {node : Node} {name : String}
    {several : List Node} (found : ranked source tree node name = some (.nodes several)) :
    together (nodesWhere (labelledAs name) tree node) = some (.nodes several) := by
  rcases Option.or_eq_some_iff.mp found with labelled | ⟨_, found⟩
  · exact labelled
  · exfalso
    rcases Option.or_eq_some_iff.mp found with flag | ⟨_, found⟩
    · rw [Option.ite_none_right_eq_some] at flag
      cases flag.2
    · rcases Option.or_eq_some_iff.mp found with ofKind | ⟨_, leaf⟩
      · obtain ⟨_, _, same⟩ := Option.map_eq_some_iff.mp ofKind
        cases same
      · rw [Option.ite_none_right_eq_some] at leaf
        cases leaf.2

variable {text : String} {root : Node}

/-- What holds of all nodes of a parsed text. -/
structure Parsed (text : String) (root : Node) : Prop where
  models : ∀ cursor ∈ root.cursors, ∃ part, Models text (.ofText text) part cursor.node
  numbered : (root.cursors.map fun cursor => cursor.node.number).Pairwise (· < ·)

theorem Parsed.siblings (parsed : Parsed text root) {cursor : Cursor}
    (member : cursor ∈ root.cursors) {name : String} {inners : List Node}
    (found : cursor.node.attribute? name = some (.nodes inners)) :
    Siblings cursor.node inners := by
  obtain ⟨part, models⟩ := parsed.models cursor member
  by_cases literal : part.kind = "string" ∧ name = "value"
  · rw [literal.2, attribute_literal models literal.1] at found
    cases found
  · rw [attribute_ranked models literal] at found
    obtain ⟨rfl, several⟩ := together_several (ranked_several found)
    have ordered := nodesWhere_sublist (labelledAs name) models.children.length_eq
    exact ⟨several, ordered, (children_numbered member parsed.numbered).sublist ordered⟩

theorem parsed_of_parse {grammar : Grammar} {filename : String} {file : SourceFile}
    (parsed : SourceFile.parse grammar filename text = .ok file) (rooted : file.root? = some root) :
    Parsed text root := by
  obtain ⟨parse, _, _, built, rfl⟩ := parse_ok parsed
  cases rooted
  constructor
  · intro cursor member
    obtain ⟨part, _, models⟩ := forall₂_mem (toNode_models built) member
    exact ⟨part, models⟩
  · rw [toNode_numbers built]
    exact List.pairwise_lt_range

theorem attribute_reached (parsed : Parsed text root) {cursor : Cursor}
    (member : cursor ∈ root.cursors) {inner : Node} (within : Within cursor.node inner)
    {name : String} {value : Value} (found : inner.attribute? name = some value) :
    Reached cursor.node value := by
  cases value with
  | text content => exact .text content
  | flag => exact .flag
  | node child => exact .node ((attribute_holds found).outward within)
  | nodes inners =>
    obtain ⟨place, placed, rfl⟩ := within_mem_cursors member within
    exact .nodes within (parsed.siblings placed found)

theorem sibling_reached {node parent : Node} {inners : List Node} (within : Within node parent)
    (siblings : Siblings parent inners) {index : Nat} {inner : Node}
    (there : inners[index]? = some inner) : Reached node (.node inner) :=
  .node (within.tail (siblings.ordered.subset (List.mem_of_getElem? there)))

theorem follow_reached (parsed : Parsed text root) {cursor : Cursor}
    (member : cursor ∈ root.cursors) {value next : Value} (reached : Reached cursor.node value)
    {segment : Segment} (followed : value.follow segment = some next) :
    Reached cursor.node next := by
  unfold Value.follow at followed
  split at followed
  next name inner =>
    cases reached with
    | node within => exact attribute_reached parsed member within followed
  next inner =>
    cases followed
    exact reached
  next index inners =>
    obtain ⟨inner, there, rfl⟩ := Option.map_eq_some_iff.mp followed
    cases reached with
    | nodes within siblings => exact sibling_reached within siblings there
  next => cases followed

theorem walk_reached (parsed : Parsed text root) {cursor : Cursor}
    (member : cursor ∈ root.cursors) {value next : Value} (reached : Reached cursor.node value)
    {step : Step} (walked : value.walk step = .ok (some next)) : Reached cursor.node next := by
  cases step with
  | along segment => exact follow_reached parsed member reached (Except.ok.inj walked)
  | fromEnd back =>
    cases reached with
    | nodes within siblings =>
      rw [Value.walk] at walked
      split at walked
      next =>
        obtain ⟨inner, there, rfl⟩ := Option.map_eq_some_iff.mp (Except.ok.inj walked)
        exact sibling_reached within siblings there
      next => cases walked
    | _ => cases walked

/-- One step from where the steps before have led, if they have led anywhere. -/
def advance (reached : Option Value) (step : Step) : Except PositionFault (Option Value) :=
  match reached with
  | some value => value.walk step
  | none => .ok none

theorem walk_eq (node : Node) (steps : List Step) :
    node.walk steps = steps.foldlM advance (some (.node node)) := rfl

theorem onward_reached (parsed : Parsed text root) {cursor : Cursor}
    (member : cursor ∈ root.cursors) {start : Option Value} {steps : List Step} {value : Value}
    (first : ∀ held, start = some held → Reached cursor.node held)
    (walked : steps.foldlM advance start = .ok (some value)) : Reached cursor.node value := by
  induction steps generalizing start with
  | nil => exact first value (Except.ok.inj walked)
  | cons step rest ih =>
    rw [List.foldlM_cons] at walked
    obtain ⟨next, stepped, later⟩ := bind_eq_ok_iff.mp walked
    refine ih ?_ later
    rintro held rfl
    cases start with
    | none => cases stepped
    | some before => exact walk_reached parsed member (first before rfl) stepped

theorem steps_reached (parsed : Parsed text root) {cursor : Cursor} (member : cursor ∈ root.cursors)
    {steps : List Step} {value : Value} (walked : cursor.node.walk steps = .ok (some value)) :
    Reached cursor.node value := by
  refine onward_reached parsed member ?_ ((walk_eq _ _).symm.trans walked)
  intro held same
  cases same
  exact .node Relation.ReflTransGen.refl

/-- Steps fail only where a position counts from the end. -/
theorem walk_along (node : Node) (path : AttributePath) :
    node.walk (path.map .along) = .ok (node.lookup path) := by
  have onward (start : Option Value) : (path.map Step.along).foldlM advance start =
      .ok (path.foldl (fun value segment => value.bind (·.follow segment)) start) := by
    induction path generalizing start with
    | nil => rfl
    | cons segment rest ih =>
      rw [List.map_cons, List.foldlM_cons, List.foldl_cons, ← ih]
      cases start <;> rfl
  exact onward _

/-- A position is one among the nodes of the attribute, whether it stands for one or for several. -/
theorem lookup_position (node : Node) (name : String) (index : Nat) :
    node.lookup [.name name, .position index] =
      (node.attributeNodes name)[index]?.map .node := by
  have steps : node.lookup [.name name, .position index] =
      (node.attribute? name).bind fun value => value.follow (.position index) := rfl
  rw [steps, Node.attributeNodes]
  cases node.attribute? name with
  | none => rfl
  | some value =>
    cases value with
    | node inner => cases index <;> rfl
    | nodes inners => cases index <;> rfl
    | text content => cases index <;> rfl
    | flag => cases index <;> rfl

/-- The literals that equal nothing in a tree: numbers, a flag that is not set, and nothing. -/
def Absent : Literal → Prop
  | .int _ => True
  | .float _ => True
  | .null => True
  | .flag value => value = false
  | .text _ => False

theorem constraint_absent {constraint : Constraint} {literal : Literal}
    (expected : constraint.expected = some literal) (absent : Absent literal) (node : Node) :
    constraint.holds node = false := by
  rw [Constraint.holds, expected]
  cases node.lookup constraint.path with
  | none => rfl
  | some value =>
    cases literal with
    | text content => cases absent
    | flag set =>
      cases absent
      cases value <;> rfl
    | _ => cases value <;> rfl

/-- From a node of a parsed file, a path leads to what stands at the node or below it, or nowhere.
It never fails unless a position counts from the end, and positions count the nodes of an attribute,
however many there are. A constraint that expects a number, `false` or `null` holds nowhere. -/
theorem paths_lead_below {grammar : Grammar} {filename : String} {file : SourceFile}
    (parsed : SourceFile.parse grammar filename text = .ok file)
    (rooted : file.root? = some root) (cursor : Cursor) (member : cursor ∈ root.cursors) :
    (∀ path value, cursor.node.lookup path = some value → Reached cursor.node value) ∧
      (∀ path, cursor.node.walk (path.map .along) = .ok (cursor.node.lookup path)) ∧
      (∀ steps value, cursor.node.walk steps = .ok (some value) → Reached cursor.node value) ∧
      (∀ name index, cursor.node.lookup [.name name, .position index] =
        (cursor.node.attributeNodes name)[index]?.map .node) ∧
      ∀ (constraint : Constraint) (literal : Literal), constraint.expected = some literal →
        Absent literal → constraint.holds cursor.node = false ∧
          ∀ selector : Selector, constraint ∈ selector.constraints →
            selector.holds cursor.node = false := by
  have whole := parsed_of_parse parsed rooted
  refine ⟨?_, walk_along cursor.node, ?_, lookup_position cursor.node, ?_⟩
  · intro path value found
    apply steps_reached whole member
    rw [walk_along, found]
  · intro steps value walked
    exact steps_reached whole member walked
  · intro constraint literal expected absent
    have fails := constraint_absent expected absent cursor.node
    refine ⟨fails, ?_⟩
    intro selector asked
    have some : selector.constraints.all (·.holds cursor.node) = false :=
      List.all_eq_false.mpr ⟨constraint, asked, by rw [fails]; exact Bool.false_ne_true⟩
    rw [Selector.holds, some, Bool.and_false]

/-- Two children with one label. -/
def repeated : ParseTree :=
  ⟨"program", true, none, 0, 14,
    [⟨"decorator", true, some "decorator", 0, 6, []⟩,
      ⟨"decorator", true, some "decorator", 7, 14, []⟩]⟩

def repeatedFirst : Node :=
  ⟨"decorator", 1, { start := 0, stop := 6 }, ⟨[("text", .text "@first")]⟩, []⟩

def repeatedSecond : Node :=
  ⟨"decorator", 2, { start := 7, stop := 14 }, ⟨[("text", .text "@second")]⟩, []⟩

def repeatedRoot : Node :=
  ⟨"program", 0, { start := 0, stop := 14 }, ⟨[("decorator", .children [0, 1])]⟩,
    [repeatedFirst, repeatedSecond]⟩

theorem repeated_leads_below :
    SourceFile.parse ⟨fun _ _ => some ⟨repeated, false⟩⟩ "a.ts" "@first @second" =
        .ok ⟨"a.ts", "@first @second", some repeatedRoot, false⟩ ∧
      Cursor.ofRoot repeatedRoot ∈ repeatedRoot.cursors ∧
      Reached repeatedRoot (.nodes [repeatedFirst, repeatedSecond]) ∧
      repeatedRoot.lookup [.name "decorator", .position 1] = some (.node repeatedSecond) := by
  have built : repeated.toNode "@first @second" = .ok (some repeatedRoot) := by
    rw [toNode_eq]
    rfl
  have parsed : SourceFile.parse ⟨fun _ _ => some ⟨repeated, false⟩⟩ "a.ts" "@first @second" =
      .ok ⟨"a.ts", "@first @second", some repeatedRoot, false⟩ :=
    NodeSpans.parse_of_toNode built rfl
  have member : Cursor.ofRoot repeatedRoot ∈ repeatedRoot.cursors := by
    rw [cursors_eq]
    exact self_mem_places [] repeatedRoot
  obtain ⟨reached, -, -, positions, -⟩ := paths_lead_below parsed rfl _ member
  exact ⟨parsed, member, reached [.name "decorator"] _ rfl, positions "decorator" 1⟩

end AngularLint.Proofs.PathValues
