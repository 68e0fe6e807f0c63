import AngularLint.Angular.Calls
import AngularLint.Proofs.Places
import Mathlib.Logic.Relation

/-! The nodes below a node. A path of attributes leads nowhere else, and neither do parentheses that
are taken off: whatever a rule finds by looking down from a node is one of these. -/

namespace AngularLint.Proofs.Descendants
open AngularLint.Angular Places Relation

/-- The second node is the first one, or it lies below. -/
def Within : Node → Node → Prop :=
  ReflTransGen fun above below => below ∈ above.children

/-- The nodes of a value lie within a node. -/
def Holds (node : Node) : Value → Prop
  | .node inner => Within node inner
  | .nodes inners => ∀ inner ∈ inners, Within node inner
  | .text _ => True
  | .flag => True

theorem within_child {node child : Node} (below : child ∈ node.children) : Within node child :=
  .single below

theorem Holds.outward {outer node : Node} {value : Value} (within : Within outer node)
    (holds : Holds node value) : Holds outer value := by
  cases value with
  | node inner => exact within.trans holds
  | nodes inners => exact fun inner member => within.trans (holds inner member)
  | text content => trivial
  | flag => trivial

theorem valueOf_holds {node : Node} {held : Attribute} {value : Value}
    (found : node.valueOf held = some value) : Holds node value := by
  cases held with
  | text content =>
    cases found
    trivial
  | flag =>
    cases found
    trivial
  | child position =>
    obtain ⟨inner, there, rfl⟩ := Option.map_eq_some_iff.mp found
    exact within_child (List.mem_of_getElem? there)
  | children positions =>
    cases found
    intro inner member
    obtain ⟨position, _, there⟩ := List.mem_filterMap.mp member
    exact within_child (List.mem_of_getElem? there)

theorem attribute_holds {node : Node} {name : String} {value : Value}
    (found : node.attribute? name = some value) : Holds node value := by
  obtain ⟨held, _, valued⟩ := Option.bind_eq_some_iff.mp found
  exact valueOf_holds valued

theorem follow_holds {node : Node} {value next : Value} {segment : Segment}
    (holds : Holds node value) (found : value.follow segment = some next) : Holds node next := by
  unfold Value.follow at found
  split at found
  next name inner => exact (attribute_holds found).outward holds
  next inner =>
    cases found
    exact holds
  next index inners =>
    obtain ⟨inner, there, rfl⟩ := Option.map_eq_some_iff.mp found
    exact holds inner (List.mem_of_getElem? there)
  next => cases found

theorem lookup_holds {node : Node} {path : AttributePath} {value : Value}
    (found : node.lookup path = some value) : Holds node value := by
  let Inside (reached : Option Value) := ∀ value, reached = some value → Holds node value
  have first : Inside (some (.node node)) := by
    intro value same
    cases same
    exact ReflTransGen.refl
  refine List.foldlRecOn (motive := Inside) path _ first ?_ value found
  intro reached inside segment _ next found
  obtain ⟨held, there, followed⟩ := Option.bind_eq_some_iff.mp found
  exact follow_holds (inside held there) followed

theorem childAt?_within {node child : Node} {names : List String}
    (found : node.childAt? names = some child) : Within node child := by
  obtain ⟨value, there, isNode⟩ := Option.bind_eq_some_iff.mp found
  have holds := lookup_holds there
  cases value with
  | node inner =>
    cases isNode
    exact holds
  | _ => cases isNode

/-- The end of a path of two names is an attribute of a node on the way. -/
theorem childAt?_second {node inner : Node} {first second : String}
    (found : node.childAt? [first, second] = some inner) :
    ∃ middle, Within node middle ∧ middle.attribute? second = some (.node inner) := by
  obtain ⟨value, there, isNode⟩ := Option.bind_eq_some_iff.mp found
  obtain ⟨held, reached, followed⟩ := Option.bind_eq_some_iff.mp there
  cases value with
  | node other =>
    cases isNode
    cases held with
    | node middle => exact ⟨middle, attribute_holds reached, followed⟩
    | _ => cases followed
  | _ => cases isNode

theorem innermost?_within {node inner : Node} (found : innermost? node = some inner) :
    Within node inner := by
  fun_induction innermost? node with
  | case1 => cases found
  | case2 kind number span attributes isParens first rest ih =>
    exact .head List.mem_cons_self (ih found)
  | case3 =>
    cases found
    exact ReflTransGen.refl

theorem callee?_within {call callee : Node} (found : callee? call = some callee) :
    Within call callee := by
  obtain ⟨function, there, unwrapped⟩ := Option.bind_eq_some_iff.mp found
  exact (childAt?_within there).trans (innermost?_within unwrapped)

theorem findProperty?_within {object property : Node} {key : String}
    (found : findProperty? object key = some property) : Within object property :=
  within_child (List.mem_of_mem_filter (List.mem_of_find?_eq_some found))

theorem propertyValue?_within {property value : Node}
    (found : propertyValue? property = some value) : Within property value := by
  rw [propertyValue?, Option.ite_none_right_eq_some] at found
  exact childAt?_within found.2

theorem callArguments_within {call argument : Node} (member : argument ∈ callArguments call) :
    Within call argument := by
  rw [callArguments] at member
  cases found : call.childAt? ["arguments"] with
  | none => simp [found] at member
  | some arguments =>
    rw [found] at member
    exact (childAt?_within found).tail member

/-- What lies within a node of a tree has its own place in the tree. -/
theorem within_mem_cursors {root : Node} {cursor : Cursor} {inner : Node}
    (member : cursor ∈ root.cursors) (within : Within cursor.node inner) :
    ∃ place ∈ root.cursors, place.node = inner := by
  induction within with
  | refl => exact ⟨cursor, member, rfl⟩
  | tail _ below ih =>
    obtain ⟨above, aboveMember, rfl⟩ := ih
    exact ⟨_, child_mem_cursors aboveMember below, rfl⟩

end AngularLint.Proofs.Descendants
