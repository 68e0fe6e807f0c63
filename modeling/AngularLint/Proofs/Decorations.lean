import AngularLint.Proofs.ClassFrames
import AngularLint.Proofs.Places
import Mathlib.Data.List.DropRight

/-! What the decorators around a node say about it. A class carries its own decorators and those
before an `export` around it, a member of a class its own and the run of decorators directly before
it in the class body; and the marks of a class tell which decorators it carries. -/

namespace AngularLint.Proofs.Decorations
open AngularLint.Angular ClassFrames ClassWalk Places

/-- The parent of a node, in its own place. -/
def above? (cursor : Cursor) : Option Cursor :=
  match cursor.ancestors with
  | [] => none
  | parent :: outer => some ⟨parent, outer⟩

/-- One of the decorators is a call of this name. -/
def Called (decorators : List Node) (name : String) : Prop :=
  ∃ decorator ∈ decorators, decoratorName? decorator = some name

instance (decorators : List Node) (name : String) : Decidable (Called decorators name) :=
  inferInstanceAs (Decidable (∃ decorator ∈ decorators, _))

/-- A class has a decorator that calls this name, or an `export` around the class has one. -/
def Carries (place : Cursor) (name : String) : Prop :=
  Called (place.node.attributeNodes "decorator") name ∨
    ∃ wrapper ∈ above? place, wrapper.node.kind = "export_statement" ∧
      Called (wrapper.node.attributeNodes "decorator") name

instance (place : Cursor) (name : String) : Decidable (Carries place name) :=
  inferInstanceAs (Decidable (_ ∨ ∃ wrapper ∈ above? place, _))

/-- Of the siblings before a member, the decorators at their end. -/
def leadingRun (member : Node) (siblings : List Node) : List Node :=
  (siblings.takeWhile fun sibling => sibling.number != member.number).rtakeWhile
    fun sibling => sibling.kind == "decorator"

/-- A member has a decorator that calls this name, or such a one stands directly before it in a class
body, with nothing but decorators between them. -/
def Decorated (place : Cursor) (name : String) : Prop :=
  Called (place.node.attributeNodes "decorator") name ∨
    ∃ body ∈ above? place, body.node.kind = "class_body" ∧
      Called (leadingRun place.node body.node.children) name

instance (place : Cursor) (name : String) : Decidable (Decorated place name) :=
  inferInstanceAs (Decidable (_ ∨ ∃ body ∈ above? place, _))

/-- The node stands directly in the body of a class of which something holds. -/
def InClass (holds : Cursor → Prop) (cursor : Cursor) : Prop :=
  ∃ body ∈ above? cursor, body.node.kind = "class_body" ∧
    ∃ owner ∈ above? body, owner.node.kind ∈ classKinds ∧ holds owner

instance (holds : Cursor → Prop) [DecidablePred holds] (cursor : Cursor) :
    Decidable (InClass holds cursor) :=
  inferInstanceAs (Decidable (∃ body ∈ above? cursor, _))

theorem any_called (decorators : List Node) (name : String) :
    decorators.any (fun decorator => decoratorName? decorator == some name) = true ↔
      Called decorators name := by
  simp only [Called, List.any_eq_true, beq_iff_eq]

theorem called_append (first second : List Node) (name : String) :
    Called (first ++ second) name ↔ Called first name ∨ Called second name := by
  simp only [Called, List.mem_append, or_and_right, exists_or]

theorem called_classDecorators (place : Cursor) (name : String) :
    Called (classDecorators place) name ↔ Carries place name := by
  obtain ⟨node, ancestors⟩ := place
  cases ancestors with
  | nil => simp [classDecorators, Carries, Cursor.parent?, above?]
  | cons parent outer =>
    simp only [classDecorators, Carries, Cursor.parent?, above?, List.head?_cons, beq_iff_eq,
      Option.mem_def, Option.some.injEq, exists_eq_left']
    by_cases exported : parent.kind = "export_statement"
    · rw [if_pos exported, called_append, or_comm]
      simp [exported]
    · rw [if_neg exported]
      simp [exported]

private theorem rtakeWhile_behind {α : Type} {holds : α → Bool} {item : α}
    (fails : holds item = false) (before behind : List α) :
    (before ++ item :: behind).rtakeWhile holds = behind.rtakeWhile holds := by
  induction behind using List.reverseRecOn with
  | nil => simp [fails]
  | append_singleton behind last ih =>
    rw [← List.cons_append, ← List.append_assoc, List.rtakeWhile_concat, List.rtakeWhile_concat, ih]

/-- The search keeps the run of decorators that it has just passed, so when it meets the member it
has the decorators before it. -/
theorem leadingDecorators?_eq {member : Node} {siblings : List Node}
    (present : member ∈ siblings) {leading : List Node}
    (run : ∀ decorator ∈ leading, decorator.kind = "decorator") :
    leadingDecorators? member leading siblings =
      some ((leading ++ siblings.takeWhile fun sibling =>
        sibling.number != member.number).rtakeWhile fun sibling => sibling.kind == "decorator") := by
  induction siblings generalizing leading with
  | nil => cases present
  | cons child rest ih =>
    rw [leadingDecorators?]
    by_cases here : child.number = member.number
    · have whole : leading.rtakeWhile (fun sibling => sibling.kind == "decorator") = leading := by
        rw [List.rtakeWhile_eq_self_iff]
        exact fun decorator inside => beq_iff_eq.mpr (run decorator inside)
      simp [here, whole]
    · have later : member ∈ rest := by
        rcases List.mem_cons.mp present with rfl | later
        · exact absurd rfl here
        · exact later
      have passed : (child :: rest).takeWhile (fun sibling => sibling.number != member.number) =
          child :: rest.takeWhile fun sibling => sibling.number != member.number :=
        List.takeWhile_cons_of_pos (bne_iff_ne.mpr here)
      rw [passed, if_neg (by simpa using here)]
      by_cases decorates : child.kind = "decorator"
      · have longer : ∀ decorator ∈ leading ++ [child], decorator.kind = "decorator" := by
          rw [List.forall_mem_append, List.forall_mem_singleton]
          exact ⟨run, decorates⟩
        rw [if_pos (by simpa using decorates), ih later longer, List.append_assoc,
          List.singleton_append]
      · rw [if_neg (by simpa using decorates), ih later (by simp),
          rtakeWhile_behind (by simpa using decorates), List.nil_append]

theorem hasDecorator_iff {root : Node} {place : Cursor} (member : place ∈ root.cursors)
    (name : String) : hasDecorator place name = true ↔ Decorated place name := by
  rw [hasDecorator, any_called]
  obtain ⟨node, ancestors⟩ := place
  cases ancestors with
  | nil => simp [memberDecorators, Decorated, Cursor.parent?, above?]
  | cons body outer =>
    rw [cursors_eq] at member
    rcases place_cases member with top | ⟨upper, _, child, above⟩
    · cases top
    · have present : node ∈ body.children := (List.cons.inj above).1 ▸ child
      simp only [memberDecorators, Decorated, Cursor.parent?, above?, List.head?_cons, beq_iff_eq,
        Option.mem_def, Option.some.injEq, exists_eq_left']
      by_cases inBody : body.kind = "class_body"
      · rw [if_pos inBody, leadingDecorators?_eq present (by simp), Option.map_some,
          Option.getD_some, called_append, or_comm]
        simp [inBody, leadingRun]
      · rw [if_neg inBody]
        simp [inBody]

theorem mem_addMark {marks : List String} {mark other : String} :
    other ∈ addMark marks mark ↔ other ∈ marks ∨ other = mark := by
  rw [addMark]
  split
  next present =>
    refine ⟨.inl, fun either => either.elim id ?_⟩
    rintro rfl
    exact List.contains_iff_mem.mp present
  next => rw [List.mem_append, List.mem_singleton]

theorem mem_marksOf {decorators : List Node} {mark : String} :
    mark ∈ marksOf decorators ↔ ∃ name given, Called decorators name ∧ markOf? name = some given ∧
      (mark = given ∨ mark = angularMark) := by
  have folded (given start : List String) :
      mark ∈ given.foldl (fun marks mark => addMark (addMark marks mark) angularMark) start ↔
        mark ∈ start ∨ ∃ one ∈ given, mark = one ∨ mark = angularMark := by
    induction given generalizing start with
    | nil => simp
    | cons one rest ih =>
      rw [List.foldl_cons, ih, mem_addMark, mem_addMark]
      simp only [List.mem_cons, exists_eq_or_imp, or_assoc]
  rw [marksOf, folded]
  simp only [List.not_mem_nil, false_or, List.mem_filterMap, Option.bind_eq_some_iff]
  constructor
  · rintro ⟨given, ⟨decorator, member, name, named, marked⟩, either⟩
    exact ⟨name, given, ⟨decorator, member, named⟩, marked, either⟩
  · rintro ⟨name, given, ⟨decorator, member, named⟩, marked, either⟩
    exact ⟨given, ⟨decorator, member, name, named, marked⟩, either⟩

/-- The decorators that make a class one of Angular's, with their marks. -/
def angularMarks : List (String × String) :=
  [("Component", "is-component"), ("Injectable", "is-injectable"), ("Directive", "is-directive"),
    ("Pipe", "is-pipe")]

def angularNames : List String :=
  angularMarks.map Prod.fst

theorem markOf?_iff {name mark : String} :
    markOf? name = some mark ↔ (name, mark) ∈ angularMarks := by
  constructor
  · intro marks
    rw [markOf?] at marks
    repeat' split at marks
    all_goals simp_all [angularMarks]
  · intro listed
    have table : ∀ entry ∈ angularMarks, markOf? entry.1 = some entry.2 := by decide
    exact table _ listed

theorem markOf?_unique {name other mark : String} (one : markOf? name = some mark)
    (two : markOf? other = some mark) : name = other := by
  have table : ∀ first ∈ angularMarks, ∀ second ∈ angularMarks,
      first.2 = second.2 → first.1 = second.1 := by decide
  exact table _ (markOf?_iff.mp one) _ (markOf?_iff.mp two) rfl

theorem markOf?_own (name : String) : markOf? name ≠ some angularMark := by
  intro common
  have table : ∀ entry ∈ angularMarks, entry.2 ≠ angularMark := by decide
  exact table _ (markOf?_iff.mp common) rfl

/-- A mark other than the common one stands for one decorator. -/
theorem marked_iff {name mark : String} (stands : markOf? name = some mark) (place : Cursor) :
    mark ∈ marksOf (classDecorators place) ↔ Carries place name := by
  rw [mem_marksOf, ← called_classDecorators]
  constructor
  · rintro ⟨other, given, called, marks, rfl | common⟩
    · exact markOf?_unique marks stands ▸ called
    · rw [common] at stands
      exact absurd stands (markOf?_own name)
  · intro called
    exact ⟨name, mark, called, stands, .inl rfl⟩

theorem angular_iff (place : Cursor) :
    angularMark ∈ marksOf (classDecorators place) ↔ ∃ name ∈ angularNames, Carries place name := by
  rw [mem_marksOf]
  constructor
  · rintro ⟨name, given, called, marks, _⟩
    exact ⟨name, List.mem_map_of_mem (f := Prod.fst) (markOf?_iff.mp marks),
      (called_classDecorators place name).mp called⟩
  · rintro ⟨name, listed, carries⟩
    obtain ⟨⟨_, given⟩, marks, rfl⟩ := List.mem_map.mp listed
    exact ⟨_, given, (called_classDecorators place _).mpr carries, markOf?_iff.mpr marks, .inr rfl⟩

/-- A node that belongs to a class directly has that class as the innermost one around it. -/
theorem inClass_iff (cursor : Cursor) (mark : String) :
    ((enclosingClass? cursor).isSome && ClassStack.inside (frames cursor.ancestors) mark) = true ↔
      InClass (fun owner => mark ∈ marksOf (classDecorators owner)) cursor := by
  rw [Bool.and_eq_true, frames_inside]
  obtain ⟨node, ancestors⟩ := cursor
  rcases ancestors with - | ⟨body, - | ⟨owner, outer⟩⟩
  · simp [enclosingClass?, InClass, above?]
  · simp [enclosingClass?, InClass, above?]
  · by_cases inBody : body.kind = "class_body"
    · have noClass : "class_body" ∉ classKinds := by decide
      by_cases isClass : owner.kind ∈ classKinds
      · simp [enclosingClass?, InClass, above?, classesAbove, noClass, inBody, isClass]
      · simp [enclosingClass?, InClass, above?, isClass]
    · simp [enclosingClass?, InClass, above?, inBody]

/-- A decorator that calls a name. -/
def callOf (number : Nat) (name : String) : Node :=
  let span : Span := ⟨number, number + 3, by omega⟩
  ⟨"decorator", number, span, ⟨[("call_expression", .child 0)]⟩,
    [⟨"call_expression", number + 1, span, ⟨[("function", .child 0)]⟩,
      [⟨"identifier", number + 2, span, ⟨[("text", .text name)]⟩, []⟩]⟩]⟩

/-- A class with a decorator, whose members are numbered from 7 on. -/
def classOf (name : String) (members : List Node) : Node :=
  ⟨"class_declaration", 2, ⟨2, 80, by decide⟩, ⟨[("decorator", .child 0), ("body", .child 1)]⟩,
    [callOf 3 name, ⟨"class_body", 6, ⟨6, 80, by decide⟩, .empty, members⟩]⟩

end AngularLint.Proofs.Decorations
