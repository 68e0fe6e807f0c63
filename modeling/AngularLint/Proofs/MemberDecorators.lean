import AngularLint.Proofs.Decorations
import AngularLint.Proofs.PathValues

/-! How the decorators in a class body are shared out among its members. Each run of decorators
goes to the member behind it, whole and to no other member, and a member adds only nodes of its own.
The search for a member goes by its number, so all this rests on the numbers of a parsed file. -/

namespace AngularLint.Proofs.MemberDecorators
open AngularLint.Angular Decorations NodeBuild PathValues Places

def AllDecorators (nodes : List Node) : Prop :=
  ∀ node ∈ nodes, node.kind = "decorator"

/-- Of the runs of decorators with which the siblings before a member end, the longest one. -/
structure LongestRun (earlier run : List Node) : Prop where
  directly : run <:+ earlier
  decorators : AllDecorators run
  longest : ∀ other, other <:+ earlier → AllDecorators other → other.length ≤ run.length

/-- A decorator stands before a child, and nothing but decorators stand between them. -/
structure LeadsTo (children : List Node) (decorator : Node) (between : List Node) (child : Node) :
    Prop where
  placed : ∃ earlier later, children = earlier ++ decorator :: (between ++ child :: later)
  decorates : decorator.kind = "decorator"
  passed : AllDecorators between

def decoratorsOf (body : Cursor) (child : Node) : List Node :=
  memberDecorators ⟨child, body.node :: body.ancestors⟩

/-- How the decorators in a class body are shared out. -/
structure SharedOut (body : Cursor) : Prop where
  /-- A child has the decorators directly before it, as many as there are, and then the nodes of its
  own field, which are children of it in their order. -/
  gathered : ∀ earlier member later, body.node.children = earlier ++ member :: later →
    ∃ run, LongestRun earlier run ∧
      decoratorsOf body member = run ++ member.attributeNodes "decorator" ∧
      (member.attributeNodes "decorator").Sublist member.children
  /-- Two members have no decorator in common. -/
  apart : ∀ first ∈ body.node.children, ∀ second ∈ body.node.children, first ≠ second →
    first.kind ≠ "decorator" → second.kind ≠ "decorator" →
      ((decoratorsOf body first).map Node.number).Disjoint
        ((decoratorsOf body second).map Node.number)
  /-- A decorator with a member behind it belongs to that member, and to no other. -/
  attributed : ∀ decorator between member, LeadsTo body.node.children decorator between member →
    member.kind ≠ "decorator" → ∀ other ∈ body.node.children, other.kind ≠ "decorator" →
      (decorator ∈ decoratorsOf body other ↔ other = member)
  /-- Besides, the decorators on the way to the member have those before them. -/
  onTheWay : ∀ decorator between member, LeadsTo body.node.children decorator between member →
    member.kind ≠ "decorator" → ∀ other ∈ body.node.children, other.kind = "decorator" →
      (decorator ∈ decoratorsOf body other ↔ other ∈ between)

theorem longestRun_rtakeWhile (earlier : List Node) :
    LongestRun earlier (earlier.rtakeWhile fun sibling => sibling.kind == "decorator") where
  directly := List.rtakeWhile_suffix _ _
  decorators := by
    intro sibling inside
    have decorates := List.mem_rtakeWhile_imp inside
    exact beq_iff_eq.mp decorates
  longest := by
    rintro run ⟨before, rfl⟩ decorators
    have whole : ∀ node ∈ run.reverse, (node.kind == "decorator") = true :=
      fun node inside => beq_iff_eq.mpr (decorators node (List.mem_reverse.mp inside))
    rw [List.rtakeWhile, List.reverse_append, List.takeWhile_append_of_pos whole,
      List.length_reverse, List.length_append, List.length_reverse]
    exact Nat.le_add_right _ _

theorem LongestRun.mem_iff {earlier run : List Node} (longest : LongestRun earlier run)
    {node : Node} : node ∈ run ↔ ∃ before between, earlier = before ++ node :: between ∧
      node.kind = "decorator" ∧ AllDecorators between := by
  constructor
  · intro inside
    obtain ⟨before, ends⟩ := longest.directly
    obtain ⟨start, between, rfl⟩ := List.append_of_mem inside
    refine ⟨before ++ start, between, by rw [← ends, List.append_assoc],
      longest.decorators node inside, ?_⟩
    intro passed member
    exact longest.decorators passed (List.mem_append_right _ (List.mem_cons_of_mem _ member))
  · rintro ⟨before, between, rfl, decorates, passed⟩
    have ends : node :: between <:+ before ++ node :: between := List.suffix_append _ _
    have short := longest.longest _ ends (List.forall_mem_cons.mpr ⟨decorates, passed⟩)
    have inside := List.suffix_of_suffix_length_le ends longest.directly short
    exact inside.subset List.mem_cons_self

/-- Decorators that lead to a member lead to no further one: what follows only decorators is the
member, or stands before it. -/
theorem member_or_between {between later : List Node} {member : Node}
    {passed behind : List Node} {other : Node}
    (same : between ++ member :: later = passed ++ other :: behind)
    (plain : member.kind ≠ "decorator") (decorators : AllDecorators passed) :
    other = member ∨ other ∈ between := by
  rcases List.append_eq_append_iff.mp same with ⟨rest, rfl, tail⟩ | ⟨rest, rfl, tail⟩
  · cases rest with
    | nil => exact .inl (List.cons.inj tail).1.symm
    | cons next rest =>
      have inside : next ∈ between ++ next :: rest := by simp
      exact absurd (decorators next inside) ((List.cons.inj tail).1 ▸ plain)
  · cases rest with
    | nil => exact .inl (List.cons.inj tail).1
    | cons next rest =>
      rw [(List.cons.inj tail).1]
      exact .inr (by simp)

section Numbered

variable {children : List Node}
  (numbered : children.Pairwise fun first second => first.number < second.number)
include numbered

theorem takeWhile_earlier {earlier later : List Node} {node : Node}
    (split : children = earlier ++ node :: later) :
    (children.takeWhile fun sibling => sibling.number != node.number) = earlier := by
  rw [split, List.pairwise_append] at numbered
  have others : ∀ sibling ∈ earlier, (sibling.number != node.number) = true := by
    intro sibling member
    exact bne_iff_ne.mpr (Nat.ne_of_lt (numbered.2.2 sibling member node List.mem_cons_self))
  rw [split, List.takeWhile_append_of_pos others, List.takeWhile_cons_of_neg (by simp),
    List.append_nil]

theorem later_eq {earlier later before behind : List Node} {node : Node}
    (one : children = earlier ++ node :: later) (two : children = before ++ node :: behind) :
    later = behind := by
  have same : earlier = before :=
    (takeWhile_earlier numbered one).symm.trans (takeWhile_earlier numbered two)
  rw [one, same] at two
  exact (List.cons.inj (List.append_cancel_left two)).2

theorem LeadsTo.target_cases {decorator member other : Node} {between passed : List Node}
    (leads : LeadsTo children decorator between member) (plain : member.kind ≠ "decorator")
    (reaches : LeadsTo children decorator passed other) : other = member ∨ other ∈ between := by
  obtain ⟨_, _, one⟩ := leads.placed
  obtain ⟨_, _, two⟩ := reaches.placed
  exact member_or_between (later_eq numbered one two) plain reaches.passed

end Numbered

theorem LeadsTo.mem {children between : List Node} {decorator child : Node}
    (leads : LeadsTo children decorator between child) : decorator ∈ children := by
  obtain ⟨_, _, rfl⟩ := leads.placed
  simp

theorem LeadsTo.onward {children between : List Node} {decorator member other : Node}
    (leads : LeadsTo children decorator between member) (inside : other ∈ between) :
    ∃ passed, LeadsTo children decorator passed other := by
  obtain ⟨earlier, later, rfl⟩ := leads.placed
  obtain ⟨passed, rest, rfl⟩ := List.append_of_mem inside
  refine ⟨passed, ⟨earlier, rest ++ member :: later, by simp⟩, leads.decorates, ?_⟩
  exact fun node member => leads.passed node (List.mem_append_left _ member)

variable {text : String} {root : Node} {body : Cursor}

theorem attributeNodes_sublist (parsed : Parsed text root) {cursor : Cursor}
    (member : cursor ∈ root.cursors) (name : String) :
    (cursor.node.attributeNodes name).Sublist cursor.node.children := by
  rw [Node.attributeNodes]
  split
  next child found =>
    obtain ⟨held, _, valued⟩ := Option.bind_eq_some_iff.mp found
    cases held with
    | child position =>
      obtain ⟨inner, there, same⟩ := Option.map_eq_some_iff.mp valued
      cases same
      exact List.singleton_sublist.mpr (List.mem_of_getElem? there)
    | _ => cases valued
  next nodes found => exact (parsed.siblings member found).ordered
  next => exact List.nil_sublist _

theorem place_unique (parsed : Parsed text root) {first second : Cursor}
    (here : first ∈ root.cursors) (there : second ∈ root.cursors)
    (same : first.node.number = second.node.number) : first = second :=
  cursor_unique (parsed.numbered.imp Nat.ne_of_lt) here there same

section Body

variable (parsed : Parsed text root) (inside : body ∈ root.cursors)
include parsed inside

theorem child_ne_grandchild {child member inner : Node} (below : child ∈ body.node.children)
    (present : member ∈ body.node.children) (deeper : inner ∈ member.children) :
    child.number ≠ inner.number := by
  intro same
  have equal := place_unique parsed (child_mem_cursors inside below)
    (child_mem_cursors (child_mem_cursors inside present) deeper) same
  have levels := congrArg (fun cursor => cursor.ancestors.length) equal
  simp at levels

theorem parent_unique {first second one two : Node} (here : first ∈ body.node.children)
    (there : second ∈ body.node.children) (below : one ∈ first.children)
    (deeper : two ∈ second.children) (same : one.number = two.number) : first = second := by
  have equal := place_unique parsed (child_mem_cursors (child_mem_cursors inside here) below)
    (child_mem_cursors (child_mem_cursors inside there) deeper) same
  exact (List.cons.inj (congrArg Cursor.ancestors equal)).1

theorem own_sublist {member : Node} (present : member ∈ body.node.children) :
    (member.attributeNodes "decorator").Sublist member.children :=
  attributeNodes_sublist parsed (child_mem_cursors inside present) "decorator"

variable (inBody : body.node.kind = "class_body")
include inBody

theorem decoratorsOf_eq {earlier later : List Node} {member : Node}
    (split : body.node.children = earlier ++ member :: later) :
    decoratorsOf body member =
      (earlier.rtakeWhile fun sibling => sibling.kind == "decorator") ++
        member.attributeNodes "decorator" := by
  have present : member ∈ body.node.children := by simp [split]
  have nothing : AllDecorators [] := List.forall_mem_nil _
  have found := leadingDecorators?_eq present nothing
  rw [takeWhile_earlier (children_numbered inside parsed.numbered) split, List.nil_append] at found
  simp [decoratorsOf, memberDecorators, Cursor.parent?, inBody, found]

theorem mem_decoratorsOf {member node : Node} (present : member ∈ body.node.children) :
    node ∈ decoratorsOf body member ↔
      (∃ between, LeadsTo body.node.children node between member) ∨
        node ∈ member.attributeNodes "decorator" := by
  constructor
  · intro has
    obtain ⟨earlier, later, split⟩ := List.append_of_mem present
    rw [decoratorsOf_eq parsed inside inBody split, List.mem_append] at has
    refine has.imp_left fun leading => ?_
    obtain ⟨before, between, rfl, decorates, passed⟩ :=
      (longestRun_rtakeWhile earlier).mem_iff.mp leading
    exact ⟨between, ⟨before, later, by simpa using split⟩, decorates, passed⟩
  · rintro (⟨between, ⟨earlier, later, split⟩, decorates, passed⟩ | own)
    · have shifted : body.node.children = (earlier ++ node :: between) ++ member :: later := by
        simpa using split
      rw [decoratorsOf_eq parsed inside inBody shifted, List.mem_append]
      exact .inl ((longestRun_rtakeWhile _).mem_iff.mpr ⟨_, _, rfl, decorates, passed⟩)
    · obtain ⟨earlier, later, split⟩ := List.append_of_mem present
      rw [decoratorsOf_eq parsed inside inBody split, List.mem_append]
      exact .inr own

/-- The children that have a decorator are the member to which it leads and the decorators on the
way there. -/
theorem mem_decoratorsOf_of_leads {decorator member other : Node} {between : List Node}
    (leads : LeadsTo body.node.children decorator between member)
    (plain : member.kind ≠ "decorator") (present : other ∈ body.node.children) :
    decorator ∈ decoratorsOf body other ↔ other = member ∨ other ∈ between := by
  rw [mem_decoratorsOf parsed inside inBody present]
  constructor
  · rintro (⟨passed, reaches⟩ | own)
    · exact leads.target_cases (children_numbered inside parsed.numbered) plain reaches
    · have deeper := (own_sublist parsed inside present).subset own
      exact absurd rfl (child_ne_grandchild parsed inside leads.mem present deeper)
  · rintro (rfl | onTheWay)
    · exact .inl ⟨between, leads⟩
    · exact .inl (leads.onward onTheWay)

theorem owner_unique {first second one two : Node} (here : first ∈ body.node.children)
    (there : second ∈ body.node.children) (plain : first.kind ≠ "decorator")
    (otherPlain : second.kind ≠ "decorator") (has : one ∈ decoratorsOf body first)
    (also : two ∈ decoratorsOf body second) (same : one.number = two.number) :
    first = second := by
  rw [mem_decoratorsOf parsed inside inBody here] at has
  rw [mem_decoratorsOf parsed inside inBody there] at also
  -- A shared node stands before both members or below both, and then they are one. Never does it
  -- stand before one and below the other: its place in the tree would have two depths.
  rcases has with ⟨between, leads⟩ | own <;> rcases also with ⟨passed, reaches⟩ | otherOwn
  · have equal := place_unique parsed (child_mem_cursors inside leads.mem)
      (child_mem_cursors inside reaches.mem) same
    cases equal
    have numbered := children_numbered inside parsed.numbered
    rcases leads.target_cases numbered plain reaches with found | found
    · exact found.symm
    · exact absurd (leads.passed second found) otherPlain
  · have deeper := (own_sublist parsed inside there).subset otherOwn
    exact absurd same (child_ne_grandchild parsed inside leads.mem there deeper)
  · have deeper := (own_sublist parsed inside here).subset own
    exact absurd same.symm (child_ne_grandchild parsed inside reaches.mem here deeper)
  · exact parent_unique parsed inside here there ((own_sublist parsed inside here).subset own)
      ((own_sublist parsed inside there).subset otherOwn) same

end Body

/-- In every class body of a parsed file the decorators are shared out among the members: each has
the longest run directly before it and its own, none has what another has, and none that leads to a
member is lost. -/
theorem decorators_shared_out {grammar : Grammar} {filename : String} {file : SourceFile}
    (read : SourceFile.parse grammar filename text = .ok file) (rooted : file.root? = some root)
    (body : Cursor) (inside : body ∈ root.cursors) (inBody : body.node.kind = "class_body") :
    SharedOut body := by
  have parsed := parsed_of_parse read rooted
  refine
    { gathered := ?gathered, apart := ?apart, attributed := ?attributed, onTheWay := ?onTheWay }
  case gathered =>
    intro earlier member later split
    have present : member ∈ body.node.children := by simp [split]
    exact ⟨_, longestRun_rtakeWhile earlier, decoratorsOf_eq parsed inside inBody split,
      own_sublist parsed inside present⟩
  case apart =>
    intro first here second there different plain otherPlain
    rw [List.disjoint_left]
    intro number has also
    obtain ⟨one, oneHas, rfl⟩ := List.mem_map.mp has
    obtain ⟨two, twoHas, same⟩ := List.mem_map.mp also
    apply different
    exact owner_unique parsed inside inBody here there plain otherPlain oneHas twoHas same.symm
  case attributed =>
    intro decorator between member leads plain other present otherPlain
    rw [mem_decoratorsOf_of_leads parsed inside inBody leads plain present]
    exact or_iff_left fun found => otherPlain (leads.passed other found)
  case onTheWay =>
    intro decorator between member leads plain other present decorates
    rw [mem_decoratorsOf_of_leads parsed inside inBody leads plain present]
    apply or_iff_right
    rintro rfl
    exact plain decorates

def decoratorAt (start : Nat) (label : Option String) : ParseTree :=
  ⟨"decorator", true, label, start, start + 2,
    [⟨"@", false, none, start, start + 1, []⟩,
      ⟨"identifier", true, none, start + 1, start + 2, []⟩]⟩

/-- A class with a method behind two decorators, and a field with a decorator of its own. -/
def decoratedClass : ParseTree :=
  ⟨"class_declaration", true, none, 0, 29,
    [⟨"class", false, none, 0, 5, []⟩, ⟨"type_identifier", true, some "name", 6, 7, []⟩,
      ⟨"class_body", true, some "body", 8, 29,
        [⟨"\x7b", false, none, 8, 9, []⟩, decoratorAt 10 none, decoratorAt 13 none,
          ⟨"method_definition", true, none, 16, 22,
            [⟨"property_identifier", true, some "name", 16, 17, []⟩,
              ⟨"formal_parameters", true, some "parameters", 17, 19, []⟩,
              ⟨"statement_block", true, some "body", 20, 22, []⟩]⟩,
          ⟨"public_field_definition", true, none, 23, 27,
            [decoratorAt 23 (some "decorator"),
              ⟨"property_identifier", true, some "name", 26, 27, []⟩]⟩,
          ⟨"\x7d", false, none, 28, 29, []⟩]⟩]⟩

def decoratedText : String := "class C \x7b @A @B m() \x7b\x7d @D f \x7d"

def decoratedGrammar : Grammar :=
  ⟨fun _ _ => some ⟨⟨"program", true, none, 0, 29, [decoratedClass]⟩, false⟩⟩

theorem decoratedClass_shared_out :
    ∃ root body first second method field,
      SourceFile.parse decoratedGrammar "a.ts" decoratedText =
        .ok ⟨"a.ts", decoratedText, some root, false⟩ ∧
      body ∈ root.cursors ∧ body.node.kind = "class_body" ∧
      body.node.children = [first, second, method, field] ∧
      LeadsTo body.node.children first [second] method ∧
      first ∈ decoratorsOf body method ∧ first ∉ decoratorsOf body field ∧
      field.attributeNodes "decorator" ≠ [] := by
  obtain ⟨root, owner, body, first, second, method, field, built, below, deeper, inBody, children,
      kinds, own⟩ :
      ∃ root owner body first second method field,
        (ParseTree.mk "program" true none 0 29 [decoratedClass]).toNode decoratedText =
          .ok (some root) ∧
        owner ∈ root.children ∧ body ∈ owner.children ∧ body.kind = "class_body" ∧
        body.children = [first, second, method, field] ∧
        [first, second, method, field].map Node.kind =
          ["decorator", "decorator", "method_definition", "public_field_definition"] ∧
        field.attributeNodes "decorator" ≠ [] := by
    rw [toNode_eq]
    exact ⟨_, _, _, _, _, _, _, rfl, .head _, .tail _ (.head _), rfl, rfl, rfl,
      List.cons_ne_nil _ _⟩
  simp only [List.map_cons, List.cons.injEq] at kinds
  obtain ⟨firstKind, secondKind, methodKind, fieldKind, -⟩ := kinds
  have read : SourceFile.parse decoratedGrammar "a.ts" decoratedText =
      .ok ⟨"a.ts", decoratedText, some root, false⟩ := NodeSpans.parse_of_toNode built rfl
  have inside := child_mem_cursors (child_mem_cursors (root_mem_cursors root) below) deeper
  have shared := decorators_shared_out read rfl ⟨body, [owner, root]⟩ inside inBody
  have leads : LeadsTo body.children first [second] method :=
    ⟨⟨[], [field], children⟩, firstKind, List.forall_mem_singleton.mpr secondKind⟩
  have methodPlain : method.kind ≠ "decorator" := by simp [methodKind]
  have fieldPlain : field.kind ≠ "decorator" := by simp [fieldKind]
  have belongs := shared.attributed first [second] method leads methodPlain
  refine ⟨root, ⟨body, [owner, root]⟩, first, second, method, field, read, inside, inBody, children,
    leads, ?_, ?_, own⟩
  · exact (belongs method (by simp [children]) methodPlain).mpr rfl
  · intro has
    have same := (belongs field (by simp [children]) fieldPlain).mp has
    rw [same, methodKind] at fieldKind
    exact absurd fieldKind (by decide)

end AngularLint.Proofs.MemberDecorators
