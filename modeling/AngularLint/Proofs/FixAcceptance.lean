import AngularLint.Diagnostic
import AngularLint.Proofs.EditOrder

/-! Accepting fixes. Fixes are taken in turn, and one is left out only for an earlier one that it
conflicts with. The edits of those accepted are apart from each other, so together they are the
edits of one fix, and that fix is what is carried out. -/

namespace AngularLint.Proofs.FixAcceptance
open EditOrder

def Compatible (fix other : Fix) : Prop :=
  fix.conflicts other = false

theorem compatible_iff (fix other : Fix) :
    Compatible fix other ↔ ∀ edit ∈ fix.edits, ∀ foreign ∈ other.edits, Clear edit foreign := by
  simp [Compatible, Fix.conflicts, Clear]

instance : Std.Symm Compatible where
  symm fix other compatible := by
    rw [compatible_iff] at *
    intro edit member foreign foreignMember
    exact symm (compatible foreign foreignMember edit member)

theorem conflicts_comm (fix other : Fix) : fix.conflicts other = other.conflicts fix := by
  have apart : Compatible fix other ↔ Compatible other fix := ⟨symm, symm⟩
  simp only [Compatible] at apart
  rw [Bool.eq_iff_iff, ← not_iff_not, Bool.not_eq_true, Bool.not_eq_true, apart]

theorem acceptFrom_append (accepted before after : List Fix) :
    Fix.acceptFrom accepted (before ++ after) =
      Fix.acceptFrom (Fix.acceptFrom accepted before) after := by
  fun_induction Fix.acceptFrom accepted before with
  | case1 accepted => rfl
  | case2 accepted fix rest conflict ih => rw [List.cons_append, Fix.acceptFrom, if_pos conflict, ih]
  | case3 accepted fix rest clear ih => rw [List.cons_append, Fix.acceptFrom, if_neg clear, ih]

theorem acceptFrom_begins (accepted fixes : List Fix) :
    accepted <+: Fix.acceptFrom accepted fixes := by
  fun_induction Fix.acceptFrom accepted fixes with
  | case1 accepted => exact List.prefix_rfl
  | case2 accepted fix rest conflict ih => exact ih
  | case3 accepted fix rest clear ih => exact (List.prefix_append accepted [fix]).trans ih

theorem acceptFrom_sublist (accepted fixes : List Fix) :
    (Fix.acceptFrom accepted fixes).Sublist (accepted ++ fixes) := by
  fun_induction Fix.acceptFrom accepted fixes with
  | case1 accepted => simp
  | case2 accepted fix rest conflict ih =>
    exact ih.trans ((List.sublist_cons_self fix rest).append_left accepted)
  | case3 accepted fix rest clear ih => simpa using ih

theorem acceptFrom_compatible {accepted : List Fix} (compatible : accepted.Pairwise Compatible)
    (fixes : List Fix) : (Fix.acceptFrom accepted fixes).Pairwise Compatible := by
  fun_induction Fix.acceptFrom accepted fixes with
  | case1 accepted => exact compatible
  | case2 accepted fix rest conflict ih => exact ih compatible
  | case3 accepted fix rest clear ih =>
    apply ih
    refine List.pairwise_append.mpr ⟨compatible, List.pairwise_singleton _ _, ?_⟩
    intro prior member other same
    rw [List.mem_singleton.mp same]
    have unharmed : Compatible fix prior :=
      eq_false_of_ne_true fun conflicting => clear (List.any_eq_true.mpr ⟨prior, member, conflicting⟩)
    exact symm unharmed

theorem acceptFrom_of_compatible (accepted fixes : List Fix)
    (compatible : (accepted ++ fixes).Pairwise Compatible) :
    Fix.acceptFrom accepted fixes = accepted ++ fixes := by
  fun_induction Fix.acceptFrom accepted fixes with
  | case1 accepted => simp
  | case2 accepted fix rest conflict ih =>
    obtain ⟨prior, member, conflicting⟩ := List.any_eq_true.mp conflict
    have clear : Compatible prior fix :=
      (List.pairwise_append.mp compatible).2.2 prior member fix List.mem_cons_self
    exact absurd ((symm clear : Compatible fix prior).symm.trans conflicting) Bool.false_ne_true
  | case3 accepted fix rest clear ih =>
    rw [ih (by simpa using compatible), List.append_assoc, List.singleton_append]

/-- In its turn a fix is accepted, or it conflicts with one that was accepted before its turn. -/
theorem accept_turn (before : List Fix) (fix : Fix) (after : List Fix) :
    (∃ later, Fix.accept (before ++ fix :: after) = Fix.accept before ++ fix :: later) ∨
      ∃ prior ∈ Fix.accept before,
        prior ∈ Fix.accept (before ++ fix :: after) ∧ fix.conflicts prior = true := by
  have split : Fix.accept (before ++ fix :: after) =
      Fix.acceptFrom (Fix.accept before) (fix :: after) := acceptFrom_append [] before _
  by_cases conflict : (Fix.accept before).any fix.conflicts = true
  · obtain ⟨prior, member, conflicting⟩ := List.any_eq_true.mp conflict
    right
    exact ⟨prior, member, split ▸ (acceptFrom_begins _ _).subset member, conflicting⟩
  · left
    obtain ⟨later, same⟩ := acceptFrom_begins (Fix.accept before ++ [fix]) after
    refine ⟨later, ?_⟩
    rw [split, Fix.acceptFrom, if_neg conflict, ← same, List.append_assoc, List.singleton_append]

theorem accept_eq_nil_iff (fixes : List Fix) : Fix.accept fixes = [] ↔ fixes = [] := by
  constructor
  · intro none
    cases fixes with
    | nil => rfl
    | cons fix rest =>
      have first : [fix] <+: Fix.accept (fix :: rest) := acceptFrom_begins [fix] rest
      rw [none] at first
      exact absurd (List.prefix_nil.mp first) (List.cons_ne_nil fix [])
  · rintro rfl
    rfl

def MadeFor (sourceLength : Int) (fix : Fix) : Prop :=
  ∃ edits, Fix.ofEdits edits sourceLength = .ok fix

theorem MadeFor.edits {sourceLength : Int} {fix : Fix} (made : MadeFor sourceLength fix) :
    fix.edits ≠ [] ∧ (∀ edit ∈ fix.edits, (edit.span.stop : Int) ≤ sourceLength) ∧
      Apart fix.edits := by
  obtain ⟨edits, ok⟩ := made
  obtain ⟨some, inside, apart, rfl⟩ := (ofEdits_eq_ok_iff edits sourceLength fix).mp ok
  have same := sort_perm edits
  refine ⟨?_, fun edit member => inside edit (same.mem_iff.mp member), apart.perm same.symm⟩
  intro none
  exact some (List.nil_perm.mp (none ▸ same))

/-- The edits of compatible fixes are apart, across fixes as within each one. -/
theorem apart_flatMap {sourceLength : Int} {fixes : List Fix}
    (made : ∀ fix ∈ fixes, MadeFor sourceLength fix) (compatible : fixes.Pairwise Compatible) :
    Apart (fixes.flatMap Fix.edits) := by
  rw [Apart, List.pairwise_flatMap]
  refine ⟨fun fix member => (made fix member).edits.2.2, compatible.imp ?_⟩
  intro fix other clear
  exact (compatible_iff fix other).mp clear

/-- Compatible fixes make one fix together, however their edits are listed. -/
theorem ofEdits_union {sourceLength : Int} {fixes : List Fix} (some : fixes ≠ [])
    (made : ∀ fix ∈ fixes, MadeFor sourceLength fix) (compatible : fixes.Pairwise Compatible)
    {union : List Edit} (whole : union.Perm (fixes.flatMap Fix.edits)) :
    Fix.ofEdits union sourceLength = .ok ⟨Edit.sort (fixes.flatMap Fix.edits)⟩ := by
  have apart := apart_flatMap made compatible
  refine (ofEdits_eq_ok_iff _ _ _).mpr ⟨?_, ?_, apart.perm whole.symm, ?_⟩
  · obtain ⟨fix, rest, rfl⟩ := List.exists_cons_of_ne_nil some
    obtain ⟨edit, member⟩ := List.exists_mem_of_ne_nil _ (made fix List.mem_cons_self).edits.1
    have inUnion : edit ∈ union := by
      rw [whole.mem_iff, List.flatMap_cons]
      exact List.mem_append_left _ member
    exact List.ne_nil_of_mem inUnion
  · intro edit member
    obtain ⟨fix, fixMember, inside⟩ := List.mem_flatMap.mp (whole.mem_iff.mp member)
    exact (made fix fixMember).edits.2.1 edit inside
  · rw [sort_eq_of_perm apart whole.symm]

theorem applyAccepted_perm {source : String} {fixes others : List Fix}
    (made : ∀ fix ∈ fixes, MadeFor source.length fix) (compatible : fixes.Pairwise Compatible)
    (same : others.Perm fixes) :
    Fix.applyAccepted others source = Fix.applyAccepted fixes source := by
  have apart := apart_flatMap made compatible
  have edits : (others.flatMap Fix.edits).Perm (fixes.flatMap Fix.edits) :=
    same.flatMap_right Fix.edits
  simp only [Fix.applyAccepted, Fix.accept, acceptFrom_of_compatible [] fixes compatible,
    acceptFrom_of_compatible [] others (compatible.perm same.symm symm), List.nil_append,
    sort_eq_of_perm apart edits.symm, same.length_eq]

/-- The fixes accepted from some findings, one finding after the other. -/
structure InTurn (diagnostics : List Diagnostic) (accepted : List Fix) : Prop where
  compatible : accepted.Pairwise fun first second =>
    first.conflicts second = false ∧ second.conflicts first = false
  chosen : accepted.Sublist (fixesOf diagnostics)
  /-- A fix is accepted behind those accepted from the findings before its own, or one of these
  conflicts with it. -/
  turn : ∀ before diagnostic after fix, diagnostics = before ++ diagnostic :: after →
    diagnostic.fix = some fix →
      (∃ later, accepted = Fix.accept (fixesOf before) ++ fix :: later) ∨
        ∃ prior ∈ Fix.accept (fixesOf before),
          prior ∈ fixesOf before ∧ prior ∈ accepted ∧ fix.conflicts prior = true
  none : accepted = [] ↔ ∀ diagnostic ∈ diagnostics, diagnostic.fix = none

theorem accept_inTurn (diagnostics : List Diagnostic) :
    InTurn diagnostics (Fix.accept (fixesOf diagnostics)) where
  compatible := by
    have compatible : (Fix.accept (fixesOf diagnostics)).Pairwise Compatible :=
      acceptFrom_compatible List.Pairwise.nil _
    exact compatible.imp fun {first second} clear =>
      ⟨clear, (conflicts_comm second first).trans clear⟩
  chosen := acceptFrom_sublist [] _
  turn := by
    rintro before diagnostic after fix rfl carried
    have fixes : fixesOf (before ++ diagnostic :: after) =
        fixesOf before ++ fix :: fixesOf after := by
      simp [fixesOf, List.filterMap_append, carried]
    rw [fixes]
    rcases accept_turn (fixesOf before) fix (fixesOf after) with accepted | conflict
    · exact .inl accepted
    · obtain ⟨prior, member, kept, conflicting⟩ := conflict
      exact .inr ⟨prior, member, (acceptFrom_sublist [] _).subset member, kept, conflicting⟩
  none := by
    rw [accept_eq_nil_iff, fixesOf, List.filterMap_eq_nil_iff]

/-- The accepted fixes are chosen in turn. Their edits, however listed, make one fix, and carrying
out the accepted fixes carries out that one. When no two fixes conflict, the order of the findings
makes no difference. -/
theorem accepted_make_one_fix (source : String) (diagnostics : List Diagnostic)
    (made : ∀ diagnostic ∈ diagnostics, ∀ fix, diagnostic.fix = some fix →
      ∃ edits, Fix.ofEdits edits source.length = .ok fix) :
    let fixes := fixesOf diagnostics
    let accepted := Fix.accept fixes
    InTurn diagnostics accepted ∧
      (accepted ≠ [] → ∀ union, union.Perm (accepted.flatMap Fix.edits) →
        ∃ merged, Fix.ofEdits union source.length = .ok merged ∧
          Fix.applyAccepted fixes source = (merged.apply source, accepted.length)) ∧
      (accepted = [] → Fix.applyAccepted fixes source = (source, 0)) ∧
      ((fixes.Pairwise fun first second => first.conflicts second = false) →
        ∀ shuffled, shuffled.Perm diagnostics →
          Fix.applyAccepted (fixesOf shuffled) source = Fix.applyAccepted fixes source) := by
  intro fixes accepted
  have madeOf (fix : Fix) (member : fix ∈ fixes) : MadeFor source.length fix := by
    obtain ⟨diagnostic, diagnosticMember, carried⟩ := List.mem_filterMap.mp member
    exact made diagnostic diagnosticMember fix carried
  refine ⟨accept_inTurn diagnostics, ?_, ?_, ?_⟩
  · intro some union whole
    have ok := ofEdits_union some
      (fun fix member => madeOf fix ((acceptFrom_sublist [] fixes).subset member))
      (acceptFrom_compatible List.Pairwise.nil fixes) whole
    exact ⟨_, ok, rfl⟩
  · intro none
    have empty : Fix.accept fixes = [] := none
    simp [Fix.applyAccepted, empty, Edit.sort, Edit.applyAll]
  · intro compatible shuffled same
    exact applyAccepted_perm madeOf compatible (same.filterMap Diagnostic.fix)

def replacement : Edit :=
  .replace { start := 1, stop := 3 } "X"

def removal : Edit :=
  .remove { start := 2, stop := 4 }

def insertion : Edit :=
  .insertAfter replacement.span "Z"

/-- A replacement, a removal that overlaps it, and an insertion right behind it. -/
def crowded : List Diagnostic :=
  [replacement, removal, insertion].map fun edit =>
    ⟨"crowd", "found", "Found", edit.span, .warn, .empty, some ⟨[edit]⟩⟩

theorem crowded_accepted :
    (∀ diagnostic ∈ crowded, ∀ fix, diagnostic.fix = some fix →
      ∃ edits, Fix.ofEdits edits "abcdef".length = .ok fix) ∧
      ∃ merged, Fix.ofEdits [insertion, replacement] "abcdef".length = .ok merged ∧
        Fix.applyAccepted (fixesOf crowded) "abcdef" = (merged.apply "abcdef", 2) := by
  have single (edit : Edit) (inside : edit.span.stop ≤ 6) :
      Fix.ofEdits [edit] "abcdef".length = .ok ⟨[edit]⟩ := by
    refine (ofEdits_eq_ok_iff _ _ _).mpr ⟨List.cons_ne_nil _ _, ?_, List.pairwise_singleton _ _, ?_⟩
    · intro other member
      rw [List.mem_singleton.mp member]
      exact Int.ofNat_le.mpr inside
    · rw [Edit.sort, List.mergeSort_singleton]
  have made : ∀ diagnostic ∈ crowded, ∀ fix, diagnostic.fix = some fix →
      ∃ edits, Fix.ofEdits edits "abcdef".length = .ok fix := by
    intro diagnostic member fix carried
    obtain ⟨edit, known, rfl⟩ := List.mem_map.mp member
    cases carried
    have inside : ∀ edit ∈ [replacement, removal, insertion], edit.span.stop ≤ 6 := by decide
    exact ⟨[edit], single edit (inside edit known)⟩
  obtain ⟨_, one, _⟩ := accepted_make_one_fix "abcdef" crowded made
  exact ⟨made, one (by decide) _ (by decide)⟩

end AngularLint.Proofs.FixAcceptance
