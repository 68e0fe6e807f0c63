import AngularLint.Edit
import Mathlib.Data.List.Pairwise

/-! The order of edits. In order, edits that do not overlap follow each other without a gap going
backwards: each one ends before the next begins. So it is enough to compare neighbours, and edits
apart from each other have one order only. -/

namespace AngularLint.Proofs.EditOrder

theorem overlaps_iff (first second : Span) :
    first.overlaps second = true ↔
      (first.start = first.stop ∧ first.start = second.start ∧ first.stop = second.stop) ∨
        (first.start < second.stop ∧ second.start < first.stop) := by
  have same : first = second ↔ first.start = second.start ∧ first.stop = second.stop := by
    cases first
    cases second
    simp only [Span.mk.injEq]
  simp only [Span.overlaps, Span.isEmpty, Bool.or_eq_true, Bool.and_eq_true, beq_iff_eq,
    decide_eq_true_eq, same]

theorem overlaps_comm (first second : Span) : first.overlaps second = second.overlaps first := by
  rw [Bool.eq_iff_iff, overlaps_iff, overlaps_iff]
  omega

theorem notAfter_iff (first second : Edit) :
    first.notAfter second = true ↔
      first.span.start < second.span.start ∨
        (first.span.start = second.span.start ∧ first.span.stop ≤ second.span.stop) := by
  simp only [Edit.notAfter, Span.before, Bool.not_eq_true', Bool.or_eq_false_iff,
    Bool.and_eq_false_iff, decide_eq_false_iff_not, beq_eq_false_iff_ne]
  omega

theorem notAfter_trans (first second third : Edit) (early : first.notAfter second = true)
    (late : second.notAfter third = true) : first.notAfter third = true := by
  rw [notAfter_iff] at *
  omega

theorem notAfter_total (first second : Edit) :
    (first.notAfter second || second.notAfter first) = true := by
  rw [Bool.or_eq_true, notAfter_iff, notAfter_iff]
  omega

theorem sort_perm (edits : List Edit) : (Edit.sort edits).Perm edits :=
  List.mergeSort_perm edits Edit.notAfter

theorem sort_ordered (edits : List Edit) :
    (Edit.sort edits).Pairwise fun first second => first.notAfter second = true :=
  List.pairwise_mergeSort notAfter_trans notAfter_total edits

/-- One edit is done with where the other begins, and they are not the same insertion point. -/
def Precedes (first second : Edit) : Prop :=
  first.span.stop ≤ second.span.start ∧ first.span.start < second.span.stop

theorem Precedes.trans {first second third : Edit} (early : Precedes first second)
    (late : Precedes second third) : Precedes first third := by
  have ordered := second.span.ordered
  have thirdOrdered := third.span.ordered
  unfold Precedes at *
  omega

def Clear (first second : Edit) : Prop :=
  first.span.overlaps second.span = false

instance : Std.Symm Clear where
  symm first second clear := (overlaps_comm second.span first.span).trans clear

theorem clear_iff_precedes {first second : Edit} (ordered : first.notAfter second = true) :
    Clear first second ↔ Precedes first second := by
  have firstOrdered := first.span.ordered
  have secondOrdered := second.span.ordered
  rw [Clear, ← Bool.not_eq_true, overlaps_iff, Precedes]
  rw [notAfter_iff] at ordered
  omega

def Apart (edits : List Edit) : Prop :=
  edits.Pairwise Clear

theorem Apart.perm {edits others : List Edit} (apart : Apart edits) (same : edits.Perm others) :
    Apart others :=
  List.Pairwise.perm apart same symm

/-- In order, each of some edits that are apart is done with where the next ones begin. -/
theorem sort_precedes {edits : List Edit} (apart : Apart edits) :
    (Edit.sort edits).Pairwise Precedes :=
  ((sort_ordered edits).and (apart.perm (sort_perm edits).symm)).imp fun both =>
    (clear_iff_precedes both.1).mp both.2

/-- Comparing the neighbours of edits in order compares them all. -/
theorem overlapping?_eq_none_iff {edits : List Edit}
    (ordered : edits.Pairwise fun first second => first.notAfter second = true) :
    Fix.overlapping? edits = none ↔ Apart edits := by
  fun_induction Fix.overlapping? edits with
  | case1 first second rest overlapping => simp [Apart, Clear, overlapping]
  | case2 first second rest clear ih =>
    obtain ⟨firstOrdered, restOrdered⟩ := List.pairwise_cons.mp ordered
    rw [ih restOrdered]
    refine ⟨fun apart => List.pairwise_cons.mpr ⟨?_, apart⟩, List.Pairwise.of_cons⟩
    -- The first edit precedes the second, and the second precedes all that follow it.
    have early : Precedes first second :=
      (clear_iff_precedes (firstOrdered second (by simp))).mp (eq_false_of_ne_true clear)
    intro other member
    apply (clear_iff_precedes (firstOrdered other member)).mpr
    rcases List.mem_cons.mp member with rfl | later
    · exact early
    · have late : Precedes second other :=
        (clear_iff_precedes (List.rel_of_pairwise_cons restOrdered later)).mp
          (List.rel_of_pairwise_cons apart later)
      exact early.trans late
  | case3 edits short =>
    match edits with
    | [] => simp [Apart]
    | [edit] => simp [Apart]
    | first :: second :: rest => exact absurd rfl (short first second rest)

/-- Edits apart from each other have one order only. -/
theorem sort_eq_of_perm {edits others : List Edit} (apart : Apart edits)
    (same : edits.Perm others) : Edit.sort edits = Edit.sort others := by
  have reordered : (Edit.sort edits).Perm (Edit.sort others) :=
    ((sort_perm edits).trans same).trans (sort_perm others).symm
  refine List.Perm.eq_of_pairwise ?_ (sort_ordered edits) (sort_ordered others) reordered
  intro first second here there early late
  have touching : first.span.overlaps second.span = true := by
    rw [notAfter_iff] at early late
    have ordered := first.span.ordered
    rw [overlaps_iff]
    omega
  by_contra different
  have clear : Clear first second :=
    (apart.perm (sort_perm edits).symm).forall here (reordered.mem_iff.mpr there) different
  exact Bool.false_ne_true (clear.symm.trans touching)

theorem ofEdits_eq_ok_iff (edits : List Edit) (sourceLength : Int) (fix : Fix) :
    Fix.ofEdits edits sourceLength = .ok fix ↔
      edits ≠ [] ∧ (∀ edit ∈ edits, (edit.span.stop : Int) ≤ sourceLength) ∧ Apart edits ∧
        fix = ⟨Edit.sort edits⟩ := by
  have empty : (Edit.sort edits).isEmpty = true ↔ edits = [] := by
    rw [List.isEmpty_iff, ← List.length_eq_zero_iff, (sort_perm edits).length_eq,
      List.length_eq_zero_iff]
  have inside : (Edit.sort edits).find? (fun edit => decide (sourceLength < edit.span.stop)) = none ↔
      ∀ edit ∈ edits, (edit.span.stop : Int) ≤ sourceLength := by
    simp [List.find?_eq_none, (sort_perm edits).mem_iff]
  have apart : Fix.overlapping? (Edit.sort edits) = none ↔ Apart edits := by
    rw [overlapping?_eq_none_iff (sort_ordered edits)]
    exact ⟨fun apart => apart.perm (sort_perm edits),
      fun apart => apart.perm (sort_perm edits).symm⟩
  rw [← apart, ← inside, ne_eq, ← empty, Fix.ofEdits]
  split
  · simp [*]
  · split
    · simp [*]
    · split
      · simp [*]
      · simp [*, eq_comm]

end AngularLint.Proofs.EditOrder
