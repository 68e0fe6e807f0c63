import AngularLint.Proofs.EditOrder

/-! When edits make a fix. The faults are a matter of the ranges in order alone, and a list of edits
has the same ranges in order however it is arranged. So the outcome, faults included, does not
depend on the arrangement, and edits make a fix just when there are some, all end within the source
and each is apart from each other one. -/

namespace AngularLint.Proofs.FixConditions
open EditOrder

theorem span_eq {first second : Span} (start : first.start = second.start)
    (stop : first.stop = second.stop) : first = second := by
  cases first
  cases second
  simp_all

def touching? : List Span → Option (Span × Span)
  | first :: second :: rest =>
    if first.overlaps second then some (first, second) else touching? (second :: rest)
  | _ => none

/-- What is wrong with edits whose ranges, in order, are these. -/
def faultOf? (sourceLength : Int) (spans : List Span) : Option FixFault :=
  if spans.isEmpty then some .noEdits
  else
    match spans.find? fun span => sourceLength < span.stop with
    | some span => some (.outside span sourceLength)
    | none => (touching? spans).map fun pair => .overlapping pair.1 pair.2

theorem touching?_spans (edits : List Edit) :
    touching? (edits.map Edit.span) =
      (Fix.overlapping? edits).map fun pair => (pair.1.span, pair.2.span) := by
  fun_induction Fix.overlapping? edits with
  | case1 first second rest overlapping => simp [touching?, overlapping]
  | case2 first second rest clear ih =>
    rw [List.map_cons, List.map_cons, touching?, if_neg clear, ← ih, List.map_cons]
  | case3 edits short =>
    rcases edits with _ | ⟨first, _ | ⟨second, rest⟩⟩
    · rfl
    · rfl
    · exact absurd rfl (short first second rest)

theorem ofEdits_eq (edits : List Edit) (sourceLength : Int) :
    Fix.ofEdits edits sourceLength =
      match faultOf? sourceLength ((Edit.sort edits).map Edit.span) with
      | some fault => .error fault
      | none => .ok ⟨Edit.sort edits⟩ := by
  have outside : ((Edit.sort edits).map Edit.span).find?
      (fun span => decide (sourceLength < span.stop)) =
        ((Edit.sort edits).find? fun edit => decide (sourceLength < edit.span.stop)).map
          Edit.span := List.find?_map ..
  rw [Fix.ofEdits, faultOf?, touching?_spans, outside, List.isEmpty_map]
  split
  · rfl
  · cases (Edit.sort edits).find? fun edit => decide (sourceLength < edit.span.stop) with
    | some edit => rfl
    | none => cases Fix.overlapping? (Edit.sort edits) <;> rfl

/-- Edits that are arranged otherwise have the same ranges in order. -/
theorem spans_of_perm {edits others : List Edit} (same : edits.Perm others) :
    (Edit.sort edits).map Edit.span = (Edit.sort others).map Edit.span := by
  have ordered (edits : List Edit) : ((Edit.sort edits).map Edit.span).Pairwise
      fun first second => (!second.before first) = true :=
    List.pairwise_map.mpr (sort_ordered edits)
  have reordered : (Edit.sort edits).Perm (Edit.sort others) :=
    ((sort_perm edits).trans same).trans (sort_perm others).symm
  refine List.Perm.eq_of_pairwise ?_ (ordered edits) (ordered others) (reordered.map Edit.span)
  -- Of two ranges neither of which comes after the other, both bounds are the same.
  intro first second _ _ early late
  have forward := (notAfter_iff ⟨first, ""⟩ ⟨second, ""⟩).mp early
  have backward := (notAfter_iff ⟨second, ""⟩ ⟨first, ""⟩).mp late
  dsimp only at forward backward
  exact span_eq (by omega) (by omega)

theorem ofEdits_perm {edits others : List Edit} (same : edits.Perm others) (sourceLength : Int) :
    Fix.ofEdits edits sourceLength = Fix.ofEdits others sourceLength := by
  cases outcome : Fix.ofEdits edits sourceLength with
  | error fault =>
    rw [ofEdits_eq, spans_of_perm same] at outcome
    rw [ofEdits_eq]
    split at outcome
    · exact outcome.symm
    · cases outcome
  | ok fix =>
    -- Edits that make a fix are apart, so not only their ranges have one order.
    obtain ⟨some, inside, apart, rfl⟩ := (ofEdits_eq_ok_iff edits sourceLength fix).mp outcome
    symm
    refine (ofEdits_eq_ok_iff others sourceLength _).mpr ⟨?_, ?_, apart.perm same, ?_⟩
    · rintro rfl
      exact some (List.perm_nil.mp same)
    · exact fun edit member => inside edit (same.mem_iff.mpr member)
    · rw [sort_eq_of_perm apart same]

def Sooner (first second : Edit) : Prop :=
  first.span.start < second.span.start ∨
    (first.span.start = second.span.start ∧ first.span.stop < second.span.stop)

theorem sooner_of_precedes {first second : Edit} (precedes : Precedes first second) :
    Sooner first second := by
  have firstOrdered := first.span.ordered
  have secondOrdered := second.span.ordered
  unfold Precedes at precedes
  unfold Sooner
  omega

theorem sooner_unique {edits others : List Edit} (same : edits.Perm others)
    (sorted : edits.Pairwise Sooner) (otherSorted : others.Pairwise Sooner) : edits = others := by
  refine List.Perm.eq_of_pairwise ?_ sorted otherSorted same
  intro first second _ _ early late
  unfold Sooner at early late
  omega

/-- No two edits of the list overlap, wherever they stand in it. -/
def AllClear (edits : List Edit) : Prop :=
  ∀ (i j : Nat) (first second : Edit), i ≠ j → edits[i]? = some first → edits[j]? = some second →
    first.span.overlaps second.span = false

theorem apart_iff_allClear (edits : List Edit) : Apart edits ↔ AllClear edits := by
  -- Overlapping goes both ways, so it does not matter which of two edits comes first in the list.
  rw [Apart, List.pairwise_iff_getElem]
  constructor
  · intro clear i j first second different here there
    obtain ⟨inside, rfl⟩ := List.getElem?_eq_some_iff.mp here
    obtain ⟨otherInside, rfl⟩ := List.getElem?_eq_some_iff.mp there
    rcases Nat.lt_or_gt_of_ne different with early | late
    · exact clear i j inside otherInside early
    · exact (overlaps_comm _ _).trans (clear j i otherInside inside late)
  · intro clear i j inside otherInside early
    exact clear i j _ _ (Nat.ne_of_lt early) (List.getElem?_eq_getElem inside)
      (List.getElem?_eq_getElem otherInside)

/-- Edits make a fix just when there are some, all end within the source and no two overlap. The fix
holds them in the one order in which each range comes sooner than the next. However the edits are
arranged, the outcome is the same, with the same fault if there is one. -/
theorem ofEdits_judges_pairs (edits : List Edit) (sourceLength : Int) :
    ((∃ fix, Fix.ofEdits edits sourceLength = .ok fix) ↔
      edits ≠ [] ∧ (∀ edit ∈ edits, (edit.span.stop : Int) ≤ sourceLength) ∧ AllClear edits) ∧
      (∀ fix, Fix.ofEdits edits sourceLength = .ok fix →
        fix.edits.Perm edits ∧ fix.edits.Pairwise Sooner ∧
          ∀ others, others.Perm edits → others.Pairwise Sooner → others = fix.edits) ∧
      ∀ others, others.Perm edits →
        Fix.ofEdits others sourceLength = Fix.ofEdits edits sourceLength := by
  refine ⟨?_, ?_, fun others same => ofEdits_perm same sourceLength⟩
  · rw [← apart_iff_allClear]
    constructor
    · rintro ⟨fix, made⟩
      obtain ⟨some, inside, apart, -⟩ := (ofEdits_eq_ok_iff edits sourceLength fix).mp made
      exact ⟨some, inside, apart⟩
    · rintro ⟨some, inside, apart⟩
      exact ⟨_, (ofEdits_eq_ok_iff edits sourceLength _).mpr ⟨some, inside, apart, rfl⟩⟩
  · intro fix made
    obtain ⟨-, -, apart, rfl⟩ := (ofEdits_eq_ok_iff edits sourceLength fix).mp made
    have permuted := sort_perm edits
    have sorted : (Edit.sort edits).Pairwise Sooner := (sort_precedes apart).imp sooner_of_precedes
    exact ⟨permuted, sorted, fun others same otherSorted =>
      sooner_unique (same.trans permuted.symm) otherSorted sorted⟩

end AngularLint.Proofs.FixConditions
