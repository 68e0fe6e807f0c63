import AngularLint.Proofs.FixAcceptance

/-! What edits leave alone. Edits are carried out from the last to the first. Since they are in order
and apart, that comes to the same as replacing all their ranges at once: what stands between the
ranges is kept. To follow characters through several texts, each one carries the place that it had
in the first text, if it stood there. -/

namespace AngularLint.Proofs.EditFrame
open EditOrder FixAcceptance

/-- What becomes of a source, from a position on, when the ranges of some edits are filled anew. -/
def replaced {α : Type} (fill : Edit → List α) (source : List α) : Nat → List Edit → List α
  | position, [] => source.drop position
  | position, edit :: rest =>
    (source.take edit.span.start).drop position ++ fill edit ++
      replaced fill source edit.span.stop rest

/-- Edits lie behind a position, each one behind the one before it, and within a length. -/
inductive Laid (length : Nat) : Nat → List Edit → Prop where
  | nil {position : Nat} (inside : position ≤ length) : Laid length position []
  | cons {position : Nat} {edit : Edit} {rest : List Edit} (behind : position ≤ edit.span.start)
      (later : Laid length edit.span.stop rest) : Laid length position (edit :: rest)

theorem Laid.inside {length position : Nat} {edits : List Edit}
    (laid : Laid length position edits) : position ≤ length := by
  induction laid with
  | nil inside => exact inside
  | @cons position edit rest behind later ih =>
    have ordered := edit.span.ordered
    omega

theorem laid_of_precedes {length position : Nat} {edits : List Edit}
    (ordered : edits.Pairwise Precedes) (inside : ∀ edit ∈ edits, edit.span.stop ≤ length)
    (behind : ∀ edit ∈ edits, position ≤ edit.span.start) (start : position ≤ length) :
    Laid length position edits := by
  induction edits generalizing position with
  | nil => exact .nil start
  | cons edit rest ih =>
    obtain ⟨first, others⟩ := List.pairwise_cons.mp ordered
    refine .cons (behind edit List.mem_cons_self) (ih others ?_ ?_ ?_)
    · exact fun other member => inside other (List.mem_cons_of_mem _ member)
    · exact fun other member => (first other member).1
    · exact inside edit List.mem_cons_self

/-- The edits of accepted fixes can be carried out together. -/
theorem accepted_laid {length : Nat} {fixes : List Fix}
    (made : ∀ fix ∈ fixes, MadeFor length fix) :
    Laid length 0 (Edit.sort ((Fix.accept fixes).flatMap Fix.edits)) := by
  have madeAccepted (fix : Fix) (accepted : fix ∈ Fix.accept fixes) : MadeFor length fix :=
    made fix ((acceptFrom_sublist [] fixes).subset accepted)
  refine laid_of_precedes ?_ ?_ (fun _ _ => Nat.zero_le _) (Nat.zero_le _)
  · exact sort_precedes (apart_flatMap madeAccepted (acceptFrom_compatible .nil fixes))
  · intro edit member
    obtain ⟨fix, accepted, inside⟩ := List.mem_flatMap.mp ((sort_perm _).mem_iff.mp member)
    exact Int.ofNat_le.mp ((madeAccepted fix accepted).edits.2.1 edit inside)

theorem take_append_between {α : Type} (source : List α) {start stop : Nat}
    (ordered : start ≤ stop) :
    source.take start ++ (source.take stop).drop start = source.take stop := by
  have early : source.take start = (source.take stop).take start := by
    rw [List.take_take, Nat.min_eq_left ordered]
  rw [early, List.take_append_drop]

theorem between_append_drop {α : Type} (source : List α) {start stop : Nat}
    (ordered : start ≤ stop) :
    (source.take stop).drop start ++ source.drop stop = source.drop start := by
  have late : source.drop stop = (source.drop start).drop (stop - start) := by
    rw [List.drop_drop, Nat.add_sub_cancel' ordered]
  rw [late, List.drop_take, List.take_append_drop]

theorem applyAll_laid {source : String} {position : Nat} {edits : List Edit}
    (laid : Laid source.length position edits) :
    (Edit.applyAll edits source).toList =
      source.toList.take position ++
        replaced (fun edit => edit.text.toList) source.toList position edits := by
  induction laid with
  | nil => exact (List.take_append_drop _ _).symm
  | @cons position edit rest behind later ih =>
    have ordered := edit.span.ordered
    have inside := later.inside
    rw [← String.length_toList] at inside
    have applied : Edit.applyAll (edit :: rest) source =
      edit.apply (Edit.applyAll rest source) := rfl
    rw [applied, Edit.apply, Text.splice, String.toList_ofList, ih, replaced]
    -- The edits behind this one have not changed anything before the end of its range.
    have before : (source.toList.take edit.span.stop ++ replaced (fun edit => edit.text.toList)
        source.toList edit.span.stop rest).take edit.span.start =
          source.toList.take edit.span.start := by
      rw [List.take_append_of_le_length (by rw [List.length_take]; omega), List.take_take,
        Nat.min_eq_left ordered]
    have after : (source.toList.take edit.span.stop ++ replaced (fun edit => edit.text.toList)
        source.toList edit.span.stop rest).drop edit.span.stop =
          replaced (fun edit => edit.text.toList) source.toList edit.span.stop rest := by
      rw [List.drop_append_of_le_length (by rw [List.length_take]; omega), List.drop_take,
        Nat.sub_self, List.take_zero, List.nil_append]
    rw [before, after, ← List.append_assoc, ← List.append_assoc, take_append_between _ behind]

/-- A text whose characters know where they stood in the text before all edits, if they did. -/
abbrev Marked := List (Char × Option Nat)

def Marked.text (marks : Marked) : List Char :=
  marks.map Prod.fst

/-- The characters that stood in the first text, with their places there. -/
def Marked.kept (marks : Marked) : List (Char × Nat) :=
  marks.filterMap fun mark => mark.2.map fun place => (mark.1, place)

def brought (edit : Edit) : Marked :=
  edit.text.toList.map fun character => (character, none)

/-- What stands in the ranges of some edits. -/
def cut (marks : Marked) (edits : List Edit) : Marked :=
  edits.flatMap fun edit => (marks.take edit.span.stop).drop edit.span.start

theorem kept_append (first second : Marked) :
    Marked.kept (first ++ second) = first.kept ++ second.kept :=
  List.filterMap_append

theorem kept_brought (edit : Edit) : (brought edit).kept = [] := by
  rw [Marked.kept, brought, List.filterMap_map]
  exact List.filterMap_eq_nil_iff.mpr fun _ _ => rfl

theorem text_replaced (marks : Marked) (position : Nat) (edits : List Edit) :
    Marked.text (replaced brought marks position edits) =
      replaced (fun edit => edit.text.toList) marks.text position edits := by
  induction edits generalizing position with
  | nil => exact List.map_drop
  | cons edit rest ih =>
    have new : Marked.text (brought edit) = edit.text.toList := by
      rw [Marked.text, brought, List.map_map]
      exact List.map_id _
    rw [replaced, replaced, ← ih, ← new]
    simp only [Marked.text, List.map_append, List.map_drop, List.map_take]

theorem cut_behind (marks : Marked) {length position : Nat} {edits : List Edit}
    (laid : Laid length position edits) : cut marks edits ⊆ marks.drop position := by
  induction laid with
  | nil => exact List.nil_subset _
  | @cons position edit rest behind later ih =>
    have ordered := edit.span.ordered
    have behindStart : marks.drop edit.span.start ⊆ marks.drop position := by
      rw [← between_append_drop marks behind]
      exact List.subset_append_right _ _
    refine List.Subset.trans ?_ behindStart
    rw [cut, List.flatMap_cons, ← between_append_drop marks ordered]
    exact List.append_subset.mpr
      ⟨List.subset_append_left _ _, List.Subset.trans ih (List.subset_append_right _ _)⟩

theorem kept_subset {first second : Marked} (within : first ⊆ second) :
    first.kept ⊆ second.kept := by
  intro item member
  obtain ⟨mark, inside, same⟩ := List.mem_filterMap.mp member
  exact List.mem_filterMap.mpr ⟨mark, within inside, same⟩

theorem filter_parts {first inside later removed : List (Char × Nat)}
    (distinct : (first ++ (inside ++ later)).Nodup) (behind : removed ⊆ later) :
    (first ++ (inside ++ later)).filter (· ∉ inside ++ removed) =
      first ++ later.filter (· ∉ removed) := by
  obtain ⟨_, others, firstApart⟩ := List.nodup_append.mp distinct
  obtain ⟨_, _, insideApart⟩ := List.nodup_append.mp others
  have firstKept : first.filter (· ∉ inside ++ removed) = first := by
    apply List.filter_eq_self.mpr
    intro item member
    apply decide_eq_true
    intro gone
    refine firstApart item member item ?_ rfl
    rcases List.mem_append.mp gone with here | there
    · exact List.mem_append_left _ here
    · exact List.mem_append_right _ (behind there)
  have insideGone : inside.filter (· ∉ inside ++ removed) = [] := by
    apply List.filter_eq_nil_iff.mpr
    intro item member
    rw [decide_eq_true_eq, not_not]
    exact List.mem_append_left _ member
  have laterKept : later.filter (· ∉ inside ++ removed) = later.filter (· ∉ removed) := by
    apply List.filter_congr
    intro item member
    have elsewhere : item ∉ inside := fun here => insideApart item here item member rfl
    simp only [List.mem_append, or_iff_right elsewhere]
  rw [List.filter_append, List.filter_append, firstKept, insideGone, laterKept, List.nil_append]

/-- Edits keep all that stands outside their ranges, and nothing else, in the order it was in. -/
theorem kept_replaced {marks : Marked} {length position : Nat} {edits : List Edit}
    (laid : Laid length position edits)
    (distinct : (Marked.kept (marks.drop position)).Nodup) :
    Marked.kept (replaced brought marks position edits) =
      (Marked.kept (marks.drop position)).filter (· ∉ (cut marks edits).kept) := by
  induction laid with
  | nil =>
    symm
    apply List.filter_eq_self.mpr
    intro item _
    exact decide_eq_true List.not_mem_nil
  | @cons position edit rest behind later ih =>
    let before : Marked := (marks.take edit.span.start).drop position
    let inside : Marked := (marks.take edit.span.stop).drop edit.span.start
    have parts : Marked.kept (marks.drop position) =
        before.kept ++ (inside.kept ++ Marked.kept (marks.drop edit.span.stop)) := by
      rw [← between_append_drop marks behind, kept_append,
        ← between_append_drop marks edit.span.ordered, kept_append]
    have removed : (cut marks (edit :: rest)).kept = inside.kept ++ (cut marks rest).kept := by
      rw [cut, List.flatMap_cons]
      exact kept_append _ _
    have kept : Marked.kept (replaced brought marks position (edit :: rest)) =
        before.kept ++ Marked.kept (replaced brought marks edit.span.stop rest) := by
      rw [replaced, kept_append, kept_append, kept_brought, List.append_nil]
    rw [parts] at distinct
    have tail := (List.nodup_append.mp (List.nodup_append.mp distinct).2.1).2.1
    rw [kept, parts, removed, ih tail]
    exact (filter_parts distinct (kept_subset (cut_behind marks later))).symm

end AngularLint.Proofs.EditFrame
