import AngularLint.Proofs.EditFrame

/-! Carrying out a fix is substitution. The edits are carried out one after another on a text that
changes, with ranges that were meant for the source. What comes out is nevertheless the source with
each text in the place of its range: the gaps between the ranges, unchanged, and the texts between
them, whole. -/

namespace AngularLint.Proofs.Substitution
open EditOrder EditFrame FixAcceptance

/-- The source from a position on, with the texts of some edits in the place of their ranges. -/
def substituted (source : String) : Nat → List Edit → String
  | position, [] => Text.slice source position source.length
  | position, edit :: rest =>
    Text.slice source position edit.span.start ++ edit.text ++
      substituted source edit.span.stop rest

def removed (edits : List Edit) : Nat :=
  edits.foldr (fun edit total => edit.span.length + total) 0

def inserted (edits : List Edit) : Nat :=
  edits.foldr (fun edit total => edit.text.length + total) 0

theorem removed_cons (edit : Edit) (rest : List Edit) :
    removed (edit :: rest) = edit.span.length + removed rest := rfl

theorem inserted_cons (edit : Edit) (rest : List Edit) :
    inserted (edit :: rest) = edit.text.length + inserted rest := rfl

theorem toList_substituted (source : String) (position : Nat) (edits : List Edit) :
    (substituted source position edits).toList =
      replaced (fun edit => edit.text.toList) source.toList position edits := by
  induction edits generalizing position with
  | nil => rw [substituted, Text.slice, String.toList_ofList, ← String.length_toList,
      List.take_length, replaced]
  | cons edit rest ih =>
    rw [substituted, String.toList_append, String.toList_append, ih, Text.slice,
      String.toList_ofList, replaced]

theorem slice_length {source : String} {start stop : Nat} (inside : stop ≤ source.length) :
    (Text.slice source start stop).length = stop - start := by
  rw [Text.slice, String.length_ofList, List.length_drop, List.length_take, String.length_toList,
    Nat.min_eq_left inside]

theorem slice_slice {source : String} {position start stop : Nat} (shorter : start ≤ stop) :
    Text.slice (Text.slice source 0 stop) position start = Text.slice source position start := by
  rw [Text.slice, Text.slice, Text.slice, String.toList_ofList, List.drop_zero, List.take_take,
    Nat.min_eq_left shorter]

theorem removed_inside {length position : Nat} {edits : List Edit}
    (laid : Laid length position edits) : position + removed edits ≤ length := by
  induction laid with
  | nil inside => exact inside
  | @cons position edit rest behind later ih =>
    have ordered := edit.span.ordered
    rw [removed_cons, Span.length]
    omega

theorem substituted_length {source : String} {position : Nat} {edits : List Edit}
    (laid : Laid source.length position edits) :
    position + removed edits + (substituted source position edits).length =
      source.length + inserted edits := by
  -- The gap before an edit, its range and all that lies behind make up the source from here on.
  induction laid with
  | @nil position inside =>
    have nothing : removed [] = 0 ∧ inserted [] = 0 := ⟨rfl, rfl⟩
    rw [substituted, slice_length (Nat.le_refl _)]
    omega
  | @cons position edit rest behind later ih =>
    have ordered := edit.span.ordered
    have inside := later.inside
    have gap : (Text.slice source position edit.span.start).length = edit.span.start - position :=
      slice_length (Nat.le_trans ordered inside)
    rw [removed_cons, inserted_cons, substituted, String.length_append, String.length_append, gap,
      Span.length]
    omega

theorem behind_position {length position : Nat} {before : List Edit} {edit : Edit}
    {after : List Edit} (laid : Laid length position (before ++ edit :: after)) :
    position ≤ edit.span.start := by
  induction before generalizing position with
  | nil =>
    cases laid with
    | cons behind _ => exact behind
  | cons first more ih =>
    cases laid with
    | cons behind later =>
      have ordered := first.span.ordered
      have next := ih later
      omega

/-- Around one of the edits: what stands before its text comes of the source before its range and
the edits before it, and what stands behind comes of the source and the edits behind. -/
theorem substituted_around {source : String} {position : Nat} {before : List Edit} {edit : Edit}
    {after : List Edit} (laid : Laid source.length position (before ++ edit :: after)) :
    substituted source position (before ++ edit :: after) =
      substituted (Text.slice source 0 edit.span.start) position before ++ edit.text ++
        substituted source edit.span.stop after := by
  induction before generalizing position with
  | nil =>
    have inside : edit.span.start ≤ source.length := by
      cases laid with
      | cons _ later => exact Nat.le_trans edit.span.ordered later.inside
    rw [List.nil_append, substituted, substituted, slice_length inside,
      slice_slice (Nat.sub_le _ _), Nat.sub_zero]
  | cons first more ih =>
    cases laid with
    | cons _ later =>
      -- The gaps before the edit lie in the part of the source before its range.
      have shorter := Nat.le_trans first.span.ordered (behind_position later)
      rw [List.cons_append, substituted, substituted, slice_slice shorter, ih later]
      simp only [String.append_assoc]

theorem made_precedes {length : Int} {fix : Fix} (made : MadeFor length fix) :
    fix.edits.Pairwise Precedes := by
  obtain ⟨edits, ok⟩ := made
  obtain ⟨-, -, apart, rfl⟩ := (ofEdits_eq_ok_iff edits length fix).mp ok
  exact sort_precedes apart

/-- The edits of a fix are replaced all at once. The ranges follow each other, so each gap between
them is a part of the source, and each text stands whole between what the other edits bring. -/
theorem apply_substitutes (source : String) (edits : List Edit) (fix : Fix)
    (made : Fix.ofEdits edits source.length = .ok fix) :
    fix.apply source = substituted source 0 fix.edits ∧
      (fix.edits.Pairwise fun first second => first.span.stop ≤ second.span.start) ∧
      (∀ edit ∈ fix.edits, edit.span.stop ≤ source.length) ∧
      (∀ before edit after, fix.edits = before ++ edit :: after →
        fix.apply source =
          substituted (Text.slice source 0 edit.span.start) 0 before ++ edit.text ++
            substituted source edit.span.stop after) ∧
      removed fix.edits ≤ source.length ∧
      (fix.apply source).length = source.length - removed fix.edits + inserted fix.edits := by
  have madeFor : MadeFor source.length fix := ⟨edits, made⟩
  have ordered := made_precedes madeFor
  have within : ∀ edit ∈ fix.edits, edit.span.stop ≤ source.length :=
    fun edit member => Int.ofNat_le.mp (madeFor.edits.2.1 edit member)
  have laid : Laid source.length 0 fix.edits :=
    laid_of_precedes ordered within (fun _ _ => Nat.zero_le _) (Nat.zero_le _)
  have applied : fix.apply source = substituted source 0 fix.edits := by
    apply String.toList_injective
    rw [toList_substituted, Fix.apply, applyAll_laid laid, List.take_zero, List.nil_append]
  have shorter := removed_inside laid
  have lengths := substituted_length laid
  refine ⟨applied, ordered.imp fun precedes => precedes.1, within, ?_, by omega, ?_⟩
  · intro before edit after split
    rw [applied]
    rw [split] at laid ⊢
    exact substituted_around laid
  · rw [applied]
    omega

/-- A replacement, an insertion right behind it, and a removal right behind that. -/
def adjoining : List Edit :=
  [⟨{ start := 2, stop := 5 }, "XY"⟩, ⟨.point 5, "Z"⟩, ⟨{ start := 5, stop := 7 }, ""⟩]

theorem adjoining_substituted :
    Fix.ofEdits adjoining.reverse "abcdefgh".length = .ok ⟨adjoining⟩ ∧
      Fix.apply ⟨adjoining⟩ "abcdefgh" = "ab" ++ "XY" ++ "Z" ++ "h" := by
  have apart : Apart adjoining.reverse := by
    unfold Apart Clear
    decide
  have sorted : Edit.sort adjoining.reverse = adjoining := by
    rw [sort_eq_of_perm apart (List.reverse_perm adjoining)]
    exact List.mergeSort_of_pairwise (by decide)
  have made : Fix.ofEdits adjoining.reverse "abcdefgh".length = .ok ⟨adjoining⟩ :=
    (ofEdits_eq_ok_iff _ _ _).mpr ⟨by decide, by decide, apart, by rw [sorted]⟩
  obtain ⟨applied, -⟩ := apply_substitutes "abcdefgh" _ _ made
  exact ⟨made, applied.trans (by decide)⟩

end AngularLint.Proofs.Substitution
