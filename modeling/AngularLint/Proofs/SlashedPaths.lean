import AngularLint.ModulePath
import AngularLint.Proofs.Numerals

/-! Paths as the parts between their slashes. Taking the directory of a path, going on from there
and bringing the result to its normal form are operations on the parts: the last one is left out,
further ones are put behind, and those that lead up take back what stands before them. -/

namespace AngularLint.Proofs.SlashedPaths
open AngularLint.Text AngularLint.ModulePath Numerals

/-- A part that names a folder or a file, instead of leading up or nowhere. -/
structure Ordinary (part : String) : Prop where
  filled : part ≠ ""
  slashless : '/' ∉ part.toList
  forward : '\\' ∉ part.toList
  down : part ≠ "." ∧ part ≠ ".."

instance (part : String) : Decidable (Ordinary part) :=
  decidable_of_iff (part ≠ "" ∧ '/' ∉ part.toList ∧ '\\' ∉ part.toList ∧ part ≠ "." ∧ part ≠ "..")
    ⟨fun all => ⟨all.1, all.2.1, all.2.2.1, all.2.2.2⟩,
      fun ordinary => ⟨ordinary.filled, ordinary.slashless, ordinary.forward, ordinary.down⟩⟩

theorem join_splitOn (path : String) : join "/" (splitOn path '/') = path := by
  apply String.ext
  rw [join, String.toList_intercalate, splitOn, List.map_map]
  simp [Function.comp_def, List.intercalate_splitOn]

theorem splitOn_join {parts : List String} (filled : parts ≠ [])
    (slashless : ∀ part ∈ parts, '/' ∉ part.toList) : splitOn (join "/" parts) '/' = parts := by
  have split : (['/'].intercalate (parts.map String.toList)).splitOn '/' =
      parts.map String.toList :=
    List.splitOn_intercalate '/' (by simpa using slashless) (by simpa using filled)
  rw [splitOn, join, String.toList_intercalate]
  exact (congrArg (List.map String.ofList) split).trans (by simp)

theorem splitOn_slash (first second : String) :
    splitOn (first ++ "/" ++ second) '/' = splitOn first '/' ++ splitOn second '/' := by
  have text : (first ++ "/" ++ second).toList = first.toList ++ '/' :: second.toList := by simp
  rw [splitOn, text, List.splitOn_append_cons_self, List.map_append]
  rfl

theorem join_append {first second : List String} (one : first ≠ []) (other : second ≠ []) :
    join "/" (first ++ second) = join "/" first ++ "/" ++ join "/" second := by
  induction first with
  | nil => exact absurd rfl one
  | cons part rest ih =>
    cases rest with
    | nil =>
      obtain ⟨next, more, rfl⟩ := List.exists_cons_of_ne_nil other
      simp [join]
    | cons next more =>
      have later := ih (List.cons_ne_nil next more)
      simp only [join, List.cons_append, String.intercalate_cons_cons] at later ⊢
      rw [later]
      simp [String.append_assoc]

theorem splitOn_injective {first second : String} (same : splitOn first '/' = splitOn second '/') :
    first = second := by
  rw [← join_splitOn first, same, join_splitOn]

theorem splitOn_ne_nil (path : String) : splitOn path '/' ≠ [] := by
  rw [splitOn, ne_eq, List.map_eq_nil_iff]
  exact List.splitOn_ne_nil '/' path.toList

theorem splitOn_single {part : String} (slashless : '/' ∉ part.toList) :
    splitOn part '/' = [part] := by
  rw [splitOn, List.splitOn_eq_singleton slashless, List.map_singleton, String.ofList_toList]

theorem chars_slashless (text : List Char) : ∀ part ∈ text.splitOn '/', '/' ∉ part := by
  induction text with
  | nil => simp
  | cons c rest ih =>
    rw [List.splitOn_cons_eq_if_modifyHead]
    split
    next => exact List.forall_mem_cons.mpr ⟨List.not_mem_nil, ih⟩
    next other =>
      obtain ⟨first, more, parts⟩ := List.exists_cons_of_ne_nil (List.splitOn_ne_nil '/' rest)
      rw [parts] at ih
      obtain ⟨here, later⟩ := List.forall_mem_cons.mp ih
      rw [parts, List.modifyHead_cons, List.forall_mem_cons]
      refine ⟨?_, later⟩
      intro slash
      rcases List.mem_cons.mp slash with rfl | inside
      · exact other rfl
      · exact here inside

theorem slashless_of_mem {path part : String} (member : part ∈ splitOn path '/') :
    '/' ∉ part.toList := by
  obtain ⟨text, inside, rfl⟩ := List.mem_map.mp member
  rw [String.toList_ofList]
  exact chars_slashless path.toList text inside

theorem chars_splitOn_append {one other middle next : List Char} {before after : List (List Char)}
    (left : one.splitOn '/' = before ++ [middle]) (right : other.splitOn '/' = next :: after) :
    (one ++ other).splitOn '/' = before ++ (middle ++ next) :: after := by
  induction one generalizing before middle with
  | nil =>
    have whole : [] ++ [[]] = before ++ [middle] := left
    obtain ⟨rfl, same⟩ := List.append_inj' whole rfl
    cases same
    exact right
  | cons c rest ih =>
    rw [List.splitOn_cons_eq_if_modifyHead] at left
    rw [List.cons_append, List.splitOn_cons_eq_if_modifyHead]
    by_cases slash : (c == '/') = true
    · rw [if_pos slash] at left ⊢
      cases before with
      | nil => exact absurd (List.cons.inj left).2 (List.splitOn_ne_nil '/' rest)
      | cons first before =>
        obtain ⟨rfl, later⟩ := List.cons.inj left
        rw [ih later]
        rfl
    · rw [if_neg slash] at left ⊢
      obtain ⟨init, last, split⟩ :=
        (List.eq_nil_or_concat _).resolve_left (List.splitOn_ne_nil '/' rest)
      rw [List.concat_eq_append] at split
      rw [split] at left
      rw [ih split]
      -- The character belongs to the first part of the rest, which may be its last part as well.
      cases init with
      | nil =>
        have whole : [] ++ [c :: last] = before ++ [middle] := left
        obtain ⟨rfl, same⟩ := List.append_inj' whole rfl
        cases same
        rfl
      | cons head init =>
        have whole : (c :: head) :: init ++ [last] = before ++ [middle] := left
        obtain ⟨rfl, same⟩ := List.append_inj' whole rfl
        cases same
        rfl

/-- Two texts put together share the part in the middle. -/
theorem splitOn_append {one other middle next : String} {before after : List String}
    (left : splitOn one '/' = before ++ [middle]) (right : splitOn other '/' = next :: after) :
    splitOn (one ++ other) '/' = before ++ (middle ++ next) :: after := by
  have chars (path : String) : path.toList.splitOn '/' = (splitOn path '/').map String.toList := by
    simp [splitOn, Function.comp_def]
  have front : one.toList.splitOn '/' = before.map String.toList ++ [middle.toList] := by
    simp [chars, left]
  have back : other.toList.splitOn '/' = next.toList :: after.map String.toList := by
    simp [chars, right]
  rw [splitOn, String.toList_append, chars_splitOn_append front back]
  simp [Function.comp_def]

theorem mem_join {parts : List String} {c : Char} (member : c ∈ (join "/" parts).toList) :
    c = '/' ∨ ∃ part ∈ parts, c ∈ part.toList := by
  rw [join, String.toList_intercalate] at member
  rcases mem_intercalate member with slash | ⟨chars, inside, there⟩
  · exact .inl slash
  · obtain ⟨part, listed, rfl⟩ := List.mem_map.mp inside
    exact .inr ⟨part, listed, there⟩

/-- A slash at an end of a path leaves an empty part there. -/
theorem solid_ends {path : String} (filled : "" ∉ splitOn path '/') :
    path.toList ≠ [] ∧ path.toList.head? ≠ some '/' ∧ path.toList.getLast? ≠ some '/' := by
  refine ⟨?_, ?_, ?_⟩
  · intro empty
    apply filled
    rw [splitOn, empty]
    exact List.mem_cons_self
  · intro first
    obtain ⟨rest, split⟩ := List.head?_eq_some_iff.mp first
    apply filled
    rw [splitOn, split, ← List.nil_append ('/' :: rest), List.splitOn_append_cons_self]
    exact List.mem_cons_self
  · intro last
    obtain ⟨rest, split⟩ := List.getLast?_eq_some_iff.mp last
    apply filled
    rw [splitOn, split, List.splitOn_append_cons_self, List.map_append]
    exact List.mem_append_right _ List.mem_cons_self

theorem trimEnd_of_last {text : List Char} (last : text.getLast? ≠ some '/') :
    trimEnd text = text := by
  have solid : text.reverse.dropWhile (· == '/') = text.reverse := by
    apply dropWhile_of_head
    intro c first
    rw [List.head?_reverse] at first
    rw [beq_eq_false_iff_ne]
    rintro rfl
    exact last first
  rw [trimEnd, solid, List.reverse_reverse]

theorem trimEnd_slash (text : List Char) : trimEnd (text ++ ['/']) = trimEnd text := by
  simp [trimEnd]

theorem directory_slash {base name : String} (filled : "" ∉ splitOn base '/')
    (slashless : '/' ∉ name.toList) : directory (base ++ "/" ++ name) = base := by
  obtain ⟨nonempty, _, last⟩ := solid_ends filled
  have back : ∀ c ∈ name.toList.reverse, (c != '/') = true := by
    intro c member
    rw [bne_iff_ne]
    rintro rfl
    exact slashless (List.mem_reverse.mp member)
  have head : ((base ++ "/" ++ name).toList.reverse.dropWhile (· != '/')).reverse =
      base.toList ++ ['/'] := by
    have text : (base ++ "/" ++ name).toList.reverse =
        name.toList.reverse ++ '/' :: base.toList.reverse := by simp
    rw [text, (run_ends _ back (by simp)).2]
    simp
  have some : (base.toList ++ ['/']).all (· == '/') = false := by
    rw [List.all_append, Bool.and_eq_false_iff]
    left
    rw [List.all_eq_false]
    exact ⟨_, List.getLast_mem nonempty, by
      rw [List.getLast?_eq_some_getLast nonempty] at last
      simpa using last⟩
  rw [directory, head, some, trimEnd_slash, trimEnd_of_last last]
  exact String.ofList_toList

theorem append_relative {base path : String} (filled : "" ∉ splitOn base '/')
    (relative : path.toList.head? ≠ some '/') : append base path = base ++ "/" ++ path := by
  obtain ⟨nonempty, _, last⟩ := solid_ends filled
  have first : startsWith path "/" = false := by
    rw [← Bool.not_eq_true, startsWith, List.isPrefixOf_iff_prefix]
    rintro ⟨rest, split⟩
    exact relative (by rw [← split]; rfl)
  have between : (base.isEmpty || endsWith base "/") = false := by
    rw [Bool.or_eq_false_iff]
    constructor
    · rw [← Bool.not_eq_true, String.isEmpty_iff]
      rintro rfl
      exact nonempty rfl
    · rw [← Bool.not_eq_true, endsWith, List.isSuffixOf_iff_suffix]
      rintro ⟨rest, split⟩
      exact last (by rw [← split]; simp)
  rw [append, first, between]
  rfl

/-- What is left of some parts when those that lead up have taken back others. -/
def reduced (parts : List String) : List String :=
  (parts.foldl (addPart false) []).reverse

theorem normalize_relative {path : String} (relative : path.toList.head? ≠ some '/')
    (left : join "/" (reduced (splitOn path '/')) ≠ "") :
    normalize path = join "/" (reduced (splitOn path '/')) := by
  have none : leadingSlashes path.toList = 0 := by
    rw [leadingSlashes]
    cases text : path.toList with
    | nil => rfl
    | cons c rest =>
      have other : (c == '/') = false := by
        rw [beq_eq_false_iff_ne]
        rintro rfl
        exact relative (by rw [text]; rfl)
      simp [other]
  have shown : (join "/" (reduced (splitOn path '/'))).isEmpty = false := by
    rwa [← Bool.not_eq_true, String.isEmpty_iff]
  simp only [reduced] at shown ⊢
  simp [ModulePath.normalize, none, shown]

/-- A part changes nothing, is added, or leads up. -/
theorem addPart_cases (part : String) :
    (∀ held, addPart false held part = held) ∨ (∀ held, addPart false held part = part :: held) ∨
      part = ".." := by
  by_cases still : (part.isEmpty || part == ".") = true
  · exact .inl fun held => if_pos still
  · by_cases up : part = ".."
    · exact .inr (.inr up)
    · exact .inr (.inl fun held => by simp [addPart, still, up])

theorem addPart_up (last : String) (outer : List String) :
    addPart false (last :: outer) ".." = if last = ".." then ".." :: last :: outer else outer := by
  simp [addPart]

theorem foldl_ordinary {parts : List String} (ordinary : ∀ part ∈ parts, Ordinary part)
    (held : List String) : parts.foldl (addPart false) held = parts.reverse ++ held := by
  induction parts generalizing held with
  | nil => rfl
  | cons part rest ih =>
    obtain ⟨here, later⟩ := List.forall_mem_cons.mp ordinary
    have added : addPart false held part = part :: held := by
      simp [addPart, here.filled, here.down.1, here.down.2]
    rw [List.foldl_cons, added, ih later, List.reverse_cons, List.append_assoc]
    rfl

theorem reduced_ordinary {parts : List String} (ordinary : ∀ part ∈ parts, Ordinary part) :
    reduced parts = parts := by
  rw [reduced, foldl_ordinary ordinary, List.append_nil, List.reverse_reverse]

/-- As many steps up as there are folders lead back to where these began. -/
theorem foldl_up {folders : List String} (ordinary : ∀ folder ∈ folders, Ordinary folder)
    (held : List String) :
    (List.replicate folders.length "..").foldl (addPart false) (folders ++ held) = held := by
  induction folders with
  | nil => rfl
  | cons folder rest ih =>
    obtain ⟨here, later⟩ := List.forall_mem_cons.mp ordinary
    have taken : addPart false (folder :: (rest ++ held)) ".." = rest ++ held := by
      rw [addPart_up, if_neg here.down.2]
    rw [List.length_cons, List.replicate_succ, List.foldl_cons, List.cons_append, taken, ih later]

theorem mem_addPart {held : List String} (member : ".." ∈ held) (part : String) :
    ".." ∈ addPart false held part := by
  rcases addPart_cases part with still | added | rfl
  · rwa [still]
  · rw [added]
    exact List.mem_cons_of_mem _ member
  · obtain ⟨last, outer, rfl⟩ := List.exists_cons_of_ne_nil (List.ne_nil_of_mem member)
    rw [addPart_up]
    split
    next => exact List.mem_cons_self
    next name => exact (List.mem_cons.mp member).resolve_left (Ne.symm name)

theorem mem_foldl {held : List String} (member : ".." ∈ held) (parts : List String) :
    ".." ∈ parts.foldl (addPart false) held := by
  induction parts generalizing held with
  | nil => exact member
  | cons part rest ih => exact ih (mem_addPart member part)

theorem addPart_below {above : List String} {part : String}
    (stays : ".." ∉ addPart false above part) (held : List String) :
    addPart false (above ++ held) part = addPart false above part ++ held := by
  rcases addPart_cases part with still | added | rfl
  · rw [still, still]
  · rw [added, added]
    rfl
  · cases above with
    | nil => exact absurd List.mem_cons_self stays
    | cons last outer =>
      rw [addPart_up] at stays
      rw [List.cons_append, addPart_up, addPart_up]
      split
      next up =>
        rw [if_pos up] at stays
        exact absurd List.mem_cons_self stays
      next => rfl

/-- A way that does not lead up does not touch what it starts from. -/
theorem foldl_below {parts above : List String} (stays : ".." ∉ parts.foldl (addPart false) above)
    (held : List String) :
    parts.foldl (addPart false) (above ++ held) = parts.foldl (addPart false) above ++ held := by
  induction parts generalizing above with
  | nil => rfl
  | cons part rest ih =>
    have here : ".." ∉ addPart false above part := fun member => stays (mem_foldl member rest)
    rw [List.foldl_cons, addPart_below here held, ih stays, List.foldl_cons]

theorem reduced_below {lead rest : List String} (ordinary : ∀ part ∈ lead, Ordinary part)
    (stays : ".." ∉ reduced rest) : reduced (lead ++ rest) = lead ++ reduced rest := by
  rw [reduced, List.mem_reverse] at stays
  have below := foldl_below stays lead.reverse
  rw [List.nil_append] at below
  rw [reduced, List.foldl_append, foldl_ordinary ordinary, List.append_nil, below,
    List.reverse_append, List.reverse_reverse, reduced]

/-- A path made of names. -/
structure PlainPath where
  parts : List String
  filled : parts ≠ []
  ordinary : ∀ part ∈ parts, Ordinary part

namespace PlainPath

variable (path : PlainPath)

def text : String :=
  join "/" path.parts

def first : String :=
  path.parts.head path.filled

theorem parts_eq : path.parts = path.first :: path.parts.tail :=
  (List.cons_head_tail path.filled).symm

theorem splitOn_text : splitOn path.text '/' = path.parts :=
  splitOn_join path.filled fun part member => (path.ordinary part member).slashless

theorem solid : "" ∉ splitOn path.text '/' := by
  rw [splitOn_text]
  intro empty
  exact (path.ordinary "" empty).filled rfl

theorem trimEnd_text : trimEnd path.text.toList = path.text.toList :=
  trimEnd_of_last (solid_ends path.solid).2.2

theorem below_relative (rest : String) : (path.text ++ "/" ++ rest).toList.head? ≠ some '/' := by
  obtain ⟨nonempty, first, _⟩ := solid_ends path.solid
  obtain ⟨c, others, spelled⟩ := List.exists_cons_of_ne_nil nonempty
  rw [spelled] at first
  simpa [spelled] using first

theorem normalize_below {rest : String} {kept : List String}
    (left : reduced (path.parts ++ splitOn rest '/') = kept) (shown : join "/" kept ≠ "") :
    normalize (path.text ++ "/" ++ rest) = join "/" kept := by
  have parts : reduced (splitOn (path.text ++ "/" ++ rest) '/') = kept := by
    rw [splitOn_slash, splitOn_text, left]
  rw [normalize_relative (path.below_relative rest) (parts ▸ shown), parts]

theorem text_ne_empty : path.text ≠ "" := by
  intro empty
  apply (solid_ends path.solid).1
  rw [empty]
  rfl

theorem join_ne_empty (more : List String) : join "/" (path.parts ++ more) ≠ "" := by
  by_cases none : more = []
  · rw [none, List.append_nil]
    exact path.text_ne_empty
  · rw [join_append path.filled none]
    intro empty
    simpa using congrArg String.toList empty

end PlainPath

end AngularLint.Proofs.SlashedPaths
