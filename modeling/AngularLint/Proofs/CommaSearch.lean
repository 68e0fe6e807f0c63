import AngularLint.Rules.Standalone

/-! The comma behind a property. The search steps over blanks and closed comments only, so it finds
the comma just if nothing else stands before it. A comma inside a comment, or with anything else in
front of it, is never where the missing property of a component goes. -/

namespace AngularLint.Proofs.CommaSearch
open AngularLint.Text AngularLint.Angular AngularLint.Rules.Standalone

/-- What may stand before the comma: a blank, a line comment with its line feed, or a block comment,
which its first end mark closes. -/
inductive Piece : List Char → Prop where
  | blank {c : Char} (blank : isBlank c = true) : Piece [c]
  | line {body : List Char} (inline : '\n' ∉ body) : Piece ('/' :: '/' :: (body ++ ['\n']))
  | block {body : List Char} (unclosed : ¬ ['*', '/'] <:+: body) :
      Piece ('/' :: '*' :: (body ++ ['*', '/']))

def Filling (text : List Char) : Prop :=
  ∃ pieces : List (List Char), (∀ piece ∈ pieces, Piece piece) ∧ text = pieces.flatten

/-- A comma at `index`, with nothing but blanks and closed comments from `stop` on. -/
structure CommaAt (text : String) (stop index : Nat) : Prop where
  behind : stop ≤ index
  comma : text.toList[index]? = some ','
  filling : Filling (slice text stop index).toList

/-- What the search cannot pass before the comma that follows: a comment that is still open there,
or any other character. -/
inductive Barrier : List Char → Prop where
  | line {body : List Char} (inline : '\n' ∉ body) : Barrier ('/' :: '/' :: body)
  | block {body : List Char} (unclosed : ¬ ['*', '/'] <:+: body) : Barrier ('/' :: '*' :: body)
  | other {c : Char} {rest : List Char} (solid : isBlank c = false)
      (uncommented : c = '/' → rest.head? ≠ some '/' ∧ rest.head? ≠ some '*') :
      Barrier (c :: rest)

theorem Filling.nil : Filling [] :=
  ⟨[], List.forall_mem_nil _, rfl⟩

theorem Filling.cons {piece rest : List Char} (first : Piece piece) (later : Filling rest) :
    Filling (piece ++ rest) := by
  obtain ⟨pieces, each, rfl⟩ := later
  exact ⟨piece :: pieces, List.forall_mem_cons.mpr ⟨first, each⟩, rfl⟩

variable {offset index : Nat} {text body rest : List Char} {c : Char}

theorem commaFrom_blank (blank : isBlank c = true) :
    commaFrom .between offset (c :: text) = commaFrom .between (offset + 1) text := by
  cases text with
  | nil =>
    have other : c ≠ ',' := by
      rintro rfl
      exact absurd blank (by decide)
    simp [commaFrom, other]
  | cons next rest => simp [commaFrom, blank]

theorem commaFrom_openLine :
    commaFrom .between offset ('/' :: '/' :: text) = commaFrom .lineComment (offset + 2) text := by
  have solid : isBlank '/' = false := by decide
  simp [commaFrom, solid]

theorem commaFrom_openBlock :
    commaFrom .between offset ('/' :: '*' :: text) = commaFrom .blockComment (offset + 2) text := by
  have solid : isBlank '/' = false := by decide
  simp [commaFrom, solid]

theorem commaFrom_comma : commaFrom .between offset (',' :: text) = some offset := by
  have solid : isBlank ',' = false := by decide
  cases text <;> simp [commaFrom, solid]

theorem commaFrom_other (solid : isBlank c = false) (other : c ≠ ',')
    (uncommented : c = '/' → text.head? ≠ some '/' ∧ text.head? ≠ some '*') :
    commaFrom .between offset (c :: text) = none := by
  cases text with
  | nil => simp [commaFrom, other]
  | cons next rest =>
    have apart : ¬ (c = '/' ∧ next = '/') ∧ ¬ (c = '/' ∧ next = '*') := by
      constructor
      · rintro ⟨slash, rfl⟩
        exact (uncommented slash).1 rfl
      · rintro ⟨slash, rfl⟩
        exact (uncommented slash).2 rfl
    simp [commaFrom, solid, other, apart]

theorem commaFrom_lineEnd :
    commaFrom .lineComment offset ('\n' :: text) = commaFrom .between (offset + 1) text := by
  cases text <;> simp [commaFrom]

theorem commaFrom_lineNext (inline : c ≠ '\n') :
    commaFrom .lineComment offset (c :: text) = commaFrom .lineComment (offset + 1) text := by
  cases text <;> simp [commaFrom, inline]

theorem commaFrom_blockEnd :
    commaFrom .blockComment offset ('*' :: '/' :: text) = commaFrom .between (offset + 2) text := by
  simp [commaFrom]

theorem commaFrom_blockNext (unclosed : c = '*' → text.head? ≠ some '/') :
    commaFrom .blockComment offset (c :: text) = commaFrom .blockComment (offset + 1) text := by
  cases text with
  | nil => simp [commaFrom]
  | cons next rest =>
    have apart : ¬ (c = '*' ∧ next = '/') := by
      rintro ⟨star, rfl⟩
      exact unclosed star rfl
    simp [commaFrom, apart]

/-- The search goes through a line comment up to its end. -/
theorem commaFrom_lineBody (inline : '\n' ∉ body) :
    commaFrom .lineComment offset (body ++ rest) =
      commaFrom .lineComment (offset + body.length) rest := by
  induction body generalizing offset with
  | nil => rfl
  | cons c body ih =>
    rw [List.mem_cons, not_or] at inline
    rw [List.cons_append, commaFrom_lineNext (Ne.symm inline.1), ih inline.2, List.length_cons]
    congr 1
    omega

/-- The search goes through a block comment up to its end mark. What follows must not make an end
mark together with the last character. -/
theorem commaFrom_blockBody (unclosed : ¬ ['*', '/'] <:+: body) (apart : rest.head? ≠ some '/') :
    commaFrom .blockComment offset (body ++ rest) =
      commaFrom .blockComment (offset + body.length) rest := by
  induction body generalizing offset with
  | nil => rfl
  | cons c body ih =>
    rw [List.infix_cons_iff, not_or] at unclosed
    have onward : c = '*' → (body ++ rest).head? ≠ some '/' := by
      rintro rfl first
      cases body with
      | nil => exact apart first
      | cons next more =>
        cases first
        exact unclosed.1 ⟨more, rfl⟩
    rw [List.cons_append, commaFrom_blockNext onward, ih unclosed.2, List.length_cons]
    congr 1
    omega

theorem Piece.passed {piece : List Char} (passable : Piece piece) :
    commaFrom .between offset (piece ++ rest) =
      commaFrom .between (offset + piece.length) rest := by
  cases passable with
  | blank blank => exact commaFrom_blank blank
  | line inline =>
    rw [List.cons_append, List.cons_append, commaFrom_openLine, List.append_assoc,
      commaFrom_lineBody inline, List.singleton_append, commaFrom_lineEnd]
    congr 1
    simp only [List.length_cons, List.length_append, List.length_nil]
    omega
  | block unclosed =>
    rw [List.cons_append, List.cons_append, commaFrom_openBlock, List.append_assoc,
      commaFrom_blockBody unclosed (by simp), List.cons_append, List.singleton_append,
      commaFrom_blockEnd]
    congr 1
    simp only [List.length_cons, List.length_append, List.length_nil]
    omega

theorem Filling.passed {filling : List Char} (filled : Filling filling) :
    commaFrom .between offset (filling ++ rest) =
      commaFrom .between (offset + filling.length) rest := by
  obtain ⟨pieces, each, rfl⟩ := filled
  induction pieces generalizing offset with
  | nil => rfl
  | cons piece pieces ih =>
    obtain ⟨first, later⟩ := List.forall_mem_cons.mp each
    rw [List.flatten_cons, List.append_assoc, first.passed, ih later, List.length_append,
      Nat.add_assoc]

/-- What completes the filling where the search stands. -/
def Completes : Gap → List Char → Prop
  | .between, text => Filling text
  | .lineComment, text => ∃ body rest, '\n' ∉ body ∧ Filling rest ∧ text = body ++ '\n' :: rest
  | .blockComment, text =>
    ∃ body rest, ¬ ['*', '/'] <:+: body ∧ Filling rest ∧ text = body ++ '*' :: '/' :: rest

theorem Completes.openLine (completes : Completes .lineComment text) :
    Filling ('/' :: '/' :: text) := by
  obtain ⟨body, rest, inline, later, rfl⟩ := completes
  have filling := Filling.cons (.line inline) later
  rwa [List.cons_append, List.cons_append, List.append_assoc, List.singleton_append] at filling

theorem Completes.openBlock (completes : Completes .blockComment text) :
    Filling ('/' :: '*' :: text) := by
  obtain ⟨body, rest, unclosed, later, rfl⟩ := completes
  have filling := Filling.cons (.block unclosed) later
  rwa [List.cons_append, List.cons_append, List.append_assoc, List.cons_append,
    List.singleton_append] at filling

theorem Completes.lineNext (inline : c ≠ '\n') (completes : Completes .lineComment text) :
    Completes .lineComment (c :: text) := by
  obtain ⟨body, rest, later, filling, rfl⟩ := completes
  exact ⟨c :: body, rest, List.not_mem_cons_of_ne_of_not_mem inline.symm later, filling, rfl⟩

theorem Completes.blockNext (unclosed : ¬ (c = '*' ∧ text.head? = some '/'))
    (completes : Completes .blockComment text) : Completes .blockComment (c :: text) := by
  obtain ⟨body, rest, later, filling, rfl⟩ := completes
  refine ⟨c :: body, rest, ?_, filling, rfl⟩
  rw [List.infix_cons_iff, not_or]
  refine ⟨?_, later⟩
  rintro ⟨more, same⟩
  cases same
  exact unclosed ⟨rfl, rfl⟩

/-- From `gap` at `offset`, what is passed up to the comma at `index` completes the filling. -/
def Leads (gap : Gap) (offset : Nat) (text : List Char) (index : Nat) : Prop :=
  ∃ passed rest, Completes gap passed ∧ text = passed ++ ',' :: rest ∧
    index = offset + passed.length

theorem Leads.here : Leads .between offset (',' :: text) offset :=
  ⟨[], text, .nil, rfl, rfl⟩

theorem Leads.step {gap next : Gap} (taken : List Char)
    (leads : Leads next (offset + taken.length) text index)
    (completed : ∀ passed rest, text = passed ++ ',' :: rest → Completes next passed →
      Completes gap (taken ++ passed)) : Leads gap offset (taken ++ text) index := by
  obtain ⟨passed, rest, completes, split, rfl⟩ := leads
  refine ⟨taken ++ passed, rest, completed passed rest split completes, ?_, ?_⟩
  · rw [split, List.append_assoc]
  · rw [List.length_append, Nat.add_assoc]

theorem leads_of_found {gap : Gap} (found : commaFrom gap offset text = some index) :
    Leads gap offset text index := by
  fun_induction commaFrom gap offset text with
  | case1 | case3 | case4 | case5 | case10 => cases found
  | case2 offset c comma =>
    cases found
    cases beq_iff_eq.mp comma
    exact .here
  | case6 offset c next rest blank ih =>
    exact .step [c] (ih found) fun _ _ _ completes => .cons (.blank blank) completes
  | case7 offset c next rest _ opens ih =>
    rw [Bool.and_eq_true, beq_iff_eq, beq_iff_eq] at opens
    obtain ⟨rfl, rfl⟩ := opens
    exact .step ['/', '/'] (ih found) fun _ _ _ completes => completes.openLine
  | case8 offset c next rest _ _ opens ih =>
    rw [Bool.and_eq_true, beq_iff_eq, beq_iff_eq] at opens
    obtain ⟨rfl, rfl⟩ := opens
    exact .step ['/', '*'] (ih found) fun _ _ _ completes => completes.openBlock
  | case9 offset c next rest _ _ _ comma =>
    cases found
    cases beq_iff_eq.mp comma
    exact .here
  | case11 offset c next rest ends ih =>
    cases beq_iff_eq.mp ends
    apply Leads.step ['\n'] (ih found)
    intro passed _ _ completes
    exact ⟨[], passed, List.not_mem_nil, completes, rfl⟩
  | case12 offset c next rest inline ih =>
    rw [beq_iff_eq] at inline
    exact .step [c] (ih found) fun _ _ _ completes => completes.lineNext inline
  | case13 offset c next rest ends ih =>
    rw [Bool.and_eq_true, beq_iff_eq, beq_iff_eq] at ends
    obtain ⟨rfl, rfl⟩ := ends
    apply Leads.step ['*', '/'] (ih found)
    intro passed _ _ completes
    exact ⟨[], passed, by simp, completes, rfl⟩
  | case14 offset c next rest unclosed ih =>
    rw [Bool.and_eq_true, beq_iff_eq, beq_iff_eq] at unclosed
    apply Leads.step [c] (ih found)
    intro passed behind split completes
    apply completes.blockNext
    rintro ⟨star, slash⟩
    -- The comment goes on with the character that the search saw behind the star.
    have first := congrArg List.head? split
    rw [List.head?_append, slash] at first
    cases first
    exact unclosed ⟨star, rfl⟩

theorem commaFrom_iff :
    commaFrom .between offset text = some index ↔
      ∃ filling rest, Filling filling ∧ text = filling ++ ',' :: rest ∧
        index = offset + filling.length := by
  constructor
  · exact leads_of_found
  · rintro ⟨filling, rest, filled, rfl, rfl⟩
    rw [filled.passed, commaFrom_comma]

theorem commaFrom_ge {gap : Gap} (found : commaFrom gap offset text = some index) :
    offset ≤ index := by
  obtain ⟨passed, _, _, _, rfl⟩ := leads_of_found found
  exact Nat.le_add_right _ _

theorem Barrier.skipped {barrier : List Char} (blocks : Barrier barrier) :
    commaFrom .between offset (barrier ++ ',' :: rest) ≠ some (offset + barrier.length) := by
  intro found
  cases blocks with
  | line inline =>
    rw [List.cons_append, List.cons_append, commaFrom_openLine, commaFrom_lineBody inline,
      commaFrom_lineNext (by decide)] at found
    have past := commaFrom_ge found
    simp only [List.length_cons] at past
    omega
  | block unclosed =>
    rw [List.cons_append, List.cons_append, commaFrom_openBlock,
      commaFrom_blockBody unclosed (by simp), commaFrom_blockNext (by simp)] at found
    have past := commaFrom_ge found
    simp only [List.length_cons] at past
    omega
  | @other c more solid uncommented =>
    by_cases comma : c = ','
    · subst comma
      rw [List.cons_append, commaFrom_comma, Option.some.injEq, List.length_cons] at found
      omega
    · have apart : c = '/' → (more ++ ',' :: rest).head? ≠ some '/' ∧
          (more ++ ',' :: rest).head? ≠ some '*' := by
        intro slash
        cases more with
        | nil => simp
        | cons next others => exact uncommented slash
      rw [List.cons_append, commaFrom_other solid comma apart] at found
      cases found

theorem commaAt_iff {source : String} {stop : Nat} :
    CommaAt source stop index ↔
      ∃ filling rest, Filling filling ∧ source.toList.drop stop = filling ++ ',' :: rest ∧
        index = stop + filling.length := by
  constructor
  · rintro ⟨behind, comma, filling⟩
    rw [slice, String.toList_ofList, List.drop_take] at filling
    obtain ⟨inside, here⟩ := List.getElem?_eq_some_iff.mp comma
    refine ⟨_, source.toList.drop (index + 1), filling, ?_, ?_⟩
    · rw [← here, ← List.drop_eq_getElem_cons inside, ← Nat.add_sub_cancel' behind,
        Nat.add_sub_cancel_left, ← List.drop_drop, List.take_append_drop]
    · rw [List.length_take, List.length_drop]
      omega
  · rintro ⟨filling, rest, filled, split, rfl⟩
    refine ⟨Nat.le_add_right _ _, ?_, ?_⟩
    · rw [← List.getElem?_drop, split, List.getElem?_append_right (Nat.le_refl _), Nat.sub_self,
        List.getElem?_cons_zero]
    · rw [slice, String.toList_ofList, List.drop_take, Nat.add_sub_cancel_left, split,
        List.take_left]
      exact filled

theorem commaAfter?_iff {source : String} {property : Node} :
    commaAfter? source property = some index ↔ CommaAt source property.span.stop index :=
  commaFrom_iff.trans commaAt_iff.symm

theorem commaAfter?_none_iff {source : String} {property : Node} :
    commaAfter? source property = none ↔ ¬ ∃ index, CommaAt source property.span.stop index := by
  simp only [← commaAfter?_iff, ← Option.isSome_iff_exists, Option.not_isSome_iff_eq_none]

theorem properties_of_found {object property : Node} {key : String}
    (found : findProperty? object key = some property) :
    ∃ first rest, objectProperties object = first :: rest :=
  List.exists_cons_of_ne_nil (List.ne_nil_of_mem (List.mem_of_find?_eq_some found))

theorem addProperty_comma {metadata selector : Node} {file : SourceFile}
    (found : findProperty? metadata "selector" = some selector)
    (comma : commaAfter? file.text selector = some index) :
    addProperty file metadata = ⟨.point (index + 1),
      "\n" ++ file.lineIndent selector.span.start ++ "standalone: true,"⟩ := by
  obtain ⟨first, rest, properties⟩ := properties_of_found found
  rw [addProperty, properties, found]
  simp only [comma]
  rfl

theorem addProperty_selector {metadata selector : Node} {file : SourceFile}
    (found : findProperty? metadata "selector" = some selector)
    (none : commaAfter? file.text selector = none) :
    addProperty file metadata = ⟨.point selector.span.stop,
      ",\n" ++ file.lineIndent selector.span.start ++ "standalone: true"⟩ := by
  obtain ⟨first, rest, properties⟩ := properties_of_found found
  rw [addProperty, properties, found]
  simp only [none]
  rfl

/-- The comma behind a property is found just if it is there with nothing but blanks and closed
comments before it, and then the missing property goes behind it. A comma behind anything else is
passed over. -/
theorem comma_found_behind_filling (file : SourceFile) (property : Node) :
    (∀ index, commaAfter? file.text property = some index ↔
        CommaAt file.text property.span.stop index) ∧
      (commaAfter? file.text property = none ↔
        ¬ ∃ index, CommaAt file.text property.span.stop index) ∧
      (∀ filling barrier rest, Filling filling → Barrier barrier →
        file.text.toList.drop property.span.stop = filling ++ (barrier ++ ',' :: rest) →
        commaAfter? file.text property ≠
          some (property.span.stop + (filling ++ barrier).length)) ∧
      ∀ metadata, findProperty? metadata "selector" = some property →
        let indent := file.lineIndent property.span.start
        (∀ index, CommaAt file.text property.span.stop index →
          addProperty file metadata =
            ⟨.point (index + 1), "\n" ++ indent ++ "standalone: true,"⟩) ∧
        ((¬ ∃ index, CommaAt file.text property.span.stop index) →
          addProperty file metadata =
            ⟨.point property.span.stop, ",\n" ++ indent ++ "standalone: true"⟩) := by
  refine ⟨fun index => commaAfter?_iff, commaAfter?_none_iff, ?_, ?_⟩
  · intro filling barrier rest filled blocks split
    rw [commaAfter?, split, filled.passed, List.length_append, ← Nat.add_assoc]
    exact blocks.skipped
  · intro metadata found
    exact ⟨fun index comma => addProperty_comma found (commaAfter?_iff.mpr comma),
      fun none => addProperty_selector found (commaAfter?_none_iff.mpr none)⟩

def shortProperty : Node :=
  ⟨"pair", 1, ⟨2, 6, Nat.le_add_right 2 4⟩, ⟨[]⟩, []⟩

/-- The commas inside the two comments are passed over. -/
theorem comma_behind_comments :
    commaAfter? "\x7b a: b/*,*/ //,\n, \x7d" shortProperty = some 16 ∧
      CommaAt "\x7b a: b/*,*/ //,\n, \x7d" 6 16 := by
  have found : commaAfter? "\x7b a: b/*,*/ //,\n, \x7d" shortProperty = some 16 := by decide +kernel
  obtain ⟨found_iff, _⟩ :=
    comma_found_behind_filling (.unparsed "a.ts" "\x7b a: b/*,*/ //,\n, \x7d") shortProperty
  exact ⟨found, (found_iff 16).mp found⟩

end AngularLint.Proofs.CommaSearch
