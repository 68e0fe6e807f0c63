import AngularLint.Proofs.BatchResults
import AngularLint.Proofs.EditFrame
import AngularLint.Proofs.Utf8Decoding
import Mathlib.Data.List.Sigma

/-! What the repair of a file leaves alone. Pass by pass, all that stands outside the ranges of the
accepted edits is kept, and stays in its order. The line ends are another matter: they are unified
when the file is read and not put back when it is written, so a file that is repaired at all loses
its carriage returns. -/

namespace AngularLint.Proofs.RepairFrame
open AngularLint.Text BatchResults EditFrame EditOrder EngineTrace FileWrite FindingOrigin
  FixAcceptance FixPasses Outcomes PlainEdits ReportSoundness Utf8Decoding Utf8RoundTrip

variable {grammar : Grammar} {engine : Engine} {filename : String}

/-- The edits that a pass over a file carries out. -/
def acceptedEdits (engine : Engine) (file : SourceFile) : List Edit :=
  Edit.sort ((Fix.accept (fixesOf (engine.run file).diagnostics)).flatMap Fix.edits)

/-- Passes lead from a text to another, each with its edits. -/
inductive Edited (grammar : Grammar) (engine : Engine) (filename : String) :
    String → List (List Edit) → String → Prop where
  | nil (text : String) : Edited grammar engine filename text [] text
  | cons {text last : String} {file : SourceFile} {later : List (List Edit)}
      (parsed : SourceFile.parse grammar filename text = .ok file)
      (rest : Edited grammar engine filename (Edit.applyAll (acceptedEdits engine file) text)
        later last) :
      Edited grammar engine filename text (acceptedEdits engine file :: later) last

theorem edited_of_passes {count : Nat} {text last : String} {counts : List Nat}
    (led : passes grammar engine filename count text = .ok (last, counts)) :
    ∃ history, history.length = count ∧ Edited grammar engine filename text history last := by
  induction count generalizing text counts with
  | zero =>
    cases led
    exact ⟨[], rfl, .nil _⟩
  | succ more ih =>
    obtain ⟨⟨patched, first⟩, passed, led⟩ := bind_eq_ok_iff.mp led
    obtain ⟨⟨final, others⟩, later, same⟩ := map_eq_ok_iff.mp led
    cases same
    obtain ⟨file, parsed, applied⟩ := map_eq_ok_iff.mp passed
    obtain ⟨history, length, edited⟩ := ih later
    have patch : Edit.applyAll (acceptedEdits engine file) text = patched :=
      congrArg Prod.fst applied
    subst patch
    exact ⟨acceptedEdits engine file :: history, congrArg (· + 1) length, .cons parsed edited⟩

theorem madeFor_of_wellFormed {length : Nat} {fix : Fix} (wellFormed : WellFormed length fix) :
    MadeFor length fix := by
  refine ⟨fix.edits, (ofEdits_eq_ok_iff _ _ _).mpr ⟨wellFormed.edited, ?_, ?_, ?_⟩⟩
  · exact fun edit member => Int.ofNat_le.mpr (wellFormed.inside edit member).2
  · exact wellFormed.apart.imp And.left
  · have ordered : fix.edits.Pairwise fun first second => first.notAfter second = true :=
      wellFormed.ordered.imp fun {first second} early => (notAfter_iff first second).mpr early
    rw [Edit.sort, List.mergeSort_of_pairwise ordered]

/-- Whatever the rules are, the edits of a pass can be carried out together. -/
theorem acceptedEdits_laid (engine : Engine) (file : SourceFile) :
    Laid file.length 0 (acceptedEdits engine file) := by
  apply accepted_laid
  intro fix member
  obtain ⟨diagnostic, reported, carried⟩ := List.mem_filterMap.mp member
  obtain ⟨root, _, active, _, finding, _, completed⟩ := run_origin engine file diagnostic reported
  exact madeFor_of_wellFormed ((complete_sound completed).1.fix fix carried)

/-- The text after some passes. -/
def after (marks : Marked) (history : List (List Edit)) : Marked :=
  history.foldl (fun marks edits => replaced brought marks 0 edits) marks

/-- All that stood in the range of an edit at its turn. -/
def lost : Marked → List (List Edit) → Marked
  | _, [] => []
  | marks, edits :: later => cut marks edits ++ lost (replaced brought marks 0 edits) later

theorem edited_after {text last : String} {history : List (List Edit)}
    (edited : Edited grammar engine filename text history last) {marks : Marked}
    (same : marks.text = text.toList) (distinct : marks.kept.Nodup) :
    (after marks history).text = last.toList ∧
      (after marks history).kept = marks.kept.filter (· ∉ (lost marks history).kept) := by
  induction edited generalizing marks with
  | nil text =>
    refine ⟨same, (List.filter_eq_self.mpr ?_).symm⟩
    intro item _
    exact decide_eq_true List.not_mem_nil
  | @cons text last file later parsed rest ih =>
    have laid := acceptedEdits_laid engine file
    have length : file.length = text.length := congrArg String.length (parse_fields parsed).1
    rw [length] at laid
    have kept := kept_replaced laid distinct
    have applied := applyAll_laid laid
    rw [List.take_zero, List.nil_append] at applied
    have patched : Marked.text (replaced brought marks 0 (acceptedEdits engine file)) =
        (Edit.applyAll (acceptedEdits engine file) text).toList := by
      rw [text_replaced, same, applied]
    have stillDistinct := kept ▸ distinct.filter _
    obtain ⟨final, finalKept⟩ := ih patched stillDistinct
    refine ⟨final, finalKept.trans ?_⟩
    rw [kept, List.drop_zero, List.filter_filter, lost, kept_append]
    apply List.filter_congr
    intro item _
    rw [← Bool.decide_and, decide_eq_decide, List.mem_append, not_or, and_comm]

/-- A text with the place of each character. -/
def placed (text : String) : Marked :=
  text.toList.zipIdx.map fun item => (item.1, some item.2)

theorem text_placed (text : String) : (placed text).text = text.toList := by
  rw [Marked.text, placed, List.map_map]
  exact List.zipIdx_map_fst 0 _

theorem kept_placed (text : String) : (placed text).kept = text.toList.zipIdx := by
  rw [Marked.kept, placed, List.filterMap_map]
  exact List.filterMap_some

/-- Every line end as a line feed. The line feed behind a carriage return stays where it is; one in
the place of a carriage return is new. -/
def unified : Marked → Marked
  | ('\r', _) :: ('\n', place) :: rest => ('\n', place) :: unified rest
  | ('\r', _) :: rest => ('\n', none) :: unified rest
  | mark :: rest => mark :: unified rest
  | [] => []

theorem text_unified (marks : Marked) : (unified marks).text = unifyLineEnds marks.text := by
  fun_induction unified marks with
  | case1 returned place rest ih =>
    exact congrArg ('\n' :: ·) ih
  | case2 returned rest lone ih =>
    have alone : ∀ others, Marked.text rest = '\n' :: others → False := by
      intro others same
      obtain ⟨⟨first, place⟩, tail, rfl, rfl, _⟩ := List.map_eq_cons_iff.mp same
      exact lone place tail rfl
    have unifies : unifyLineEnds ('\r' :: Marked.text rest) =
        '\n' :: unifyLineEnds (Marked.text rest) := unifyLineEnds.eq_2 _ alone
    exact (congrArg ('\n' :: ·) ih).trans unifies.symm
  | case3 mark rest _ other ih =>
    obtain ⟨character, place⟩ := mark
    have plain : character = '\r' → False := fun same => other place (by rw [same])
    have unifies : unifyLineEnds (character :: Marked.text rest) =
        character :: unifyLineEnds (Marked.text rest) :=
      unifyLineEnds.eq_3 _ _ (fun _ same => absurd same plain) plain
    exact (congrArg (character :: ·) ih).trans unifies.symm
  | case4 => rfl

theorem kept_unified (marks : Marked) :
    (unified marks).kept = marks.kept.filter (·.1 ≠ '\r') := by
  fun_induction unified marks with
  | case1 returned place rest ih =>
    simp only [Marked.kept] at ih ⊢
    cases returned <;> cases place <;> simp [ih]
  | case2 returned rest lone ih =>
    simp only [Marked.kept] at ih ⊢
    cases returned <;> simp [ih]
  | case3 mark rest _ other ih =>
    obtain ⟨character, place⟩ := mark
    have plain : character ≠ '\r' := fun same => other place (by rw [same])
    simp only [Marked.kept] at ih ⊢
    cases place <;> simp [ih, plain]
  | case4 => rfl

/-- What the repair of a file that holds a text leaves alone. -/
structure KeepsRest (grammar : Grammar) (engine : Engine) (store : FileStore) (path : FilePath)
    (text : String) (outcome : FileOutcome) (history : List (List Edit)) : Prop where
  edited : Edited grammar engine path.text (String.ofList (unifyLineEnds text.toList)) history
    outcome.linted.file.text
  passes : history.length ≤ maxFixPasses
  /-- Without a fix nothing is written. -/
  untouched : history = [] → outcome.store = store
  /-- The file gets the characters that are kept or brought, and no other file changes. -/
  written : history ≠ [] → ∃ place,
    store.locate path = .ok (place, .file (text.toList.flatMap String.utf8EncodeChar)) ∧
      outcome.store.locate path = .ok (place, .file
        ((after (unified (placed text)) history).text.flatMap String.utf8EncodeChar)) ∧
      ∀ other, other ≠ place → outcome.store.entryAt? other = store.entryAt? other
  /-- All that no edit has had in its range is kept in its order, except for carriage returns. -/
  rest : (after (unified (placed text)) history).kept =
    text.toList.zipIdx.filter fun item =>
      item.1 ≠ '\r' ∧ item ∉ (lost (unified (placed text)) history).kept
  whole : '\r' ∉ text.toList → (after (unified (placed text)) history).kept =
    text.toList.zipIdx.filter (· ∉ (lost (unified (placed text)) history).kept)
  /-- Of the rules of the registry none brings a carriage return back. -/
  returns : ∀ rules severities options, rules ⊆ registry →
    Engine.configure rules severities options = .ok engine →
      '\r' ∉ (after (unified (placed text)) history).text

theorem readText_of_locate {store : FileStore} {path : FilePath} {place : Place}
    {bytes : List UInt8} {text : String} (located : store.locate path = .ok (place, .file bytes))
    (decoded : decodeUtf8 bytes = .ok text) :
    store.readText path = .ok (String.ofList (unifyLineEnds text.toList)) := by
  simp only [FileStore.readText, located, decoded]

variable {store : FileStore} {path : FilePath} {text : String}

theorem lintFile_error {fault : LintFault}
    (failed : lintFile grammar engine true store path = .error fault)
    (readable : store.readText path = .ok text) :
    ¬ Dependable grammar ∧ ∃ unparsed, fault = .parse unparsed := by
  constructor
  · intro dependable
    rcases lintFile_cases dependable engine true store path with
      ⟨outcome, done⟩ | ⟨unread, unreadable, _⟩
    · cases done.symm.trans failed
    · cases readable.symm.trans unreadable
  · rw [lintFile] at failed
    simp only [readable] at failed
    split at failed
    next unparsed _ =>
      cases failed
      exact ⟨unparsed, rfl⟩
    next =>
      split at failed
      next unparsed _ =>
        cases failed
        exact ⟨unparsed, rfl⟩
      next => cases failed

theorem kept_unified_placed (text : String) :
    (unified (placed text)).kept = text.toList.zipIdx.filter (·.1 ≠ '\r') := by
  rw [kept_unified, kept_placed]

theorem kept_unified_distinct (text : String) : (unified (placed text)).kept.Nodup := by
  rw [kept_unified_placed]
  exact (List.Nodup.of_map Prod.snd (List.nodup_zipIdx_map_snd text.toList)).filter _

theorem Edited.rest {last : String} {history : List (List Edit)}
    (edited : Edited grammar engine filename (String.ofList (unifyLineEnds text.toList)) history
      last) :
    (after (unified (placed text)) history).text = last.toList ∧
      (after (unified (placed text)) history).kept = text.toList.zipIdx.filter fun item =>
        item.1 ≠ '\r' ∧ item ∉ (lost (unified (placed text)) history).kept := by
  have same : (unified (placed text)).text =
      (String.ofList (unifyLineEnds text.toList)).toList := by
    rw [text_unified, text_placed, String.toList_ofList]
  obtain ⟨final, kept⟩ := edited_after edited same (kept_unified_distinct text)
  refine ⟨final, kept.trans ?_⟩
  rw [kept_unified_placed, List.filter_filter]
  apply List.filter_congr
  intro item _
  rw [← Bool.decide_and, decide_eq_decide, and_comm]

theorem filter_noReturn {text : List Char} (plain : '\r' ∉ text) (removed : List (Char × Nat)) :
    text.zipIdx.filter (fun item => item.1 ≠ '\r' ∧ item ∉ removed) =
      text.zipIdx.filter (· ∉ removed) := by
  apply List.filter_congr
  intro item member
  have other : item.1 ≠ '\r' := fun same => plain (same ▸ List.fst_mem_of_mem_zipIdx member)
  rw [decide_eq_decide, and_iff_right other]

/-- A file that holds a text is repaired, and all that no accepted edit has had in its range is kept
in its order, except for the carriage returns of a file that is written at all. Only a grammar that
is not dependable can make this fail, and then nothing is written. -/
theorem repair_keeps_rest (grammar : Grammar) (engine : Engine) (store : FileStore)
    (path : FilePath) (place : Place) (bytes : List UInt8) (text : String)
    (located : store.locate path = .ok (place, .file bytes))
    (decoded : decodeUtf8 bytes = .ok text) :
    (∃ outcome history, lintFile grammar engine true store path = .ok outcome ∧
      KeepsRest grammar engine store path text outcome history) ∨
      (¬ Dependable grammar ∧
        ∃ fault, lintFile grammar engine true store path = .error (.parse fault)) := by
  have readable := readText_of_locate located decoded
  cases done : lintFile grammar engine true store path with
  | error fault =>
    right
    obtain ⟨undependable, unparsed, rfl⟩ := lintFile_error done readable
    exact ⟨undependable, unparsed, rfl⟩
  | ok outcome =>
    left
    obtain ⟨start, counts, linted⟩ := lintFile_linted done
    have led := linted.leads.passes
    rw [Except.ok.inj (linted.readable.symm.trans readable)] at led
    obtain ⟨history, length, edited⟩ := edited_of_passes led
    obtain ⟨final, rest⟩ := edited.rest
    have idle : outcome.linted.fixed = 0 ↔ history = [] := by
      rw [linted.idle_iff, ← List.length_eq_zero_iff, ← length, List.length_eq_zero_iff]
    refine ⟨outcome, history, rfl, edited, length ▸ linted.few, ?_, ?_, rest, ?_, ?_⟩
    · intro none
      rw [linted.kept, if_pos (idle.mpr none)]
    · intro some
      obtain ⟨found, old, before, after, elsewhere⟩ :=
        writeText_written readable outcome.linted.file.text
      cases located.symm.trans before
      rw [← toUTF8_toList, toUTF8_of_decodeUtf8 decoded, final, ← toUTF8_toList, linted.kept,
        if_neg fun unfixed => some (idle.mp unfixed)]
      exact ⟨place, located, after, elsewhere⟩
    · intro plain
      rw [rest, filter_noReturn plain]
    · intro rules severities options builtin configured
      rw [final]
      exact noReturn_passes (run_plain builtin configured) led (noReturn_of_read readable)

/-- A class with a decorator that gets some arguments. -/
def serviceSource (arguments lineEnd : String) : String :=
  "@Injectable(" ++ arguments ++ ")" ++ lineEnd ++ "class A \x7b\x7d" ++ lineEnd

def service : ParseTree :=
  ⟨"program", true, none, 0, 25,
    [⟨"class_declaration", true, none, 0, 24,
      [⟨"decorator", true, some "decorator", 0, 13,
        [⟨"call_expression", true, none, 1, 13,
          [⟨"identifier", true, some "function", 1, 11, []⟩,
            ⟨"arguments", true, some "arguments", 11, 13, []⟩]⟩]⟩,
        ⟨"type_identifier", true, some "name", 20, 21, []⟩,
        ⟨"class_body", true, some "body", 22, 24, []⟩]⟩]⟩

def serviceGrammar : Grammar where
  parse? text markup :=
    if text = serviceSource "" "\n" then some ⟨service, false⟩ else wholeText.parse? text markup

def serviceEngine : Engine :=
  ⟨[⟨Rules.ProvidedInRoot.rule, .error, Rules.ProvidedInRoot.rule.checker ()⟩]⟩

def storeWithService : FileStore :=
  ⟨⟨[(["a.ts"], .file (serviceSource "" "\r\n").toUTF8.toList)]⟩⟩

theorem service_keeps_rest :
    storeWithService.locate ⟨0, ["a.ts"]⟩ =
        .ok (.inside ["a.ts"], .file (serviceSource "" "\r\n").toUTF8.toList) ∧
      decodeUtf8 (serviceSource "" "\r\n").toUTF8.toList = .ok (serviceSource "" "\r\n") ∧
      ∃ outcome history,
        lintFile serviceGrammar serviceEngine true storeWithService ⟨0, ["a.ts"]⟩ = .ok outcome ∧
        KeepsRest serviceGrammar serviceEngine storeWithService ⟨0, ["a.ts"]⟩
          (serviceSource "" "\r\n") outcome history ∧
        outcome.linted.file.text = serviceSource Rules.ProvidedInRoot.rootObject "\n" := by
  have located : storeWithService.locate ⟨0, ["a.ts"]⟩ =
      .ok (.inside ["a.ts"], .file (serviceSource "" "\r\n").toUTF8.toList) := by decide +kernel
  have decoded := decodeUtf8_toUTF8 (serviceSource "" "\r\n")
  have result : (lintFile serviceGrammar serviceEngine true storeWithService ⟨0, ["a.ts"]⟩).map
      (fun outcome => outcome.linted.file.text) =
        .ok (serviceSource Rules.ProvidedInRoot.rootObject "\n") := by
    decide +kernel
  refine ⟨located, decoded, ?_⟩
  rcases repair_keeps_rest serviceGrammar serviceEngine storeWithService _ _ _ _ located decoded with
    ⟨outcome, history, done, keeps⟩ | ⟨_, fault, failed⟩
  · rw [done] at result
    exact ⟨outcome, history, done, keeps, Except.ok.inj result⟩
  · rw [failed] at result
    cases result

/-- A rule of the registry has a text put between two parentheses. The line ends are far from there,
and yet the file loses its carriage returns. -/
theorem line_ends_not_kept :
    [Rules.ProvidedInRoot.rule] ⊆ registry ∧
      Engine.configure [Rules.ProvidedInRoot.rule] .empty .empty = .ok serviceEngine ∧
      (SourceFile.parse serviceGrammar "a.ts" (serviceSource "" "\n")).map
          (acceptedEdits serviceEngine) = .ok [⟨.point 12, Rules.ProvidedInRoot.rootObject⟩] ∧
      (lintFile serviceGrammar serviceEngine true storeWithService ⟨0, ["a.ts"]⟩).map
          FileOutcome.store =
        .ok ⟨⟨[(["a.ts"],
          .file (serviceSource Rules.ProvidedInRoot.rootObject "\n").toUTF8.toList)]⟩⟩ ∧
      serviceSource Rules.ProvidedInRoot.rootObject "\n" ≠
        serviceSource Rules.ProvidedInRoot.rootObject "\r\n" := by
  refine ⟨?_, rfl, by decide +kernel, by decide +kernel, by decide +kernel⟩
  exact List.cons_subset.mpr ⟨List.mem_cons_self, List.nil_subset _⟩

end AngularLint.Proofs.RepairFrame
