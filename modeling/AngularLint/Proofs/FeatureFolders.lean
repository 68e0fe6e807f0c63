import AngularLint.Engine
import AngularLint.Proofs.ImportHistory
import AngularLint.Proofs.SlashedPaths
import AngularLint.Rules.FeatureIsolation

/-! The feature of a path, told from its parts. The search for the root goes through the characters
of a path and not through its parts, so the root may also begin in the middle of a folder's name;
from there on it has to agree with whole names, and the next one is the feature. -/

namespace AngularLint.Proofs.FeatureFolders
open AngularLint.Text AngularLint.Rules.FeatureIsolation SlashedPaths

section Search

variable {α : Type} {f : List Char → Option α} {text : List Char} {a : α}

theorem firstTail?_here (here : f text = some a) : firstTail? f text = some a := by
  cases text with
  | nil => exact here
  | cons c rest => rw [firstTail?, here, Option.some_or]

theorem firstTail?_finds (before : List Char) (here : (f text).isSome) :
    (firstTail? f (before ++ text)).isSome := by
  induction before with
  | nil =>
    obtain ⟨a, found⟩ := Option.isSome_iff_exists.mp here
    rw [List.nil_append, firstTail?_here found]
    rfl
  | cons c rest ih =>
    rw [List.cons_append, firstTail?, Option.isSome_or, ih, Bool.or_true]

/-- A search ends at the first place that has a result. -/
theorem firstTail?_first (found : firstTail? f text = some a) :
    ∃ before tail, text = before ++ tail ∧ f tail = some a ∧
      ∀ sooner later, text = sooner ++ later → sooner.length < before.length → f later = none := by
  induction text with
  | nil => exact ⟨[], [], rfl, found, by simp⟩
  | cons c rest ih =>
    rcases Option.or_eq_some_iff.mp found with here | ⟨absent, behind⟩
    · exact ⟨[], c :: rest, rfl, here, by simp⟩
    · obtain ⟨before, tail, rfl, there, first⟩ := ih behind
      refine ⟨c :: before, tail, rfl, there, ?_⟩
      intro sooner later split shorter
      cases sooner with
      | nil =>
        rw [List.nil_append] at split
        exact split ▸ absent
      | cons head sooner =>
        exact first sooner later (List.cons.inj split).2 (Nat.lt_of_succ_lt_succ shorter)

end Search

theorem folderName?_iff {text name : List Char} :
    folderName? text = some name ↔
      name ≠ [] ∧ '/' ∉ name ∧ ∃ rest, text = name ++ '/' :: rest := by
  have split := List.takeWhile_append_dropWhile (p := (· != '/')) (l := text)
  constructor
  · intro found
    simp only [folderName?, Option.ite_none_left_eq_some, Option.some.injEq, Bool.or_eq_true,
      List.isEmpty_iff, beq_iff_eq, not_or] at found
    obtain ⟨⟨filled, shorter⟩, rfl⟩ := found
    refine ⟨filled, ?_, ?_⟩
    · intro slash
      exact absurd (List.mem_takeWhile_imp slash) (by simp)
    · cases left : text.dropWhile (· != '/') with
      | nil =>
        rw [left, List.append_nil] at split
        exact absurd (congrArg List.length split) shorter
      | cons c rest =>
        have slash : (c != '/') = false := by
          have stopped : text.dropWhile (· != '/') ≠ [] := left ▸ List.cons_ne_nil c rest
          simpa only [left, List.head_cons] using List.head_dropWhile_not (· != '/') stopped
        rw [bne_eq_false_iff_eq] at slash
        rw [left, slash] at split
        exact ⟨rest, split.symm⟩
  · rintro ⟨filled, slashless, rest, rfl⟩
    have name_chars : ∀ c ∈ name, (c != '/') = true := by
      intro c member
      rw [bne_iff_ne]
      rintro rfl
      exact slashless member
    have taken := (Numerals.run_ends ('/' :: rest) name_chars (by simp)).1
    rw [folderName?, taken]
    simp [filled]

/-- The folder behind the root, where the root stands at the front of a text. -/
def folderAt? (root tail : List Char) : Option (List Char) :=
  if (root ++ ['/']).isPrefixOf tail then folderName? (tail.drop (root.length + 1)) else none

theorem folderUnder?_eq (root path : List Char) :
    folderUnder? root path = firstTail? (folderAt? root) path := rfl

theorem folderAt?_iff {root tail name : List Char} :
    folderAt? root tail = some name ↔
      name ≠ [] ∧ '/' ∉ name ∧ ∃ rest, tail = root ++ '/' :: (name ++ '/' :: rest) := by
  rw [folderAt?]
  constructor
  · intro found
    rw [Option.ite_none_right_eq_some, List.isPrefixOf_iff_prefix, folderName?_iff] at found
    obtain ⟨⟨behind, rfl⟩, filled, slashless, rest, named⟩ := found
    refine ⟨filled, slashless, rest, ?_⟩
    rw [← named]
    simp
  · rintro ⟨filled, slashless, rest, rfl⟩
    rw [Option.ite_none_right_eq_some, List.isPrefixOf_iff_prefix, folderName?_iff]
    exact ⟨⟨name ++ '/' :: rest, by simp⟩, filled, slashless, rest, by simp⟩

/-- The root stands in a path behind some text, and a folder of this name follows it. -/
structure Stands (root : PlainPath) (path before folder : String) : Prop where
  filled : folder ≠ ""
  slashless : '/' ∉ folder.toList
  shape : ∃ rest, path = before ++ (root.text ++ "/" ++ (folder ++ "/" ++ rest))

theorem folderAt?_stands {root : PlainPath} {path : String} {before tail name : List Char}
    (split : path.toList = before ++ tail) (found : folderAt? root.text.toList tail = some name) :
    Stands root path (String.ofList before) (String.ofList name) := by
  obtain ⟨filled, slashless, rest, rfl⟩ := folderAt?_iff.mp found
  refine ⟨?_, by simpa using slashless, String.ofList rest, ?_⟩
  · intro empty
    exact filled (by simpa using congrArg String.toList empty)
  · apply String.ext
    rw [split]
    simp

theorem Stands.folderAt? {root : PlainPath} {path before folder : String}
    (stands : Stands root path before folder) :
    ∃ tail, path.toList = before.toList ++ tail ∧
      FeatureFolders.folderAt? root.text.toList tail = some folder.toList := by
  obtain ⟨filled, slashless, rest, rfl⟩ := stands
  refine ⟨(root.text ++ "/" ++ (folder ++ "/" ++ rest)).toList, String.toList_append, ?_⟩
  rw [folderAt?_iff]
  refine ⟨?_, slashless, rest.toList, by simp⟩
  intro empty
  exact filled (String.ext empty)

/-- The first folder that follows the root in a path. -/
def folderOf? (root : PlainPath) (path : String) : Option String :=
  (folderUnder? root.text.toList path.toList).map String.ofList

theorem folderOf?_first {root : PlainPath} {path folder : String}
    (found : folderOf? root path = some folder) :
    ∃ before, Stands root path before folder ∧
      ∀ sooner other, Stands root path sooner other →
        before.toList.length ≤ sooner.toList.length := by
  obtain ⟨name, searched, rfl⟩ := Option.map_eq_some_iff.mp found
  rw [folderUnder?_eq] at searched
  obtain ⟨before, tail, split, here, first⟩ := firstTail?_first searched
  refine ⟨String.ofList before, folderAt?_stands split here, ?_⟩
  intro sooner other stands
  obtain ⟨later, split', there⟩ := stands.folderAt?
  rw [← Nat.not_lt]
  intro shorter
  have absent := first sooner.toList later split' (by simpa using shorter)
  rw [absent] at there
  cases there

theorem folderOf?_isSome {root : PlainPath} {path before folder : String}
    (stands : Stands root path before folder) : (folderOf? root path).isSome := by
  obtain ⟨tail, split, found⟩ := stands.folderAt?
  rw [folderOf?, Option.isSome_map, folderUnder?_eq, split]
  apply firstTail?_finds
  rw [found]
  rfl

/-- A folder stands behind the root among the parts of a path. Where the root begins, the name of a
folder need only end as the root starts; the rest of the root consists of whole names. -/
def Follows (root parts before : List String) (folder : String) : Prop :=
  folder ≠ "" ∧ ∃ stem first more after, root = first :: more ∧ after ≠ [] ∧
    parts = before ++ (stem ++ first) :: (more ++ folder :: after)

section Parts

variable {root : PlainPath} {path start folder first : String} {before more : List String}

theorem splitOn_placed {stem : String} (cut : splitOn start '/' = before ++ [stem])
    (begins : root.parts = first :: more) (slashless : '/' ∉ folder.toList) (rest : String) :
    splitOn (start ++ (root.text ++ "/" ++ (folder ++ "/" ++ rest))) '/' =
      before ++ (stem ++ first) :: (more ++ folder :: splitOn rest '/') := by
  apply splitOn_append cut
  rw [splitOn_slash, root.splitOn_text, begins, splitOn_slash, splitOn_single slashless]
  rfl

theorem Stands.follows (stands : Stands root path start folder) {stem : String}
    (cut : splitOn start '/' = before ++ [stem]) :
    Follows root.parts (splitOn path '/') before folder := by
  obtain ⟨filled, slashless, rest, rfl⟩ := stands
  obtain ⟨first, more, begins⟩ := List.exists_cons_of_ne_nil root.filled
  exact ⟨filled, stem, first, more, splitOn rest '/', begins, splitOn_ne_nil rest,
    splitOn_placed cut begins slashless rest⟩

theorem Follows.stands (follows : Follows root.parts (splitOn path '/') before folder) :
    ∃ start stem, splitOn start '/' = before ++ [stem] ∧ Stands root path start folder := by
  obtain ⟨filled, stem, first, more, after, begins, further, parts⟩ := follows
  have slashless : ∀ part ∈ before ++ (stem ++ first) :: (more ++ folder :: after),
      '/' ∉ part.toList := by
    rw [← parts]
    exact fun part => slashless_of_mem
  rw [List.forall_mem_append, List.forall_mem_cons, List.forall_mem_append, List.forall_mem_cons,
    String.toList_append, List.mem_append, not_or] at slashless
  obtain ⟨outer, ⟨stemless, _⟩, _, folderless, later⟩ := slashless
  have cut : splitOn (join "/" (before ++ [stem])) '/' = before ++ [stem] := by
    apply splitOn_join (by simp)
    rw [List.forall_mem_append, List.forall_mem_singleton]
    exact ⟨outer, stemless⟩
  refine ⟨_, stem, cut, filled, folderless, join "/" after, splitOn_injective ?_⟩
  rw [splitOn_placed cut begins folderless, splitOn_join further later, parts]

end Parts

theorem parts_before_le {first second : String} {before later : List String} {stem other : String}
    (within : first.toList <+: second.toList) (cut : splitOn first '/' = before ++ [stem])
    (cut' : splitOn second '/' = later ++ [other]) : before.length ≤ later.length := by
  obtain ⟨rest, split⟩ := within
  have whole : second = first ++ String.ofList rest := String.ext (by simp [split])
  obtain ⟨head, tail, parts⟩ := List.exists_cons_of_ne_nil (splitOn_ne_nil (String.ofList rest))
  have lengths := congrArg List.length (splitOn_append cut parts)
  rw [← whole, cut'] at lengths
  simp at lengths
  omega

/-- No root stands in fewer parts of the path. -/
def First (root parts before : List String) : Prop :=
  ∀ sooner other, Follows root parts sooner other → before.length ≤ sooner.length

theorem folderOf?_follows {root : PlainPath} {path folder : String}
    (found : folderOf? root path = some folder) :
    ∃ before, Follows root.parts (splitOn path '/') before folder ∧
      First root.parts (splitOn path '/') before := by
  obtain ⟨start, stands, first⟩ := folderOf?_first found
  obtain ⟨before, stem, cut⟩ := List.eq_nil_or_concat (splitOn start '/') |>.resolve_left
    (splitOn_ne_nil start)
  rw [List.concat_eq_append] at cut
  refine ⟨before, stands.follows cut, ?_⟩
  intro sooner other follows
  obtain ⟨start', stem', cut', stands'⟩ := follows.stands
  obtain ⟨_, _, rest, whole⟩ := stands
  obtain ⟨_, _, rest', whole'⟩ := id stands'
  have shorter := first start' other stands'
  have within : start.toList <+: start'.toList := by
    have one : start.toList <+: path.toList := by
      rw [whole, String.toList_append]
      exact List.prefix_append _ _
    have other : start'.toList <+: path.toList := by
      rw [whole', String.toList_append]
      exact List.prefix_append _ _
    exact List.prefix_of_prefix_length_le one other shorter
  exact parts_before_le within cut cut'

theorem Follows.unique {root parts before before' : List String} {folder folder' : String}
    (one : Follows root parts before folder) (other : Follows root parts before' folder')
    (level : before.length = before'.length) : folder = folder' := by
  obtain ⟨_, stem, first, more, after, rfl, _, here⟩ := one
  obtain ⟨_, stem', first', more', after', begins, _, there⟩ := other
  cases begins
  rw [here] at there
  have same := List.append_inj_right there level
  have behind := (List.cons.inj same).2
  exact (List.cons.inj (List.append_cancel_left behind)).1

theorem folderOf?_iff {root : PlainPath} {path folder : String} :
    folderOf? root path = some folder ↔
      ∃ before, Follows root.parts (splitOn path '/') before folder ∧
        First root.parts (splitOn path '/') before := by
  refine ⟨folderOf?_follows, ?_⟩
  rintro ⟨before, follows, first⟩
  obtain ⟨start, stem, _, stands⟩ := follows.stands
  obtain ⟨other, found⟩ := Option.isSome_iff_exists.mp (folderOf?_isSome stands)
  obtain ⟨before', follows', first'⟩ := folderOf?_follows found
  have level := Nat.le_antisymm (first before' other follows') (first' before folder follows)
  rw [found, follows.unique follows' level]

/-- A root at the front of a path is the first one. -/
theorem folderOf?_front {root : PlainPath} {path folder : String} {after : List String}
    (parts : splitOn path '/' = root.parts ++ folder :: after) (filled : folder ≠ "")
    (further : after ≠ []) : folderOf? root path = some folder := by
  obtain ⟨first, more, begins⟩ := List.exists_cons_of_ne_nil root.filled
  refine folderOf?_iff.mpr ⟨[], ⟨filled, "", first, more, after, begins, further, ?_⟩, ?_⟩
  · rw [parts, begins, String.empty_append]
    rfl
  · intro sooner other _
    exact Nat.zero_le _

theorem folderOf?_short {root : PlainPath} {path : String}
    (short : (splitOn path '/').length ≤ root.parts.length + 1) : folderOf? root path = none := by
  rw [Option.eq_none_iff_forall_ne_some]
  intro folder found
  obtain ⟨before, ⟨_, stem, first, more, after, begins, further, parts⟩, _⟩ :=
    folderOf?_follows found
  have longer := List.length_pos_iff.mpr further
  rw [parts, begins] at short
  simp only [List.length_append, List.length_cons] at short
  omega

theorem featureOf?_eq {settings : Settings} {root : PlainPath}
    (rooted : settings.featureRoot = root.text) (path : String) :
    featureOf? settings path =
      (folderOf? root path).filter fun folder => !settings.sharedPaths.contains folder := by
  rw [featureOf?, rooted, root.trimEnd_text]
  rfl

theorem featureOf?_iff {settings : Settings} {root : PlainPath}
    (rooted : settings.featureRoot = root.text) (path feature : String) :
    featureOf? settings path = some feature ↔
      feature ∉ settings.sharedPaths ∧ folderOf? root path = some feature := by
  rw [featureOf?_eq rooted, Option.filter_eq_some_iff]
  simp [and_comm]

/-- No name among the parts ends as the root starts without being the root's first name. -/
def Whole (root parts : List String) : Prop :=
  ∀ first ∈ root.head?, ∀ part ∈ parts, first.toList <:+ part.toList → part = first

instance (root parts : List String) : Decidable (Whole root parts) :=
  inferInstanceAs (Decidable (∀ first ∈ root.head?, _))

theorem Follows.whole {root parts before : List String} {folder : String}
    (follows : Follows root parts before folder) (whole : Whole root parts) :
    ∃ after, after ≠ [] ∧ parts = before ++ root ++ folder :: after := by
  obtain ⟨_, stem, first, more, after, rfl, further, rfl⟩ := follows
  have same : stem ++ first = first := by
    apply whole first rfl
    · simp
    · rw [String.toList_append]
      exact List.suffix_append _ _
  refine ⟨after, further, ?_⟩
  rw [same]
  simp

/-- The feature of a path is the folder behind the first place where the root stands among the
parts, and no shared one. Since the root may begin inside a name there, it is found on whole names
only if no name merely ends as the root starts. -/
theorem feature_follows_root {settings : Settings} (root : PlainPath)
    (rooted : settings.featureRoot = root.text) (path feature : String) :
    (featureOf? settings path = some feature ↔ feature ∉ settings.sharedPaths ∧
      ∃ before, Follows root.parts (splitOn path '/') before feature ∧
        First root.parts (splitOn path '/') before) ∧
    (Whole root.parts (splitOn path '/') → featureOf? settings path = some feature →
      feature ∉ settings.sharedPaths ∧ ∃ before after, after ≠ [] ∧
        splitOn path '/' = before ++ root.parts ++ feature :: after) := by
  have placed := featureOf?_iff rooted path feature
  rw [folderOf?_iff] at placed
  refine ⟨placed, ?_⟩
  intro whole found
  obtain ⟨unshared, before, follows, _⟩ := placed.mp found
  exact ⟨unshared, before, follows.whole whole⟩

/-- The root where the features are if nothing else is said. -/
def appRoot : PlainPath :=
  ⟨["src", "app"], by simp, by decide +kernel⟩

theorem shop_follows_root :
    let path := "lib/src/app//src/app/shop/a.ts"
    Settings.default.featureRoot = appRoot.text ∧ Whole appRoot.parts (splitOn path '/') ∧
      featureOf? Settings.default path = some "shop" ∧ ∃ before after, after ≠ [] ∧
        splitOn path '/' = before ++ appRoot.parts ++ "shop" :: after := by
  intro path
  have rooted : Settings.default.featureRoot = appRoot.text := by decide +kernel
  have whole : Whole appRoot.parts (splitOn path '/') := by decide +kernel
  have found : featureOf? Settings.default path = some "shop" := by decide +kernel
  exact ⟨rooted, whole, found, ((feature_follows_root appRoot rooted path "shop").2 whole found).2⟩

/-- A file under a folder whose name merely ends as the root starts is checked like a feature's. -/
theorem name_ending_follows_root :
    let path := "mysrc/app/shop/a.ts"
    let engine : Engine := ⟨[⟨rule, .error, rule.checker Settings.default⟩]⟩
    let program : Node :=
      ⟨"program", 1, ⟨1, 40, by decide⟩, .empty, [ImportHistory.importOf 2 "Cart" "../cart/b"]⟩
    featureOf? Settings.default path = some "shop" ∧
      ¬ appRoot.parts <:+: splitOn path '/' ∧
      (engine.run ⟨path, "", some program, false⟩).messageIds = ["crossFeatureImport"] := by
  refine ⟨by decide +kernel, by decide +kernel, by decide +kernel⟩

end AngularLint.Proofs.FeatureFolders
