import AngularLint.OrderedMap
import AngularLint.Text.Character
import AngularLint.Text.Word

/-! Message templates. A placeholder is a word between two braces on each side, with blanks around
the word as one likes; it stands for the value of that word. -/

namespace AngularLint

open AngularLint.Text

inductive Piece where
  | literal (text : List Char)
  | placeholder (written : List Char) (key : String)
deriving DecidableEq, Repr

/-- Reads a placeholder at the front of a text: as it is written, its word, and the rest. -/
def takePlaceholder? (text : List Char) : Option (List Char × String × List Char) :=
  match text with
  | '\x7b' :: '\x7b' :: rest =>
    let inside := rest.dropWhile isBlank
    let word := inside.takeWhile isWord
    if word.isEmpty then none
    else
      match (inside.dropWhile isWord).dropWhile isBlank with
      | '\x7d' :: '\x7d' :: after =>
        some (text.take (text.length - after.length), String.ofList word, after)
      | _ => none
  | _ => none

theorem takePlaceholder?_shorter {text written after : List Char} {key : String}
    (found : takePlaceholder? text = some (written, key, after)) : after.length < text.length := by
  unfold takePlaceholder? at found
  split at found
  · rename_i rest
    dsimp only at found
    split at found
    · simp at found
    · have first := (List.dropWhile_suffix isBlank (l := rest)).length_le
      have second := (List.dropWhile_suffix isWord (l := rest.dropWhile isBlank)).length_le
      have third := (List.dropWhile_suffix isBlank
        (l := (rest.dropWhile isBlank).dropWhile isWord)).length_le
      split at found
      · rename_i left h
        rw [h, List.length_cons, List.length_cons] at third
        simp only [Option.some.injEq, Prod.mk.injEq] at found
        simp only [List.length_cons, ← found.2.2]
        omega
      · simp at found
  · simp at found

/-- The parts of a template; `pending` holds the characters since the last placeholder, the last
first. -/
def piecesFrom (pending text : List Char) : List Piece :=
  match _found : takePlaceholder? text with
  | some (written, key, after) =>
    .literal pending.reverse :: .placeholder written key :: piecesFrom [] after
  | none =>
    match text with
    | [] => [.literal pending.reverse]
    | c :: rest => piecesFrom (c :: pending) rest
termination_by text.length
decreasing_by
  · exact takePlaceholder?_shorter _found
  · simp

def pieces (template : String) : List Piece :=
  piecesFrom [] template.toList

/-- A part with the values filled in; a placeholder without a value stays as it is written. -/
def Piece.fill (data : OrderedMap String String) : Piece → List Char
  | .literal text => text
  | .placeholder written key =>
    match data.get? key with
    | some value => value.toList
    | none => written

def fillTemplate (template : String) (data : OrderedMap String String) : String :=
  String.ofList ((pieces template).flatMap (Piece.fill data))

end AngularLint
