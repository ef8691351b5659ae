/-!
The shape of a value on the page: a word, a record of named fields, a tuple or a list. A layout is
written either on one line or with each part on a line of its own, four columns further in.
-/
namespace RxSteering.Text

inductive Layout where
  | word (text : String)
  | record (name : String) (fields : List (String × Layout))
  | tuple (name : String) (items : List Layout)
  | list (items : List Layout)

namespace Layout

def between (opening closing : String) (parts : List String) : String :=
  opening ++ String.intercalate ", " parts ++ closing

mutual

def oneLine : Layout → String
  | .word text => text
  | .record name fields => name ++ between " \x7b " " \x7d" (fieldsOneLine fields)
  | .tuple name items => name ++ between "(" ")" (itemsOneLine items)
  | .list items => between "[" "]" (itemsOneLine items)

def itemsOneLine : List Layout → List String
  | [] => []
  | item :: rest => item.oneLine :: itemsOneLine rest

def fieldsOneLine : List (String × Layout) → List String
  | [] => []
  | (label, value) :: rest => (label ++ ": " ++ value.oneLine) :: fieldsOneLine rest

end

def margin (depth : Nat) : String := String.ofList (List.replicate (4 * depth) ' ')

def stacked (depth : Nat) (opening closing : String) (parts : List String) : String :=
  match parts with
  | [] => opening ++ closing
  | _ =>
    opening ++ "\n" ++
      String.join (parts.map fun part => margin (depth + 1) ++ part ++ ",\n") ++
      margin depth ++ closing

mutual

def indented (depth : Nat) : Layout → String
  | .word text => text
  | .record name fields => name ++ stacked depth " \x7b" "\x7d" (fieldsIndented (depth + 1) fields)
  | .tuple name items => name ++ stacked depth "(" ")" (itemsIndented (depth + 1) items)
  | .list items => stacked depth "[" "]" (itemsIndented (depth + 1) items)

def itemsIndented (depth : Nat) : List Layout → List String
  | [] => []
  | item :: rest => item.indented depth :: itemsIndented depth rest

def fieldsIndented (depth : Nat) : List (String × Layout) → List String
  | [] => []
  | (label, value) :: rest =>
    (label ++ ": " ++ value.indented depth) :: fieldsIndented depth rest

end

end Layout
end RxSteering.Text
