import SeriesClient.Json.Printer
import SeriesClient.Text.Quoted

/-! Documents shown with the kinds of their parts. -/

namespace SeriesClient.Json

mutual

def debugText : Json → String
  | null => "Null"
  | bool b => if b then "Bool(true)" else "Bool(false)"
  | number n => "Number(" ++ String.ofList n.chars ++ ")"
  | string s => "String(" ++ Text.quoted s ++ ")"
  | array items => "Array [" ++ debugItems items ++ "]"
  | object members => "Object " ++ "\x7b" ++ debugMembers members ++ "\x7d"

def debugItems : List Json → String
  | [] => ""
  | [item] => item.debugText
  | item :: rest => item.debugText ++ ", " ++ debugItems rest

def debugMembers : Members → String
  | [] => ""
  | [(name, value)] => Text.quoted name ++ ": " ++ value.debugText
  | (name, value) :: rest =>
    Text.quoted name ++ ": " ++ value.debugText ++ ", " ++ debugMembers rest

end

end SeriesClient.Json
