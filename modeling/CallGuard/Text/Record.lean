/-!
# Texts of structured values

The one-line form in which values are shown for inspection: records with their fields in braces,
variants with their contents in parentheses, lists in brackets. A record that does not show all of
its fields ends in two dots.
-/

namespace CallGuard

namespace Text

/-- The parts one after the other with a comma and a blank between them. -/
def commaSeparated (parts : List String) : String :=
  String.intercalate ", " parts

/-- A list in brackets. -/
def listText (items : List String) : String :=
  "[" ++ commaSeparated items ++ "]"

/-- Parts in braces with a blank inside each brace. -/
def bracedText (parts : List String) : String :=
  "\x7b " ++ commaSeparated parts ++ " \x7d"

/-- The fields of a record, each as its name, a colon and its value. -/
def fieldTexts (fields : List (String × String)) : List String :=
  fields.map fun f => f.1 ++ ": " ++ f.2

/-- A record that shows all of its fields. -/
def recordText (name : String) (fields : List (String × String)) : String :=
  name ++ " " ++ bracedText (fieldTexts fields)

/-- A record that keeps some of its fields to itself. -/
def partialRecordText (name : String) (fields : List (String × String)) : String :=
  name ++ " " ++ bracedText (fieldTexts fields ++ [".."])

/-- A variant with one value in it. -/
def variantText (name value : String) : String :=
  name ++ "(" ++ value ++ ")"

/-- An optional value. -/
def optionText : Option String → String
  | none => "None"
  | some value => variantText "Some" value

/-- A map in braces, each key followed by a colon and its value. -/
def mapText (entries : List (String × String)) : String :=
  "\x7b" ++ commaSeparated (fieldTexts entries) ++ "\x7d"

end Text

end CallGuard
