import ResourceBundle.Json
import ResourceBundle.Text.Digits

/-! # Writing JSON

A value is written without white space. Inside a string the quote, the backslash and the control
characters are escaped, every other character stands for itself. -/

namespace ResourceBundle.Json

def writeChar (c : Char) : List Char :=
  if c = '"' ∨ c = '\\' then ['\\', c]
  else if c.toNat < 0x20 then '\\' :: 'u' :: Text.hex 4 c.toNat
  else [c]

def writeString (s : String) : List Char := '"' :: s.toList.flatMap writeChar ++ ['"']

def writeNumber : JsonNumber → List Char
  | .int n => Text.paddedInt 1 n
  | .decimal negative mantissa exponent =>
    (if negative then ['-'] else []) ++ Text.natDigits mantissa ++ 'e' :: Text.paddedInt 1 exponent
  | .infinite negative => (if negative then ['-'] else []) ++ "Infinity".toList
  | .undefined => "NaN".toList

mutual

def write : Json → List Char
  | .null => "null".toList
  | .bool b => if b then "true".toList else "false".toList
  | .number n => writeNumber n
  | .string s => writeString s
  | .array [] => ['[', ']']
  | .array (item :: items) => '[' :: (write item ++ writeItems items)
  | .object [] => ['\x7b', '\x7d']
  | .object ((name, value) :: members) =>
    '\x7b' :: (writeString name ++ ':' :: (write value ++ writeMembers members))

/-- The further items of an array, and its closing bracket. -/
def writeItems : List Json → List Char
  | [] => [']']
  | item :: items => ',' :: (write item ++ writeItems items)

/-- The further members of an object, and its closing brace. -/
def writeMembers : List (String × Json) → List Char
  | [] => ['\x7d']
  | (name, value) :: members =>
    ',' :: (writeString name ++ ':' :: (write value ++ writeMembers members))

end

end ResourceBundle.Json
