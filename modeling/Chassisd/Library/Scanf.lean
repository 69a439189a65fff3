import Chassisd.Library.CString

namespace Scanf

open CString

inductive Directive where
  | lit (c : Char)
  | int
  | word
  deriving DecidableEq, Repr

inductive Value where
  | int (n : Int)
  | word (w : List Char)
  deriving DecidableEq, Repr

-- "%d": blanks, an optional sign and at least one digit.
def scanInt (text : List Char) : Option (Int × List Char) :=
  let text := text.dropWhile isspace
  let unsigned := if text.head? = some '-' ∨ text.head? = some '+' then text.tail else text
  if unsigned.takeWhile Char.isDigit = [] then none
  else some (atoi text, unsigned.dropWhile Char.isDigit)

-- "%s": blanks and at least one character that is none.
def scanWord (text : List Char) : Option (List Char × List Char) :=
  let text := text.dropWhile isspace
  let word := text.takeWhile fun c => !isspace c
  if word = [] then none else some (word, text.dropWhile fun c => !isspace c)

def sscanf : List Directive → List Char → List Value
  | [], _ => []
  | .lit c :: format, text =>
    match text with
    | [] => []
    | d :: text => if d = c then sscanf format text else []
  | .int :: format, text =>
    match scanInt text with
    | none => []
    | some (n, rest) => .int n :: sscanf format rest
  | .word :: format, text =>
    match scanWord text with
    | none => []
    | some (w, rest) => .word w :: sscanf format rest

end Scanf
