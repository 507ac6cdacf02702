/-!
# Text.Cut — what stands before and after a mark

`cutFirst` parts a text at the first place where a mark begins, `cutLast` at the last.  The mark is in neither part.
-/
namespace RecordHold

def cutFirst (mark : List Char) : List Char → Option (List Char × List Char)
  | []     => if mark = [] then some ([], []) else none
  | c :: t =>
    if mark.isPrefixOf (c :: t) then some ([], (c :: t).drop mark.length)
    else (cutFirst mark t).map (fun (a, b) => (c :: a, b))

def cutLast (mark : List Char) : List Char → Option (List Char × List Char)
  | []     => if mark = [] then some ([], []) else none
  | c :: t =>
    match cutLast mark t with
    | some (a, b) => some (c :: a, b)
    | none        => if mark.isPrefixOf (c :: t) then some ([], (c :: t).drop mark.length) else none

end RecordHold
