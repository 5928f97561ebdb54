/-!
Ends of lines. A text that is read line by line may end its lines by a line feed, a carriage
return, or both in this order; after `normalEnds` a line feed ends every line.
-/

namespace ClipCadence.Text

def normalEnds : List Char → List Char
  | '\r' :: '\n' :: rest => '\n' :: normalEnds rest
  | '\r' :: rest => '\n' :: normalEnds rest
  | c :: rest => c :: normalEnds rest
  | [] => []

end ClipCadence.Text
