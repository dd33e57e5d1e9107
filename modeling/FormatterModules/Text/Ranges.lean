namespace FormatterModules.Text

def inRanges (ranges : List (Nat × Nat)) (n : Nat) : Bool :=
  match ranges with
  | [] => false
  | (first, last) :: rest => if n < first then false else n ≤ last || inRanges rest n

end FormatterModules.Text
