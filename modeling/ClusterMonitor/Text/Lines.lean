/-!
# Lines

`splitLines` cuts a list at a separator. The pieces are the lines between the separators; there is
no empty piece after a final separator. It serves characters and bytes alike. `readUntil` takes one
piece off the front, with its separator. `splitAt` keeps an empty last piece.
-/

namespace ClusterMonitor.Text

variable {α : Type}

/-- The pieces between separators, the first of them begun by `current` (in reverse). -/
def splitLinesFrom [BEq α] (separator : α) (current : List α) : List α → List (List α)
  | [] => if current.isEmpty then [] else [current.reverse]
  | x :: rest =>
    if x == separator then current.reverse :: splitLinesFrom separator [] rest
    else splitLinesFrom separator (x :: current) rest

/-- The pieces between separators, without an empty one after a final separator. -/
def splitLines [BEq α] (separator : α) (xs : List α) : List (List α) :=
  splitLinesFrom separator [] xs

/-- What comes up to the first separator, this included, and what is left. Without a separator it is
all there is. -/
def readUntil [BEq α] (separator : α) (xs : List α) : List α × List α :=
  let piece := xs.takeWhile fun x => !(x == separator)
  match xs.dropWhile fun x => !(x == separator) with
  | [] => (piece, [])
  | x :: rest => (piece ++ [x], rest)

/-- A piece without the separator at its end, if there is one. -/
def dropSeparator [BEq α] (separator : α) (piece : List α) : List α :=
  if piece.getLast? == some separator then piece.dropLast else piece

/-- Nothing is lost between the piece and what is left. -/
theorem readUntil_append [BEq α] (separator : α) (xs : List α) :
    (readUntil separator xs).1 ++ (readUntil separator xs).2 = xs := by
  have hparts := List.takeWhile_append_dropWhile (p := fun x => !(x == separator)) (l := xs)
  unfold readUntil
  cases hrest : xs.dropWhile fun x => !(x == separator) with
  | nil => rwa [hrest] at hparts
  | cons x rest => rwa [hrest, List.append_cons] at hparts

/-- The pieces of a text between separators. -/
def splitAt (separator : Char) (cs : List Char) : List (List Char) :=
  cs.foldr
    (fun c pieces =>
      match pieces with
      | piece :: rest => if c = separator then [] :: piece :: rest else (c :: piece) :: rest
      | [] => [[c]])
    [[]]

/-- A line without one carriage return at its end. -/
def dropCarriageReturn (line : String) : String :=
  match line.toList.reverse with
  | '\r' :: rest => String.ofList rest.reverse
  | _ => line

end ClusterMonitor.Text
