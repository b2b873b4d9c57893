/-!
Cutting and joining lists at a separator, and replacing one sublist by another.
-/

namespace ApiCall

namespace Split

variable {α : Type} [BEq α]

/-- What stands before and after the first occurrence of a separator, if there is one. -/
def once (sep : α) : List α → Option (List α × List α)
  | [] => none
  | x :: xs =>
    if x == sep then some ([], xs)
    else (once sep xs).map fun (before, after) => (x :: before, after)

/-- The pieces between the separators: one more than there are separators. -/
def pieces (sep : α) : List α → List (List α)
  | [] => [[]]
  | x :: xs =>
    if x == sep then [] :: pieces sep xs
    else
      match pieces sep xs with
      | [] => [[x]]
      | p :: ps => (x :: p) :: ps

/-- What follows `start` in a list that begins with it. -/
def after? : List α → List α → Option (List α)
  | [], xs => some xs
  | _ :: _, [] => none
  | a :: start, x :: xs => if a == x then after? start xs else none

/-- What precedes `stop` in a list that ends with it. -/
def before? (stop xs : List α) : Option (List α) :=
  (after? stop.reverse xs.reverse).map List.reverse

theorem length_after?_le {start xs rest : List α} (h : after? start xs = some rest) :
    rest.length + start.length ≤ xs.length := by
  induction start generalizing xs with
  | nil => simp_all [after?]
  | cons a start ih =>
    cases xs with
    | nil => simp [after?] at h
    | cons x xs =>
      simp only [after?] at h
      split at h
      · have := ih h
        simp only [List.length_cons]
        omega
      · cases h

/-- Replaces every occurrence of the nonempty text `a :: pattern`, from left to right. -/
def replace (a : α) (pattern new : List α) : List α → List α
  | [] => []
  | x :: xs =>
    match _h : after? (a :: pattern) (x :: xs) with
    | some rest => new ++ replace a pattern new rest
    | none => x :: replace a pattern new xs
termination_by xs => xs.length
decreasing_by
  · have := length_after?_le _h
    simp only [List.length_cons] at this ⊢
    omega
  · simp

end Split

end ApiCall
