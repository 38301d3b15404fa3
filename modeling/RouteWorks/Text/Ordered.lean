/-!
# Ordered sets and maps

Sets as strictly ascending lists, and maps as lists of pairs with strictly ascending keys.
-/

namespace RouteWorks.Ordered

variable {α β : Type} [LT α] [DecidableEq α] [DecidableLT α]

/-- Adds an element at its place, unless it is there. -/
def insert (a : α) : List α → List α
  | [] => [a]
  | b :: bs => if a = b then b :: bs else if a < b then a :: b :: bs else b :: insert a bs

/-- The set of the elements of a list. -/
def ofList (xs : List α) : List α := xs.foldl (fun set a => insert a set) []

/-- Changes the value of a key; `empty` is the value of a key that is not there. -/
def update (k : α) (empty : β) (f : β → β) : List (α × β) → List (α × β)
  | [] => [(k, f empty)]
  | (j, b) :: rest =>
    if k = j then (j, f b) :: rest
    else if k < j then (k, f empty) :: (j, b) :: rest
    else (j, b) :: update k empty f rest

end RouteWorks.Ordered
