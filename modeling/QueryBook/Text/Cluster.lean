import QueryBook.Text.CellWidth

set_option autoImplicit false

namespace QueryBook.Text

structure Cluster where
  chars : List Char
  columns : Nat
  deriving DecidableEq, Repr

namespace Cluster

def add (c : Char) (columns : Nat) : List Cluster → List Cluster
  | [] => [⟨[c], columns⟩]
  | last :: earlier => ⟨last.chars ++ [c], last.columns + columns⟩ :: earlier

end Cluster

-- The clusters of a text after those that are done, which stand in the opposite order; `last` is
-- the last character of these that took any columns.
def clustersAfter (done : List Cluster) (last : Option Char) : List Char → List Cluster
  | [] => done.reverse
  | c :: rest =>
    if c = joiner ∧ done ≠ [] then
      match rest with
      | [] => (Cluster.add c 0 done).reverse
      | d :: rest => clustersAfter (Cluster.add d 0 (Cluster.add c 0 done)) last rest
    else if c = selector ∧ last.any isWidened then
      clustersAfter (Cluster.add c 1 done) none rest
    else if c = joiner ∨ c = selector ∨ cellWidth c = 0 then
      clustersAfter (Cluster.add c 0 done) last rest
    else clustersAfter (⟨[c], cellWidth c⟩ :: done) (some c) rest

def clusters (cs : List Char) : List Cluster :=
  clustersAfter [] none cs

-- The clusters that fit into a number of columns. Where a wide one would be cut in two, a space
-- stands for its half.
def cut (columns : Nat) : List Cluster → List Char
  | [] => []
  | k :: rest =>
    if k.columns ≤ columns then k.chars ++ cut (columns - k.columns) rest
    else if columns = 0 then []
    else [' ']

def chop (columns room : Nat) : List Cluster → List (List Char)
  | [] => [[]]
  | k :: rest =>
    if k.columns ≤ room then
      match chop columns (room - k.columns) rest with
      | piece :: pieces => (k.chars ++ piece) :: pieces
      | [] => [k.chars]
    else
      match chop columns (columns - k.columns) rest with
      | piece :: pieces => [] :: (k.chars ++ piece) :: pieces
      | [] => [[], k.chars]

end QueryBook.Text
