/-! Alignment of two sequences by a longest common subsequence, the regions where they differ, and the
places that correspond. -/
namespace SpokenForm

/-- A step through two sequences: an element of both, of the second only, or of the first only. -/
inductive Edit where
  | equal | insert | delete
deriving DecidableEq, Repr

/-- A stretch of the first sequence, and the stretch of the second that takes its place. The ends do
not belong to them. -/
structure Region where
  aStart : Nat
  aEnd : Nat
  bStart : Nat
  bEnd : Nat
deriving DecidableEq, Repr

namespace Alignment

variable {α : Type} [DecidableEq α]

/-- Longer sequences are not aligned by a table. -/
def tableLimit : Nat := 2048

/-- Lengths of common subsequences of `x :: xs` and each tail of `ys`, where `below` holds those of
`xs` and each tail of `ys`. -/
def commonRow (x : α) : (ys : List α) → (below : List Nat) → List Nat
  | [], _ => [0]
  | y :: ys, below =>
    let right := commonRow x ys below.tail
    let length :=
      if x = y then below.tail.headD 0 + 1 else max (right.headD 0) (below.headD 0)
    length :: right

def zeroRow (ys : List α) : List Nat := List.replicate (ys.length + 1) 0

/-- The row of each tail of a sequence, the whole sequence first. -/
def commonRows (ys : List α) : List α → List (List Nat)
  | [] => [zeroRow ys]
  | x :: xs =>
    let rows := commonRows ys xs
    commonRow x ys (rows.headD []) :: rows

def entry (rows : List (Array Nat)) (column : Nat) : Nat :=
  (rows.head?.bind fun row => row[column]?).getD 0

/-- Walks through two sequences that stand last element first, and puts the steps in front of those
behind them. The first of the rows belongs to what is left of the first sequence, and the column to
what is left of the second. -/
def trace (edits : List Edit) (rows : List (Array Nat)) (column : Nat) :
    (as bs : List α) → List Edit
  | [], [] => edits
  | [], _ :: bs => trace (.insert :: edits) rows (column + 1) [] bs
  | _ :: as, [] => trace (.delete :: edits) rows.tail column as []
  | a :: as, b :: bs =>
    if a = b then trace (.equal :: edits) rows.tail (column + 1) as bs
    else if entry rows.tail column ≤ entry rows (column + 1) then
      trace (.insert :: edits) rows (column + 1) (a :: as) bs
    else trace (.delete :: edits) rows.tail column as (b :: bs)
termination_by as bs => as.length + bs.length

/-- Aligns two sequences from their ends with the table of all common lengths. -/
def byTable (as bs : List α) : List Edit :=
  trace [] ((commonRows bs.reverse as.reverse).map List.toArray) 0 as.reverse bs.reverse

/-- The number of equal elements at the fronts of two sequences. -/
def commonPrefix : List α → List α → Nat
  | a :: as, b :: bs => if a = b then commonPrefix as bs + 1 else 0
  | _, _ => 0

/-- Keeps what is common at both ends, and replaces everything between. -/
def byEnds (as bs : List α) : List Edit :=
  let front := commonPrefix as bs
  let back := commonPrefix (as.drop front).reverse (bs.drop front).reverse
  List.replicate front .equal ++ List.replicate (as.length - front - back) .delete ++
    List.replicate (bs.length - front - back) .insert ++ List.replicate back .equal

/-- The steps from one sequence to another. -/
def align (as bs : List α) : List Edit :=
  if tableLimit < as.length ∨ tableLimit < bs.length then byEnds as bs else byTable as bs

/-- Regions of the steps from given places on, where a region may be open. -/
def regionsFrom (open? : Option Region) (a b : Nat) : List Edit → List Region
  | [] => open?.toList
  | .equal :: rest => open?.toList ++ regionsFrom none (a + 1) (b + 1) rest
  | .delete :: rest =>
    let region := open?.getD ⟨a, a, b, b⟩
    regionsFrom (some { region with aEnd := a + 1 }) (a + 1) b rest
  | .insert :: rest =>
    let region := open?.getD ⟨a, a, b, b⟩
    regionsFrom (some { region with bEnd := b + 1 }) a (b + 1) rest

def changeRegions (edits : List Edit) : List Region := regionsFrom none 0 0 edits

/-- Joins regions to the one in front while few enough elements lie between. -/
def mergeOnto (gap : Nat) (region : Region) : List Region → List Region
  | [] => [region]
  | next :: rest =>
    if next.aStart - region.aEnd ≤ gap then
      mergeOnto gap { region with aEnd := next.aEnd, bEnd := next.bEnd } rest
    else region :: mergeOnto gap next rest

/-- Joins regions with at most `gap` elements between them. -/
def mergeRegions (gap : Nat) : List Region → List Region
  | [] => []
  | region :: rest => mergeOnto gap region rest

/-- Places of the second sequence for those of the first from `a` on, where `b` elements of the second
have been passed. -/
def positionsFrom (a b : Nat) : List Edit → List Nat
  | [] => [b]
  | .equal :: rest => (if 0 < a then b else 0) :: positionsFrom (a + 1) (b + 1) rest
  | .delete :: rest => (if 0 < a then b else 0) :: positionsFrom (a + 1) b rest
  | .insert :: rest => positionsFrom a (b + 1) rest

/-- For every place of the first sequence, its end included, the number of elements of the second in
front of it. Elements inserted at the very front belong to the first element. -/
def positionMap (edits : List Edit) : List Nat := positionsFrom 0 0 edits

end Alignment

end SpokenForm
