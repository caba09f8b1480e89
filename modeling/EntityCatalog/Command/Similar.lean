namespace EntityCatalog.Command.Similar

def commonStart : List Char → List Char → Nat
  | a :: as, b :: bs => if a = b then commonStart as bs + 1 else 0
  | _, _ => 0

def longestShared (as bs : List Char) : Nat × Nat × Nat :=
  let starts := (List.range as.length).flatMap fun i => (List.range bs.length).map fun j => (i, j)
  starts.foldl (fun best (i, j) =>
    let n := commonStart (as.drop i) (bs.drop j)
    if best.2.2 < n then (i, j, n) else best) (0, 0, 0)

def shared : Nat → List Char → List Char → Nat
  | 0, _, _ => 0
  | fuel + 1, as, bs =>
    match longestShared as bs with
    | (_, _, 0) => 0
    | (i, j, n + 1) =>
      n + 1 + shared fuel (as.take i) (bs.take j) +
        shared fuel (as.drop (i + n + 1)) (bs.drop (j + n + 1))

def isSimilar (a b : String) : Bool :=
  6 * (a.length + b.length) ≤ 20 * shared (a.length + 1) a.toList b.toList

def isCloser (word a b : String) : Bool :=
  let score (x : String) := shared (x.length + 1) x.toList word.toList
  -- Twice the shared characters out of all, as fractions with a common denominator.
  let left := score a * (b.length + word.length)
  let right := score b * (a.length + word.length)
  right < left || (left = right && decide (b ≤ a))

def suggest (word : String) (names : List String) : List String :=
  (((names.filter (isSimilar · word)).mergeSort (isCloser word)).take 3).mergeSort
    fun a b => decide (a ≤ b)

end EntityCatalog.Command.Similar
