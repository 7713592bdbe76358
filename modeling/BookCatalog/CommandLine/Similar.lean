/-!
# Similar words

`similar` finds the words that a misspelled one may have been meant for. Two words are compared by
the letters that they share: those of their longest common part, and then of what is left and right
of it.
-/

namespace BookCatalog.CommandLine

/-- How many letters two texts have in common at the front. -/
def commonFront : List Char → List Char → Nat
  | a :: as, b :: bs => if a = b then commonFront as bs + 1 else 0
  | _, _ => 0

/-- A common part of two texts: where it starts in each, and how long it is. -/
structure CommonPart where
  left : Nat := 0
  right : Nat := 0
  length : Nat := 0

/-- The longer of two common parts, and the earlier one if they are equally long. -/
def CommonPart.better (p q : CommonPart) : CommonPart :=
  if p.length < q.length then q else p

/-- The longest common part of two texts; of several the one that starts first in the first text,
and then in the second. -/
def longestCommonPart (a b : List Char) : CommonPart :=
  (List.range a.length).foldl
    (fun best i => (List.range b.length).foldl
      (fun best j => best.better ⟨i, j, commonFront (a.drop i) (b.drop j)⟩) best) {}

/-- How many letters two texts share. -/
def sharedLetters (a b : List Char) : Nat :=
  let p := longestCommonPart a b
  if _h : 0 < p.length ∧ p.left < a.length then
    sharedLetters (a.take p.left) (b.take p.right) + p.length +
      sharedLetters (a.drop (p.left + p.length)) (b.drop (p.right + p.length))
  else 0
  termination_by a.length
  decreasing_by
    · have h1 := _h.2
      simp only [List.length_take]
      exact Nat.lt_of_le_of_lt (Nat.min_le_left _ _) h1
    · have h1 := _h.1
      have h2 := _h.2
      simp only [List.length_drop]
      exact Nat.sub_lt (Nat.lt_of_le_of_lt (Nat.zero_le _) h2) (Nat.add_pos_right _ h1)

/-- How similar a word is to another one: the letters that they share, out of all their letters. -/
structure Similarity where
  word : String
  shared : Nat
  total : Nat

/-- The similarity of a word. -/
def Similarity.of (wanted word : String) : Similarity :=
  { word
    shared := 2 * sharedLetters word.toList wanted.toList
    total := word.length + wanted.length }

/-- The words are alike: three fifths of the letters are shared. -/
def Similarity.isClose (s : Similarity) : Bool :=
  3 * s.total ≤ 5 * s.shared

/-- A word comes before another one: it is more similar, or comes later in the alphabet. -/
def Similarity.precedes (a b : Similarity) : Bool :=
  if a.shared * b.total = b.shared * a.total then b.word ≤ a.word
  else b.shared * a.total < a.shared * b.total

/-- The words that are most like a wanted one, no more than three, in alphabetical order. -/
def similar (wanted : String) (words : List String) : List String :=
  let close := (words.map (Similarity.of wanted)).filter Similarity.isClose
  let best := ((close.mergeSort Similarity.precedes).take 3).map Similarity.word
  best.mergeSort fun a b => a ≤ b

end BookCatalog.CommandLine
