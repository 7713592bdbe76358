import BookCatalog.Index.Basic

/-!
# Ranking

`ranks` scores the rows of the index against an expression by the weighting scheme Okapi BM25: a
phrase counts more the rarer it is, the more often it occurs in a row, and the shorter the row is.
Better rows have lower ranks.
-/

namespace BookCatalog.Index

open Query (Clause)

/-- How soon repeated occurrences stop to count. -/
def saturation : Float := 1.2

/-- How much the length of a row counts. -/
def lengthWeight : Float := 0.75

/-- The weight of a phrase that occurs in `hits` of `total` rows; it never falls below a small
positive number. -/
def rarity (total hits : Nat) : Float :=
  let weight := Float.log ((total.toFloat - hits.toFloat + 0.5) / (hits.toFloat + 0.5))
  if weight <= 0.0 then 1e-6 else weight

/-- The share of one phrase in the score of a row of `size` words, where rows have `average`
words. -/
def share (weight : Float) (occurrences size : Nat) (average : Float) : Float :=
  let f := occurrences.toFloat
  let length := 1.0 - lengthWeight + lengthWeight * size.toFloat / average
  weight * ((f * (saturation + 1.0)) / (f + saturation * length))

/-- The phrases of an expression with their weights among given rows. -/
def weighted (clauses : List Clause) (rows : List Words) : List (Phrase × Float) :=
  (clauses.flatMap phrasesOf).map fun p =>
    (p, rarity rows.length (rows.countP fun w => 0 < p.occurrences w))

/-- The rank of one row among given rows. -/
def rank (phrases : List (Phrase × Float)) (average : Float) (w : Words) : Float :=
  -1.0 * phrases.foldl
    (fun score (p, weight) => score + share weight (p.occurrences w) w.size average) 0.0

/-- The ranks of rows against an expression. -/
def ranks (clauses : List Clause) (rows : List Words) : List Float :=
  let total := rows.foldl (fun total w => total + w.size) 0
  let average := total.toFloat / rows.length.toFloat
  rows.map (rank (weighted clauses rows) average)

end BookCatalog.Index
