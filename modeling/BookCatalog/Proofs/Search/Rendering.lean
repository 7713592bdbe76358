import BookCatalog.Proofs.Search.Bound

/-!
# Written statements

A statement is put together by calls in any order, and may be written out at any time as a page or
as a count. Both have the same part from `FROM` to the last condition, and each placeholder stands
for the argument that was given for it. The central notions:

* `Reader`: who takes every question mark for a placeholder, or only those outside of quotes and
  comments. Where a reader is with respect to these is a `Reading`.
* `Statement.filled`: a text with its arguments in the place of its placeholders.
* `Statement.Takes`: a text ends outside of quotes and comments and has as many placeholders as
  there are arguments. Such texts are filled one by one (`Statement.filled_append`).
* `Statement.Call`, `Statement.built`: the calls, and the statement that they make.
-/

namespace BookCatalog

/-! ## Reading a statement -/

/-- Where a reader of a statement is: behind a character that may begin a comment, in a quoted text,
in a comment to the end of the line or in one that is closed, there behind a star, or none of
these. -/
inductive Reading where
  | plain
  | dash
  | slash
  | quoted (close : Char)
  | line
  | block
  | star
  deriving DecidableEq, Repr

namespace Reading

/-- Outside of quotes and comments. -/
def isOpen : Reading → Bool
  | .plain | .dash | .slash => true
  | .quoted _ | .line | .block | .star => false

/-- The character that ends a quoted text which another one begins. -/
def closing? : Char → Option Char
  | '\'' => some '\''
  | '"' => some '"'
  | '\x60' => some '\x60'
  | '[' => some ']'
  | _ => none

/-- Behind a character outside of quotes and comments. -/
def behind (c : Char) : Reading :=
  match closing? c with
  | some close => .quoted close
  | none => if c = '-' then .dash else if c = '/' then .slash else .plain

def next : Reading → Char → Reading
  | .plain, c => behind c
  | .dash, c => if c = '-' then .line else behind c
  | .slash, c => if c = '*' then .block else behind c
  | .quoted close, c => if c = close then .plain else .quoted close
  | .line, c => if c = '\n' then .plain else .line
  | .block, c => if c = '*' then .star else .block
  | .star, c => if c = '/' then .plain else if c = '*' then .star else .block

end Reading

/-- Who reads a statement: one who takes every question mark for a placeholder, or one who minds
quotes and comments. -/
inductive Reader where
  | simple
  | careful
  deriving DecidableEq, Repr

namespace Reader

def next : Reader → Reading → Char → Reading
  | .simple, _, _ => .plain
  | .careful, r, c => r.next c

/-- How many placeholders there are in a text that is read. -/
def holes (reader : Reader) (r : Reading) : List Char → Nat
  | [] => 0
  | c :: cs => (if r.isOpen ∧ c = '?' then 1 else 0) + reader.holes (reader.next r c) cs

/-- A text that is read with values in the place of its placeholders, as far as there are values. -/
def fill (reader : Reader) (r : Reading) : List Char → List Value → List (Char ⊕ Value)
  | [], _ => []
  | c :: cs, [] => .inl c :: reader.fill (reader.next r c) cs []
  | c :: cs, v :: args =>
    if r.isOpen ∧ c = '?' then .inr v :: reader.fill (reader.next r c) cs args
    else .inl c :: reader.fill (reader.next r c) cs (v :: args)

variable {reader : Reader} {r : Reading} {cs ds : List Char} {as bs : List Value}

/-- The placeholders of two texts are added up, as the second is read behind the first. -/
lemma holes_append :
    reader.holes r (cs ++ ds) = reader.holes r cs + reader.holes (cs.foldl reader.next r) ds := by
  induction cs generalizing r with
  | nil => simp [holes]
  | cons c cs ih => simp [holes, ih, Nat.add_assoc]

/-- Without question marks there are no placeholders. -/
lemma holes_of_free (free : '?' ∉ cs) : reader.holes r cs = 0 := by
  induction cs generalizing r with
  | nil => rfl
  | cons c cs ih =>
    have other : c ≠ '?' := fun same => free (same ▸ List.mem_cons_self)
    rw [holes, ih fun mem => free (List.mem_cons_of_mem c mem), if_neg fun taken => other taken.2]

/-- A simple reader is never in a quoted text or a comment. -/
lemma foldl_simple (cs : List Char) : cs.foldl (next .simple) .plain = .plain := by
  induction cs with
  | nil => rfl
  | cons c cs ih => exact ih

/-- For a simple reader every question mark is a placeholder. -/
lemma holes_simple (cs : List Char) : holes .simple .plain cs = cs.count '?' := by
  induction cs with
  | nil => rfl
  | cons c cs ih =>
    rw [holes, next, ih, List.count_cons, Nat.add_comm]
    simp [Reading.isOpen]

/-- Without values a text stays as it is. -/
lemma fill_nil : reader.fill r cs [] = cs.map .inl := by
  induction cs generalizing r with
  | nil => rfl
  | cons c cs ih => rw [fill, ih, List.map_cons]

/-- A text that takes some of the values leaves the others to what is behind it. -/
lemma fill_append (own : reader.holes r cs = as.length) :
    reader.fill r (cs ++ ds) (as ++ bs) =
    reader.fill r cs as ++ reader.fill (cs.foldl reader.next r) ds bs := by
  induction cs generalizing r as with
  | nil =>
    cases List.length_eq_zero_iff.1 own.symm
    rfl
  | cons c cs ih =>
    rw [holes] at own
    rw [List.cons_append, List.foldl_cons]
    by_cases taken : r.isOpen = true ∧ c = '?'
    · rw [if_pos taken] at own
      cases as with
      | nil => simp at own
      | cons v as =>
        have rest : reader.holes (reader.next r c) cs = as.length := by
          rw [List.length_cons, Nat.add_comm] at own
          exact Nat.add_right_cancel own
        rw [List.cons_append, fill, fill, if_pos taken, if_pos taken, ih rest, List.cons_append]
    · have rest : reader.holes (reader.next r c) cs = as.length := by
        rwa [if_neg taken, Nat.zero_add] at own
      have step : ∀ cs args,
          reader.fill r (c :: cs) args = .inl c :: reader.fill (reader.next r c) cs args := by
        intro cs args
        cases args with
        | nil => rfl
        | cons => rw [fill, if_neg taken]
      rw [step, step, ih rest, List.cons_append]

end Reader

namespace Statement

/-! ## Texts with arguments -/

/-- A text has a placeholder for each argument, and what is put behind it is not taken for a part of
a quoted text or a comment in it. -/
structure Takes (reader : Reader) (text : String) (args : List Value) : Prop where
  closed : text.toList.foldl reader.next .plain = .plain
  each : reader.holes .plain text.toList = args.length

instance (reader : Reader) (text : String) (args : List Value) :
    Decidable (Takes reader text args) :=
  decidable_of_iff (_ ∧ _)
    ⟨fun ⟨closed, each⟩ => ⟨closed, each⟩, fun ⟨closed, each⟩ => ⟨closed, each⟩⟩

/-- A text with arguments in the place of its placeholders. -/
def filled (reader : Reader) (text : String) (args : List Value) : List (Char ⊕ Value) :=
  reader.fill .plain text.toList args

/-- A text as it stands. -/
def plainly (text : String) : List (Char ⊕ Value) :=
  text.toList.map .inl

variable {reader : Reader} {a b sep : String} {as bs : List Value}
  {pieces : List (String × List Value)}

/-- If every question mark is a placeholder, nothing but their number matters. -/
lemma takes_simple : Takes .simple a as ↔ marks a = as.length := by
  rw [marks, ← Reader.holes_simple]
  exact ⟨Takes.each, fun each => ⟨Reader.foldl_simple _, each⟩⟩

/-- Without arguments a text stays as it stands. -/
lemma filled_nil (text : String) : filled reader text [] = plainly text :=
  Reader.fill_nil

/-- Two texts take the arguments of both. -/
lemma Takes.append (first : Takes reader a as) (second : Takes reader b bs) :
    Takes reader (a ++ b) (as ++ bs) where
  closed := by rw [String.toList_append, List.foldl_append, first.closed, second.closed]
  each := by
    rw [String.toList_append, Reader.holes_append, first.closed, first.each, second.each,
      List.length_append]

/-- Texts that are put one behind the other each take their own arguments. -/
lemma filled_append (first : Takes reader a as) (b : String) (bs : List Value) :
    filled reader (a ++ b) (as ++ bs) = filled reader a as ++ filled reader b bs := by
  rw [filled, String.toList_append, Reader.fill_append first.each, first.closed, filled, filled]

/-- What is put in front of a text that takes arguments leaves it as it is. -/
lemma Takes.behind (first : Takes reader a []) (second : Takes reader b bs) :
    Takes reader (a ++ b) bs ∧ filled reader (a ++ b) bs = plainly a ++ filled reader b bs := by
  have whole := filled_append first b bs
  rw [List.nil_append, filled_nil] at whole
  exact ⟨first.append second, whole⟩

/-- An empty text takes no arguments. -/
lemma takes_empty : Takes reader "" [] :=
  ⟨rfl, rfl⟩

/-- A literal without question marks is read by its characters. -/
lemma takes_literal {chars : List Char}
    (free : '?' ∉ chars ∧ chars.foldl Reading.next .plain = .plain) :
    Takes reader (String.ofList chars) [] := by
  constructor
  · rw [String.toList_ofList]
    cases reader with
    | simple => exact Reader.foldl_simple chars
    | careful => exact free.2
  · rw [String.toList_ofList]
    exact Reader.holes_of_free free.1

/-- Joined texts without placeholders take no arguments. -/
lemma takes_join {texts : List String} (free : ∀ text ∈ texts, Takes reader text []) :
    Takes reader (String.join texts) [] := by
  induction texts with
  | nil => exact takes_empty
  | cons text rest ih =>
    obtain ⟨own, others⟩ := List.forall_mem_cons.1 free
    rw [String.join_cons]
    exact own.append (ih others)

/-- Texts with a separator between them each take their own arguments, too. -/
lemma filled_intercalate (between : Takes reader sep [])
    (each : ∀ p ∈ pieces, Takes reader p.1 p.2) :
    Takes reader (String.intercalate sep (pieces.map Prod.fst)) (pieces.flatMap Prod.snd) ∧
      filled reader (String.intercalate sep (pieces.map Prod.fst)) (pieces.flatMap Prod.snd) =
        List.intercalate (plainly sep) (pieces.map fun p => filled reader p.1 p.2) := by
  induction pieces with
  | nil => exact ⟨takes_empty, rfl⟩
  | cons first rest ih =>
    obtain ⟨own, others⟩ := List.forall_mem_cons.1 each
    obtain ⟨takes, whole⟩ := ih others
    cases rest with
    | nil => simpa [String.intercalate_singleton, List.intercalate] using own
    | cons second rest =>
      have text : String.intercalate sep ((first :: second :: rest).map Prod.fst) =
          first.1 ++ (sep ++ String.intercalate sep ((second :: rest).map Prod.fst)) := by
        rw [List.map_cons, String.intercalate_cons_of_ne_nil (by simp), String.append_assoc]
      have args : (first :: second :: rest).flatMap Prod.snd =
          first.2 ++ ([] ++ (second :: rest).flatMap Prod.snd) :=
        List.flatMap_cons
      rw [text, args]
      refine ⟨own.append (between.append takes), ?_⟩
      rw [filled_append own, filled_append between, whole, filled_nil]
      simp [List.intercalate]

/-- A question mark takes one argument. -/
lemma takes_mark (v : Value) : Takes reader "?" [v] := by
  have one : Takes reader "?" [.null] := by cases reader <;> decide
  exact ⟨one.closed, one.each⟩

/-- A question mark is filled by its argument. -/
lemma filled_mark (v : Value) : filled reader "?" [v] = [.inr v] := by
  have mark : "?".toList = ['?'] := String.toList_ofList
  rw [filled, mark]
  rfl

/-- A list of placeholders takes as many arguments. -/
lemma takes_placeholders (values : List Value) :
    Takes reader (placeholders values.length) values := by
  have between : Takes reader ", " [] := takes_literal (by decide)
  have each : ∀ p ∈ values.map fun v => ("?", [v]), Takes reader p.1 p.2 :=
    List.forall_mem_map.2 fun v _ => takes_mark v
  have takes := (filled_intercalate between each).1
  have texts : (values.map fun v => ("?", [v])).map Prod.fst =
      List.replicate values.length "?" := by
    rw [List.map_map]
    exact List.map_const' ..
  have args : (values.map fun v => ("?", [v])).flatMap Prod.snd = values := by
    rw [List.flatMap_map]
    exact List.flatMap_singleton' values
  rwa [texts, args] at takes

/-! ## Building a statement -/

/-- A call on a statement. -/
inductive Call where
  | joinAuthors
  | require (condition : String) (args : List Value)
  | requireIn (column : String) (values : List Value)
  | page (order : String) (limit offset : Value)
  | count
  deriving DecidableEq

namespace Call

/-- The statement after a call. What writes it out leaves it as it is. -/
def on (s : Statement) : Call → Statement
  | .joinAuthors => s.joinAuthors
  | .require condition args => s.require condition args
  | .requireIn column values => s.requireIn column values
  | .page .. | .count => s

/-- A call that writes the statement out. -/
def isRendering : Call → Bool
  | .page .. | .count => true
  | .joinAuthors | .require .. | .requireIn .. => false

/-- The conditions that a call asks for, with their arguments. -/
def clauses : Call → List (String × List Value)
  | .require condition args => [(condition, args)]
  | .requireIn column values =>
    if values.isEmpty then []
      else [(column ++ " IN (" ++ placeholders values.length ++ ")", values)]
  | .joinAuthors | .page .. | .count => []

/-- A condition is given with as many arguments as it has placeholders. The values of a column bring
their own, and the column has none. -/
def Matched (reader : Reader) : Call → Prop
  | .require condition args => Takes reader condition args
  | .requireIn column values => values = [] ∨ Takes reader column []
  | .joinAuthors | .page .. | .count => True

instance (reader : Reader) : DecidablePred (Matched reader)
  | .require condition args => inferInstanceAs (Decidable (Takes reader condition args))
  | .requireIn column values => inferInstanceAs (Decidable (values = [] ∨ Takes reader column []))
  | .joinAuthors => .isTrue trivial
  | .page .. => .isTrue trivial
  | .count => .isTrue trivial

end Call

/-- The statement that calls make of a new one. -/
def built (calls : List Call) : Statement :=
  calls.foldl Call.on {}

/-- The part of a statement from `FROM` to the last condition, each condition with its own
arguments. -/
def filledBody (reader : Reader) (joins : List String) (clauses : List (String × List Value)) :
    List (Char ⊕ Value) :=
  plainly (" FROM books b" ++ String.join (joins.map (" " ++ ·))) ++
    if clauses.isEmpty then []
    else plainly " WHERE " ++ List.intercalate (plainly " AND ")
      (clauses.map fun p => filled reader p.1 p.2)

variable {s : Statement} {calls : List Call} {call : Call}

/-- What calls make of any statement. -/
lemma foldl_on (s : Statement) (calls : List Call) :
    calls.foldl Call.on s =
      { joins := s.joins ++ if !s.authorsJoined ∧ .joinAuthors ∈ calls then authorJoins else []
        conditions := s.conditions ++ (calls.flatMap Call.clauses).map Prod.fst
        args := s.args ++ (calls.flatMap Call.clauses).flatMap Prod.snd
        authorsJoined := s.authorsJoined || decide (.joinAuthors ∈ calls) } := by
  induction calls generalizing s with
  | nil => simp
  | cons call rest ih =>
    rw [List.foldl_cons, ih]
    cases call with
    | joinAuthors =>
      cases joined : s.authorsJoined <;> simp [Call.on, Statement.joinAuthors, Call.clauses, joined]
    | require => simp [Call.on, Statement.require, Call.clauses]
    | requireIn column values =>
      by_cases none : values = []
      · simp [Call.on, Statement.requireIn, Call.clauses, none]
      · simp [Call.on, Statement.requireIn, Statement.require, Call.clauses, none]
    | page => simp [Call.on, Call.clauses]
    | count => simp [Call.on, Call.clauses]

/-! ## The two texts -/

/-- The conditions of a call take the arguments that are given with them. -/
lemma Call.Matched.takes (matched : call.Matched reader) :
    ∀ p ∈ call.clauses, Takes reader p.1 p.2 := by
  cases call with
  | require condition args => exact List.forall_mem_singleton.2 matched
  | requireIn column values =>
    rw [Call.clauses]
    split
    · exact nofun
    · next some =>
      refine List.forall_mem_singleton.2 ?_
      have name : Takes reader column [] :=
        matched.resolve_left fun none => some (List.isEmpty_iff.2 none)
      have before : Takes reader (column ++ " IN (") [] := name.append (takes_literal (by decide))
      have behind : Takes reader ")" [] := takes_literal (by decide)
      have whole := (before.append (takes_placeholders values)).append behind
      rwa [List.nil_append, List.append_nil] at whole
  | joinAuthors => exact nofun
  | page => exact nofun
  | count => exact nofun

/-- The part that both texts have takes the arguments of the conditions, each condition its own. -/
lemma filled_body {clauses : List (String × List Value)}
    (each : ∀ p ∈ clauses, Takes reader p.1 p.2)
    (joins : Takes reader (" FROM books b" ++ String.join (s.joins.map (" " ++ ·))) [])
    (conditions : s.conditions = clauses.map Prod.fst) (args : s.args = clauses.flatMap Prod.snd) :
    Takes reader s.body s.args ∧ filled reader s.body s.args =
      filledBody reader s.joins clauses := by
  rw [body, conditions, args, filledBody]
  by_cases none : clauses = []
  · subst none
    exact joins.behind takes_empty
  · have some : (clauses.map Prod.fst).isEmpty = false := by simpa using none
    have start : Takes reader " WHERE " [] := takes_literal (by decide)
    have between : Takes reader " AND " [] := takes_literal (by decide)
    obtain ⟨takes, whole⟩ := filled_intercalate between each
    obtain ⟨takes, condition⟩ := start.behind takes
    obtain ⟨takes, text⟩ := joins.behind takes
    rw [if_neg (by simp [some]), if_neg (by simpa using none)]
    exact ⟨takes, by rw [text, condition, whole]⟩

/-- The joins of a statement have no placeholders. -/
lemma takes_joins (joined : Bool) :
    Takes reader (" FROM books b" ++ String.join
      (([seriesJoin, genreJoin] ++ if joined then authorJoins else []).map (" " ++ ·))) [] := by
  have start : Takes reader " FROM books b" [] := takes_literal (by decide)
  have blank : Takes reader " " [] := takes_literal (by decide)
  have series : Takes reader seriesJoin [] := takes_literal (by decide)
  have genres : Takes reader genreJoin [] := takes_literal (by decide)
  have authors : ∀ join ∈ authorJoins, Takes reader join [] :=
    List.forall_mem_cons.2
      ⟨takes_literal (by decide), List.forall_mem_singleton.2 (takes_literal (by decide))⟩
  refine start.append (takes_join (List.forall_mem_map.2 fun join mem => blank.append ?_))
  rcases List.mem_append.1 mem with always | author
  · rcases List.mem_pair.1 always with rfl | rfl
    · exact series
    · exact genres
  · cases joined with
    | true => exact authors join author
    | false => cases author

/-- The columns take no arguments. -/
lemma takes_selectedColumns : Takes reader selectedColumns [] :=
  (((takes_literal (by decide)).append (takes_literal (by decide))).append
    (takes_literal (by decide))).append
    (takes_literal (by decide))

/-- The two placeholders behind the order of a page stand for its limit and its offset. -/
lemma filled_slice (limit offset : Value) : Takes reader " LIMIT ? OFFSET ?" [limit, offset] ∧
    filled reader " LIMIT ? OFFSET ?" [limit, offset] =
      plainly " LIMIT " ++ [.inr limit] ++ plainly " OFFSET " ++ [.inr offset] := by
  have parts : " LIMIT ? OFFSET ?" = " LIMIT " ++ "?" ++ " OFFSET " ++ "?" := by decide
  have first : Takes reader " LIMIT " [] := takes_literal (by decide)
  have second : Takes reader " OFFSET " [] := takes_literal (by decide)
  have upTo : Takes reader (" LIMIT " ++ "?") [limit] := first.append (takes_mark limit)
  have between : Takes reader (" LIMIT " ++ "?" ++ " OFFSET ") [limit] := upTo.append second
  rw [parts]
  refine ⟨between.append (takes_mark offset), ?_⟩
  calc filled reader (" LIMIT " ++ "?" ++ " OFFSET " ++ "?") ([limit] ++ [offset])
      = filled reader (" LIMIT " ++ "?" ++ " OFFSET ") ([limit] ++ []) ++
      filled reader "?" [offset] :=
      filled_append between _ _
    _ = filled reader (" LIMIT " ++ "?") ([] ++ [limit]) ++ filled reader " OFFSET " [] ++
          filled reader "?" [offset] := by
      rw [filled_append upTo]
      rfl
    _ = plainly " LIMIT " ++ [.inr limit] ++ plainly " OFFSET " ++ [.inr offset] := by
      rw [filled_append first, filled_nil, filled_nil, filled_mark, filled_mark]

/-- A count is its own front and the filled conditions. -/
lemma filled_count (body : Takes reader s.body s.args) : Takes reader s.count.text s.count.args ∧
    filled reader s.count.text s.count.args =
      plainly "SELECT COUNT(DISTINCT b.id)" ++ filled reader s.body s.args := by
  have start : Takes reader "SELECT COUNT(DISTINCT b.id)" [] := takes_literal (by decide)
  exact start.behind body

/-- The part of a page between its conditions and its limit. -/
def ordering (s : Statement) (order : String) : String :=
  (if s.authorsJoined then " GROUP BY b.id" else "") ++ " ORDER BY " ++ order

/-- A page is its own front, the filled conditions, the order, and the limit and offset in their
places. -/
lemma filled_page {order : String} (body : Takes reader s.body s.args)
    (ordered : Takes reader order []) (limit offset : Value) :
    Takes reader (s.page order limit offset).text (s.page order limit offset).args ∧
      filled reader (s.page order limit offset).text (s.page order limit offset).args =
        plainly ("SELECT " ++ selectedColumns) ++ filled reader s.body s.args ++
          plainly (s.ordering order) ++
          (plainly " LIMIT " ++ [.inr limit] ++ plainly " OFFSET " ++ [.inr offset]) := by
  have select : Takes reader "SELECT " [] := takes_literal (by decide)
  have start : Takes reader ("SELECT " ++ selectedColumns) [] := select.append takes_selectedColumns
  have group : Takes reader (if s.authorsJoined then " GROUP BY b.id" else "") [] := by
    split
    · exact takes_literal (by decide)
    · exact takes_empty
  have sorting : Takes reader " ORDER BY " [] := takes_literal (by decide)
  have middle : Takes reader (s.ordering order) [] := (group.append sorting).append ordered
  obtain ⟨slice, sliced⟩ := filled_slice limit offset
  obtain ⟨rest, behind⟩ := middle.behind slice
  obtain ⟨takes, whole⟩ := start.behind (body.append rest)
  have text : (s.page order limit offset).text =
      "SELECT " ++ selectedColumns ++ (s.body ++ (s.ordering order ++ " LIMIT ? OFFSET ?")) := by
    simp only [page, ordering, String.append_assoc]
  have args : (s.page order limit offset).args = s.args ++ [limit, offset] := rfl
  rw [text, args]
  refine ⟨takes, ?_⟩
  rw [whole, filled_append body, behind, sliced]
  simp only [List.append_assoc]

/-! ## The calls -/

/-- Writing a statement out does not change it. -/
lemma built_filter (calls : List Call) : built (calls.filter (!·.isRendering)) = built calls := by
  rw [built, built, List.foldl_filter]
  refine List.foldl_ext _ _ _ fun s call _ => ?_
  cases call <;> rfl

/-- **Both texts are in step.** Whatever calls have been made, in whatever order: the authors are
joined once if that was called for, and not otherwise. The conditions and the arguments are those of
the calls, in their order, and a column without values leaves no trace. Writing the statement out
does not change it. Page and count have the same part from `FROM` to the last condition. If every
condition was given with its arguments, both texts have as many placeholders as arguments, and the
arguments of each condition stand in its own placeholders, in their order; the limit and the offset
stand in those behind the order. That is so for who takes every question mark for a placeholder,
where nothing but their number matters, and for who minds quotes and comments. -/
theorem built_in_step (calls : List Call) :
    let s := built calls
    let clauses := calls.flatMap Call.clauses
    s.joins = [seriesJoin, genreJoin] ++ (if .joinAuthors ∈ calls then authorJoins else []) ∧
    s.authorsJoined = decide (.joinAuthors ∈ calls) ∧
    s.conditions = clauses.map Prod.fst ∧
    s.args = clauses.flatMap Prod.snd ∧
    built (calls.filter (!·.isRendering)) = s ∧
    s.count.text = "SELECT COUNT(DISTINCT b.id)" ++ s.body ∧
    (∀ order limit offset, (s.page order limit offset).text =
      "SELECT " ++ selectedColumns ++ s.body ++ (s.ordering order ++ " LIMIT ? OFFSET ?")) ∧
    (∀ condition args, (Call.require condition args).Matched .simple ↔
      marks condition = args.length) ∧
    ∀ reader, (∀ call ∈ calls, call.Matched reader) →
      Takes reader s.count.text s.count.args ∧
      filled reader s.count.text s.count.args =
        plainly "SELECT COUNT(DISTINCT b.id)" ++ filledBody reader s.joins clauses ∧
      ∀ order limit offset, Takes reader order [] →
        Takes reader (s.page order limit offset).text (s.page order limit offset).args ∧
        filled reader (s.page order limit offset).text (s.page order limit offset).args =
          plainly ("SELECT " ++ selectedColumns) ++ filledBody reader s.joins clauses ++
            plainly (s.ordering order) ++
            (plainly " LIMIT " ++ [.inr limit] ++ plainly " OFFSET " ++ [.inr offset]) := by
  intro s clauses
  have made : s = _ := foldl_on {} calls
  have joins :
      s.joins = [seriesJoin, genreJoin] ++ (if .joinAuthors ∈ calls then authorJoins else []) := by
    simp [made]
  have conditions : s.conditions = clauses.map Prod.fst := by simp [made, clauses]
  have args : s.args = clauses.flatMap Prod.snd := by simp [made, clauses]
  refine ⟨joins, by simp [made], conditions, args, built_filter calls, rfl,
    fun order limit offset => ?_, fun _ _ => takes_simple, fun reader matched => ?_⟩
  · simp only [page, ordering, String.append_assoc]
  · have each : ∀ p ∈ clauses, Takes reader p.1 p.2 := by
      intro p mem
      obtain ⟨call, listed, own⟩ := List.mem_flatMap.1 mem
      exact (matched call listed).takes p own
    have joined : Takes reader (" FROM books b" ++ String.join (s.joins.map (" " ++ ·))) [] := by
      have takes : Takes reader _ [] := takes_joins (decide (.joinAuthors ∈ calls))
      simp only [decide_eq_true_eq] at takes
      rwa [joins]
    obtain ⟨body, whole⟩ := filled_body each joined conditions args
    obtain ⟨count, counted⟩ := filled_count body
    refine ⟨count, whole ▸ counted, fun order limit offset ordered => ?_⟩
    obtain ⟨page, paged⟩ := filled_page body ordered limit offset
    exact ⟨page, whole ▸ paged⟩

/-- Calls of every kind, with a column without values and a question mark in quotes. -/
def someCalls : List Call :=
  [.joinAuthors, .require "b.year >= ?" [.integer 2000], .count, .requireIn "b.language" [],
    .joinAuthors, .require "b.title <> 'why?'" [], .page "b.title ASC" (.integer 10) (.integer 0),
    .requireIn "b.format" [.text "fb2", .text "epub"]]

/-- A question mark in quotes is no placeholder of theirs, and a column without values takes
nothing. -/
theorem some_calls_in_step :
    (∀ call ∈ someCalls, call.Matched .careful) ∧ Takes .careful "b.title ASC" [] ∧
      (built someCalls).joins = [seriesJoin, genreJoin] ++ authorJoins ∧
      (built someCalls).count.args = [.integer 2000, .text "fb2", .text "epub"] ∧
      Takes .careful ((built someCalls).page "b.title ASC" (.integer 10) (.integer 0)).text
        [.integer 2000, .text "fb2", .text "epub", .integer 10, .integer 0] := by
  have matched : ∀ call ∈ someCalls, call.Matched .careful := by decide +kernel
  have ordered : Takes .careful "b.title ASC" [] := takes_literal (by decide)
  obtain ⟨joins, -, -, args, -, -, -, -, filled⟩ := built_in_step someCalls
  obtain ⟨-, -, pages⟩ := filled .careful matched
  obtain ⟨page, -⟩ := pages "b.title ASC" (.integer 10) (.integer 0) ordered
  have called : Call.joinAuthors ∈ someCalls := List.mem_cons_self
  rw [if_pos called] at joins
  have given : (built someCalls).args = [.integer 2000, .text "fb2", .text "epub"] := args.trans rfl
  refine ⟨matched, ordered, joins, given, ?_⟩
  rwa [Statement.page, given] at page

end Statement

end BookCatalog
