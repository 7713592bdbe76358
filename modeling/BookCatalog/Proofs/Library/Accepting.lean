import BookCatalog.Proofs.Library.Clearing
import BookCatalog.Proofs.Library.Storing

/-!
# What a library accepts

A library that has its tables accepts every submission that lacks nothing and whose integers fit, as
long as nobody else writes; if an integer does not fit, it refuses the submission for that reason
alone. No constraint of the tables stands in the way: a name that is there already is looked up, a
book with the same id gives way, and whatever a row refers to has been written before it. The
central notions:

* `Transaction.Accepted`: statements that every library takes which is as a precondition says, and
  after which it is as a postcondition says.
* `Transaction.Refused`: statements that every such library refuses, for the same reason.
* `Library.Prepared`: the tables are there, and the remembered numbers are those of the tables.
* `Handed.obstacle?`: the first value of a book that cannot be bound.
* `Library.insertAll_obstacle`: how a batch of books ends that lack nothing, and
  `Library.insertAll_outcome` the same for submissions.
-/

namespace BookCatalog

/-- A listed book lacks nothing. -/
lemma Entry.complete_submission (e : Entry) : e.submission.Complete :=
  ⟨⟨e.title, rfl⟩, ⟨e.authors, rfl⟩⟩

namespace Transaction

variable {α β : Type} {action : Action} {pre : Library → Prop} {post mid : α → Library → Prop}
  {post' : β → Library → Prop}

/-- Statements that every library takes that is as `pre` says, and after which it is as `post`
says. -/
def Accepted (pre : Library → Prop) (t : Transaction α) (post : α → Library → Prop) : Prop :=
  ∀ lib, pre lib → ∃ a after, t.run lib = (.ok a, after) ∧ post a after

/-- Statements that every library refuses that is as `pre` says, always for the same reason. -/
def Refused (pre : Library → Prop) (t : Transaction α) (e : Failure) : Prop :=
  ∀ lib, pre lib → ∃ after, t.run lib = (.error e, after)

/-- What changes nothing is accepted. -/
lemma accepted_pure {a : α} (met : ∀ lib, pre lib → post a lib) :
    Accepted pre (pure a : Transaction α) post :=
  fun lib holds => ⟨a, lib, rfl, met lib holds⟩

/-- A sequence is accepted if its parts are, each as the parts before leave the tables. -/
lemma Accepted.bind {t : Transaction α} {f : α → Transaction β} (first : Accepted pre t mid)
    (rest : ∀ a, Accepted (mid a) (f a) post') : Accepted pre (t >>= f) post' := by
  intro lib holds
  obtain ⟨a, between, ran, holds'⟩ := first lib holds
  obtain ⟨b, after, ran', holds''⟩ := rest a between holds'
  exact ⟨b, after, run_bind_eq_ok.2 ⟨a, between, ran, ran'⟩, holds''⟩

/-- A sequence is refused if its first part is. -/
lemma Refused.bind {t : Transaction α} {e : Failure} (refused : Refused pre t e)
    (f : α → Transaction β) : Refused pre (t >>= f) e := by
  intro lib holds
  obtain ⟨after, ran⟩ := refused lib holds
  exact ⟨after, by rw [run_bind, ran]⟩

/-- A sequence is refused if its second part is, after a first one that is accepted. -/
lemma Accepted.bind_refused {t : Transaction α} {f : α → Transaction β} {e : Failure}
    (first : Accepted pre t mid) (rest : ∀ a, Refused (mid a) (f a) e) :
    Refused pre (t >>= f) e := by
  intro lib holds
  obtain ⟨a, between, ran, holds'⟩ := first lib holds
  obtain ⟨after, ran'⟩ := rest a between holds'
  refine ⟨after, ?_⟩
  rw [run_bind, ran]
  exact ran'

/-- A change is accepted if every library takes it. -/
lemma accepted_change {statement : Library → Except EngineError Library}
    {post : Unit → Library → Prop}
    (takes : ∀ lib, pre lib → ∃ after, statement lib = .ok after ∧ post () after) :
    Accepted pre (change action statement) post := by
  intro lib holds
  obtain ⟨after, ok, holds'⟩ := takes lib holds
  exact ⟨(), after, run_change_eq_ok.2 ok, holds'⟩

/-- A check is accepted if every library passes it. -/
lemma accepted_check {need : Library → Except EngineError Unit}
    (met : ∀ lib, pre lib → need lib = .ok ()) :
    Accepted pre (check action need) fun _ => pre :=
  fun lib holds => ⟨(), lib, run_check_eq_ok.2 ⟨met lib holds, rfl⟩, holds⟩

/-- What fails at once is refused. -/
lemma refused_throw {e : Failure} : Refused pre (throw e : Transaction α) e :=
  fun lib _ => ⟨lib, rfl⟩

/-- Statements that may meet an obstacle: without one every library takes them that is as `pre`
says, and with one every such library refuses them for it. -/
def Obstructed (pre : Library → Prop) (t : Transaction α) (obstacle : Option Failure)
    (post : α → Library → Prop) : Prop :=
  match obstacle with
  | none => Accepted pre t post
  | some e => Refused pre t e

/-- The first obstacle decides. -/
lemma Obstructed.bind {t : Transaction α} {f : α → Transaction β} {first second : Option Failure}
    (obstructed : Obstructed pre t first mid) (rest : ∀ a, Obstructed (mid a) (f a) second post') :
    Obstructed pre (t >>= f) (first.or second) post' := by
  cases first with
  | some e => exact Refused.bind obstructed f
  | none =>
    cases second with
    | some e => exact Accepted.bind_refused obstructed rest
    | none => exact Accepted.bind obstructed rest

/-- Statements that are accepted may stand in front of an obstacle. -/
lemma Accepted.bind_obstructed {t : Transaction α} {f : α → Transaction β}
    {obstacle : Option Failure} (first : Accepted pre t mid)
    (rest : ∀ a, Obstructed (mid a) (f a) obstacle post') :
    Obstructed pre (t >>= f) obstacle post' := by
  have free : Obstructed pre t none mid := first
  exact free.bind rest

/-- Statements that are accepted may stand behind an obstacle. -/
lemma Obstructed.bind_accepted {t : Transaction α} {f : α → Transaction β}
    {obstacle : Option Failure} (obstructed : Obstructed pre t obstacle mid)
    (rest : ∀ a, Accepted (mid a) (f a) post') :
    Obstructed pre (t >>= f) obstacle post' := by
  have free : ∀ a, Obstructed (mid a) (f a) none post' := rest
  have met := obstructed.bind free
  rwa [Option.or_none] at met

/-- Of statements for each item of a list, the first one with an obstacle decides. -/
lemma obstructed_foldlM {holds : β → Library → Prop} {f : β → α → Transaction β}
    {obstacle : α → Option Failure} (step : ∀ b a, Obstructed (holds b) (f b a) (obstacle a) holds)
    (as : List α) (b : β) : Obstructed (holds b) (as.foldlM f b) (as.findSome? obstacle) holds := by
  induction as generalizing b with
  | nil => exact accepted_pure fun _ holds => holds
  | cons a as ih =>
    have met := (step b a).bind fun b => ih b
    rw [List.foldlM_cons, List.findSome?_cons]
    cases own : obstacle a with
    | none => rwa [own] at met
    | some e => rwa [own] at met

/-- It makes no difference to what holds all along whether statements are left out. -/
lemma Accepted.skipIf {t : Transaction Unit} (accepted : Accepted pre t fun _ => pre)
    (needless : Bool) :
    Accepted pre (skipIf needless t) fun _ => pre := by
  cases needless with
  | true => exact accepted_pure fun _ holds => holds
  | false => exact accepted

end Transaction

namespace Handed

/-- Why a book that lacks nothing cannot be stored, by the first of its values that cannot be bound:
its series and its genre come before its row, and its authors after it. -/
def obstacle? (h : Handed) : Option Failure :=
  (refusedText? h.series).or ((refusedText? h.genre).or
    (h.refusal?.or ((h.authors.getD []).findSome? refusedText?)))

/-- Nothing but an integer keeps a submission from being stored that lacks nothing. -/
lemma obstacle?_handed (s : Submission) :
    s.handed.obstacle? = if s.fits then none else some .integerTooLarge := by
  have series : refusedText? s.handed.series = none := refusedText?_ofText s.series
  have genre : refusedText? s.handed.genre = none := refusedText?_ofText s.genre
  have given : s.handed.authors.getD [] = (s.authors.getD []).map (·.map .ofText) := by
    cases named : s.authors <;> simp [Submission.handed, named]
  have authors : (s.handed.authors.getD []).findSome? refusedText? = none := by
    rw [given, List.findSome?_map]
    exact List.findSome?_eq_none_iff.2 fun name _ => refusedText?_ofText name
  rw [obstacle?, series, genre, authors, refusal?_handed]
  cases s.fits <;> rfl

end Handed

namespace Dimension

variable {d : Dimension}

/-- The number of a name is one that a row may keep. -/
lemma holds_of_idOf? {name : String} {id : Int} (found : d.idOf? name = some id) :
    d.holds (some id) = true :=
  List.any_eq_true.2 ⟨_, mem_of_idOf? found, decide_eq_true rfl⟩

/-- A number that a row may keep stays one when a name is added. -/
lemma holds_add {id : Option Int} (there : d.holds id = true) (name : String) :
    (d.add name).holds id = true := by
  cases id with
  | none => rfl
  | some id =>
    obtain ⟨r, mem, same⟩ := List.any_eq_true.1 there
    exact List.any_eq_true.2 ⟨r, List.mem_append_left _ mem, same⟩

end Dimension

namespace Library

open Transaction

variable {lib after : Library} {ctx : WriteContext} {action : Action} {known : KnownNames}
  {kind : Kind} {s : Submission} {h : Handed} {holds : Library → Prop}

/-- The tables are there, and the remembered numbers are those of the tables. -/
structure Prepared (known : KnownNames) (lib : Library) : Prop where
  ready : lib.Ready
  known : known.Valid lib

/-- A book with an id is there. -/
def Shelves (lib : Library) (id : String) : Prop :=
  lib.books.any (·.id = id) = true

/-- The tables are prepared for the authors of a book that has been written. -/
def Awaits (id : String) (known : KnownNames) (lib : Library) : Prop :=
  lib.Prepared known ∧ lib.Shelves id

/-- What holds of a library goes on to hold when a name is added. -/
def Lasting (holds : Library → Prop) : Prop :=
  ∀ lib kind name, holds lib → holds (lib.withName? kind name)

/-! ## References -/

/-- The number of a name is the number of a row. -/
lemma holds_idOf? (lib : Library) (kind : Kind) (name : Option String) :
    (lib.names kind).holds (lib.idOf? kind name) = true := by
  cases found : lib.idOf? kind name with
  | none => rfl
  | some id =>
    unfold idOf? at found
    split at found
    case h_1 => cases found
    case h_2 => cases found
    case h_3 => exact Dimension.holds_of_idOf? found

/-- A name that is added leaves the rows of all names. -/
lemma lasting_holds (kind : Kind) (id : Option Int) : Lasting fun lib =>
    (lib.names kind).holds id = true := by
  intro lib kind' name there
  unfold withName? withName
  split
  case h_1 => exact there
  case h_2 => exact there
  case h_3 =>
    split
    case isTrue => exact there
    case isFalse =>
      rw [names_withNames]
      split
      case isTrue same =>
        subst same
        exact Dimension.holds_add there _
      case isFalse => exact there

/-- A book that is there stays there when names are added. -/
lemma lasting_shelves (id : String) : Lasting fun lib => lib.Shelves id := by
  intro lib kind name there
  rwa [Shelves, withName?_books]

/-- A book that has been written is there. -/
lemma shelves_putBook (lib : Library) (b : StoredBook) : (lib.putBook b).Shelves b.id := by
  rw [Shelves, putBook]
  split <;> simp

/-- Tables stay prepared if only books, links and the index change. -/
lemma Prepared.of_names (prepared : lib.Prepared known) (objects : after.objects = lib.objects)
    (names : ∀ kind, after.names kind = lib.names kind) : after.Prepared known :=
  ⟨prepared.ready.of_objects objects, prepared.known.of_names names⟩

/-! ## Statements -/

/-- The tables of names are among those that are emptied. -/
lemma mem_clearOrder_kind (kind : Kind) : kind.table ∈ clearOrder := by
  cases kind <;> decide

/-- The statement for a name succeeds whether or not the name is there. -/
lemma nameId_ready (unlocked : ctx.locked = false) (ready : lib.Ready) (kind : Kind)
    (name : String) :
    ∃ id after, nameId ctx kind name lib = .ok (id, after) := by
  have writable := needTables_ready ready (mem_clearOrder_kind kind)
  have free := needUnlocked_eq_ok.2 unlocked
  cases found : (lib.names kind).idOf? name with
  | none =>
    refine ⟨(lib.names kind).lastId + 1, lib.withNames kind ((lib.names kind).add name), ?_⟩
    simp only [nameId, insertName, writable, free, found]
    rfl
  | some id =>
    -- adding it is refused, and it is looked up instead
    refine ⟨id, lib, ?_⟩
    simp only [nameId, insertName, writable, free, found]
    rfl

/-- The name of a kind is bound if it has a form in UTF-8. -/
lemma bindName_obstructed (ready : ∀ lib, holds lib → lib.Ready) (action : Action) (kind : Kind)
    (name : Option Given) :
    Obstructed holds (bindName action kind name) (refusedText? name) fun _ => holds := by
  rw [bindName]
  cases refusedText? name with
  | none => exact accepted_pure fun _ there => there
  | some refusal =>
    have checked : Accepted holds (check action (·.needTables [kind.table])) fun _ => holds :=
      accepted_check fun lib there => needTables_ready (ready lib there) (mem_clearOrder_kind kind)
    exact checked.bind_refused fun _ => refused_throw

/-- A statement on rows succeeds, and what depends neither on these rows nor on others holds after
it. -/
lemma changeRows_accepted {t : Table} {f : Library → Library} (mem : t ∈ clearOrder)
    (ready : ∀ lib, holds lib → lib.Ready) (keep : ∀ lib, holds lib → holds (f lib)) :
    Accepted holds (change action (changeRows t f)) fun _ => holds := by
  apply accepted_change
  intro lib there
  exact ⟨f lib, bind_eq_ok.2 ⟨(), needWritable_ready (ready lib there) mem, rfl⟩, keep lib there⟩

/-- An author is added whose book and whose name are there. -/
lemma addLink_accepted {bookId : String} {id : Int} :
    Accepted (fun lib => lib.Awaits bookId known ∧ lib.authors.holds (some id) = true)
      (change action (addLink ⟨bookId, id⟩)) fun _ => Awaits bookId known := by
  apply accepted_change
  rintro lib ⟨⟨prepared, shelved⟩, named⟩
  have writable : lib.needWritable .bookAuthors = .ok () :=
    needWritable_ready prepared.ready (by decide)
  have grounded : lib.linkGrounded ⟨bookId, id⟩ = true := Bool.and_eq_true_iff.2 ⟨shelved, named⟩
  refine ⟨lib.withLink ⟨bookId, id⟩, bind_eq_ok.2 ⟨(), writable, ?_⟩, ?_, ?_⟩
  · rw [withLink, grounded]
    split <;> rfl
  · exact prepared.of_names (withLink_objects _ _) (withLink_names _ _)
  · rwa [Shelves, withLink_books]

/-! ## A book -/

/-- A name is resolved, and its number is the number of a row from then on. -/
lemma resolve?_accepted (unlocked : ctx.locked = false) (lasting : Lasting holds)
    (name : Option String) :
    Accepted (fun lib => lib.Prepared known ∧ holds lib) (resolve? ctx action known kind name)
      fun resolved lib => (lib.Prepared resolved.2 ∧ holds lib) ∧
      (lib.names kind).holds resolved.1 = true := by
  intro lib ⟨prepared, there⟩
  have takes : ∃ resolved after, (resolve? ctx action known kind name).run lib =
      (.ok resolved, after) := by
    unfold resolve?
    split
    case h_1 => exact ⟨_, _, rfl⟩
    case h_2 => exact ⟨_, _, rfl⟩
    case h_3 name _ =>
      rw [resolve]
      split
      case h_1 => exact ⟨_, _, rfl⟩
      case h_2 =>
        obtain ⟨id, after, ok⟩ := nameId_ready unlocked prepared.ready kind name
        exact ⟨_, _,
          run_bind_eq_ok.2 ⟨_, _, run_bind_eq_ok.2 ⟨_, _, run_execute_eq_ok.2 ok, rfl⟩, rfl⟩⟩
  obtain ⟨⟨id, known'⟩, after, ran⟩ := takes
  obtain ⟨rfl, rfl, valid⟩ := resolve?_eq_ok prepared.known ran
  have ready := prepared.ready.of_objects (withName?_objects lib kind name)
  exact ⟨_, _, ran, ⟨⟨ready, valid⟩, lasting lib kind name there⟩, holds_idOf? _ kind name⟩

/-- An author is added to a book that has been written. -/
lemma addAuthor_accepted (unlocked : ctx.locked = false) (bookId : String) (known : KnownNames)
    (name : Option String) :
    Accepted (Awaits bookId known) (addAuthor ctx bookId known name) (Awaits bookId) := by
  refine (resolve?_accepted unlocked (lasting_shelves bookId) name).bind fun ⟨id, known⟩ => ?_
  cases id with
  | none => exact accepted_pure fun _ => And.left
  | some id => exact addLink_accepted.bind fun _ => accepted_pure fun _ awaits => awaits

/-- Authors that are all texts can be joined. -/
lemma joinedAuthors_texts (names : List String) :
    ∃ joined, joinedAuthors (names.map some) = .ok joined := by
  have texts : (names.map some).findIdx? Option.isNone = none :=
    List.findIdx?_eq_none_iff.2 (by simp)
  rw [joinedAuthors, texts]
  exact ⟨_, rfl⟩

/-- The tables are prepared for a book whose series and genre are there. -/
def Grounds (seriesId genreId : Option Int) (known : KnownNames) (lib : Library) : Prop :=
  (lib.Prepared known ∧ lib.series.holds seriesId = true) ∧ lib.genres.holds genreId = true

/-- The tables that a row of a book refers to are there. -/
lemma checked_accepted {seriesId genreId : Option Int} :
    Accepted (Grounds seriesId genreId known) (check action (·.needWritable .books)) fun _ =>
      Grounds seriesId genreId known :=
  accepted_check fun _ there => needWritable_ready there.1.1.ready (by decide)

/-- The row of a book with a title is written if its integers fit. -/
lemma writeBook_accepted (unlocked : ctx.locked = false) (titled : ∃ title, s.title = some title)
    (fits : s.fits = true) (seriesId genreId : Option Int) :
    Accepted (Grounds seriesId genreId known) (writeBook ctx s seriesId genreId) fun _ =>
      Awaits s.id known := by
  refine checked_accepted.bind fun _ => ?_
  rw [if_pos fits]
  apply accepted_change
  rintro lib ⟨⟨prepared, series⟩, genre⟩
  obtain ⟨title, titled⟩ := titled
  obtain ⟨b, row⟩ : ∃ b, s.stored? seriesId genreId ctx.now = some b := by
    rw [Submission.stored?, titled]
    exact ⟨_, rfl⟩
  have own : b.id = s.id ∧ b.seriesId = seriesId ∧ b.genreId = genreId := by
    obtain ⟨_, _, rfl⟩ := Option.map_eq_some_iff.1 row
    exact ⟨rfl, rfl, rfl⟩
  have grounded : lib.bookGrounded b = true := by
    rw [bookGrounded, own.2.1, own.2.2, series, genre]
    rfl
  refine ⟨lib.putBook b, ?_, ?_, ?_⟩
  · simp only [needUnlocked_eq_ok.2 unlocked, row, grounded]
    rfl
  · exact prepared.of_names (putBook_objects lib b) (putBook_names lib b)
  · exact own.1 ▸ shelves_putBook lib b

/-- A row with an integer that does not fit is refused. -/
lemma writeBook_refused (tooLarge : s.fits = false) (seriesId genreId : Option Int) :
    Refused (Grounds seriesId genreId known)
    (writeBook ctx s seriesId genreId) .integerTooLarge := by
  refine checked_accepted.bind_refused fun _ => ?_
  rw [tooLarge, if_neg Bool.false_ne_true]
  exact fun lib _ => ⟨lib, rfl⟩

/-- The old authors of a book are deleted. -/
lemma removeLinks_accepted (bookId : String) :
    Accepted (Awaits bookId known) (change action (removeLinks bookId)) fun _ =>
      Awaits bookId known :=
  changeRows_accepted (by decide) (fun _ awaits => awaits.1.ready) fun _ ⟨prepared, shelved⟩ =>
    ⟨prepared.of_names rfl (names_withoutLinks _ bookId), shelved⟩

/-- The old index rows of a book are deleted. -/
lemma removeIndexed_accepted (bookId : String) :
    Accepted (Awaits bookId known) (change action (removeIndexed bookId)) fun _ =>
      Awaits bookId known :=
  changeRows_accepted (by decide) (fun _ awaits => awaits.1.ready) fun _ ⟨prepared, shelved⟩ =>
    ⟨prepared.of_names rfl (names_eq rfl rfl rfl), shelved⟩

/-- An index row is added. -/
lemma addIndexed_accepted (bookId : String) (row : Index.Row) :
    Accepted (Awaits bookId known) (change action (addIndexed row)) fun _ => Awaits bookId known :=
  changeRows_accepted (by decide) (fun _ awaits => awaits.1.ready) fun _ ⟨prepared, shelved⟩ =>
    ⟨prepared.of_names rfl (names_eq rfl rfl rfl), shelved⟩

/-- The name of a series is looked up or added, and its number is one that a row may keep. -/
lemma series_accepted (unlocked : ctx.locked = false) (name : Option String) :
    Accepted (Prepared known) (resolve? ctx action known .series name)
      fun resolved lib => lib.Prepared resolved.2 ∧ lib.series.holds resolved.1 = true := by
  intro lib prepared
  have always : Lasting fun _ => True := fun _ _ _ _ => trivial
  obtain ⟨resolved, after, ran, ⟨prepared', -⟩, named⟩ :=
    resolve?_accepted unlocked always name lib ⟨prepared, trivial⟩
  exact ⟨resolved, after, ran, prepared', named⟩

/-- The series is still there when the genre has been resolved. -/
lemma genre_accepted {seriesId : Option Int} (unlocked : ctx.locked = false)
    (name : Option String) :
    Accepted (fun lib => lib.Prepared known ∧ lib.series.holds seriesId = true)
      (resolve? ctx action known .genres name) fun resolved =>
        Grounds seriesId resolved.1 resolved.2 :=
  resolve?_accepted unlocked (lasting_holds .series seriesId) name

/-- The row of a book with a title is written unless one of its values cannot be bound. -/
lemma row_obstructed (unlocked : ctx.locked = false)
    (titled : ∃ title, h.submission.title = some title) (seriesId genreId : Option Int) :
    Obstructed (Grounds seriesId genreId known)
      (bindRow h >>= fun _ => writeBook ctx h.submission seriesId genreId) h.refusal? fun _ =>
        Awaits h.submission.id known := by
  rcases h.refusal?_cases with ⟨none, fits⟩ | ⟨fault, some⟩ | ⟨some, tooLarge⟩
  · rw [bindRow, none]
    exact writeBook_accepted unlocked titled fits seriesId genreId
  · rw [bindRow, some]
    exact (checked_accepted.bind_refused fun _ => refused_throw).bind _
  · rw [bindRow, some]
    exact writeBook_refused tooLarge seriesId genreId

/-- An author is added unless the name cannot be bound. -/
lemma addGivenAuthor_obstructed (unlocked : ctx.locked = false) (bookId : String)
    (known : KnownNames) (name : Option Given) :
    Obstructed (Awaits bookId known) (addGivenAuthor ctx bookId known name) (refusedText? name)
      (Awaits bookId) :=
  (bindName_obstructed (fun _ awaits => awaits.1.ready) _ _ _).bind_accepted fun _ =>
    addAuthor_accepted unlocked bookId known _

/-- A book that lacks nothing is stored unless one of its values cannot be bound. -/
lemma insert_obstructed (unlocked : ctx.locked = false) (complete : h.submission.Complete)
    (fresh : Bool) (known : KnownNames) :
    Obstructed (Prepared known) (insert ctx fresh known h) h.obstacle? Prepared := by
  obtain ⟨names, texts⟩ := complete.authors
  obtain ⟨authors, given, shown⟩ := Option.map_eq_some_iff.1 texts
  obtain ⟨joined, all⟩ := joinedAuthors_texts names
  rw [← shown] at all
  have own : Handing.handed h = h := rfl
  rw [insert, own, Handed.obstacle?, given]
  refine (bindName_obstructed (fun _ prepared => prepared.ready) _ _ _).bind fun _ => ?_
  refine (series_accepted unlocked _).bind_obstructed fun series => ?_
  refine (bindName_obstructed (fun _ there => there.1.ready) _ _ _).bind fun _ => ?_
  refine (genre_accepted unlocked _).bind_obstructed fun genre => ?_
  dsimp only [Option.getD_some]
  rw [← bind_assoc]
  refine (row_obstructed unlocked complete.title _ _).bind fun _ => ?_
  refine ((removeLinks_accepted _).skipIf _).bind_obstructed fun _ => ?_
  refine (obstructed_foldlM (addGivenAuthor_obstructed unlocked _) _ _).bind_accepted fun _ => ?_
  refine ((removeIndexed_accepted _).skipIf _).bind fun _ => ?_
  rw [all]
  exact (addIndexed_accepted _ _).bind fun _ => accepted_pure fun _ => And.left

/-! ## A batch -/

/-- The rest of a batch is stored up to the first value that cannot be bound. -/
lemma insertRest_obstacle {β : Type} [Handing β] {interval total : Nat} {fresh : Bool}
    {batch : Batch} {rest : List β} (unlocked : ctx.locked = false)
    (prepared : batch.tables.Prepared batch.known)
    (complete : ∀ b ∈ rest, (Handing.handed b).submission.Complete) :
    (insertRest ctx interval total fresh batch rest).outcome =
      (rest.findSome? fun b => (Handing.handed b).obstacle?).elim (.ok ()) .error := by
  induction rest generalizing batch with
  | nil => rfl
  | cons b rest ih =>
    obtain ⟨first, others⟩ := List.forall_mem_cons.1 complete
    have met := insert_obstructed unlocked first
      (batch.isNew fresh (Handing.handed b).id.text) batch.known
    have own : insert ctx (batch.isNew fresh (Handing.handed b).id.text) batch.known
          (Handing.handed b) =
        insert ctx (batch.isNew fresh (Handing.handed b).id.text) batch.known b := rfl
    rw [insertRest, List.findSome?_cons]
    cases obstacle : (Handing.handed b).obstacle? with
    | none =>
      rw [obstacle] at met
      obtain ⟨known, after, ran, prepared'⟩ := met _ prepared
      rw [← own, ran]
      exact ih prepared' others
    | some e =>
      rw [obstacle] at met
      obtain ⟨after, ran⟩ := met _ prepared
      rw [← own, ran]
      rfl

/-- A batch of books that lack nothing is stored if all their values can be bound, and otherwise
fails because of the first that cannot. -/
theorem insertAll_obstacle {β : Type} [Handing β] {interval : Nat} {fresh : Bool} {batch : List β}
    (unlocked : ctx.locked = false) (ready : lib.Ready)
    (complete : ∀ b ∈ batch, (Handing.handed b).submission.Complete) :
    (insertAll ctx interval lib fresh batch).outcome =
      (batch.findSome? fun b => (Handing.handed b).obstacle?).elim (.ok ()) .error :=
  insertRest_obstacle unlocked ⟨ready, KnownNames.valid_nil lib⟩ complete

/-- A batch of submissions that lack nothing is stored if all their integers fit, and otherwise
fails because of an integer. -/
theorem insertAll_outcome {interval : Nat} {fresh : Bool} {batch : List Submission}
    (unlocked : ctx.locked = false) (ready : lib.Ready) (complete : ∀ s ∈ batch, s.Complete) :
    (insertAll ctx interval lib fresh batch).outcome =
      if batch.all Submission.fits then .ok () else .error .integerTooLarge := by
  have own : ∀ s : Submission, (Handing.handed s).submission = s := Submission.submission_handed
  rw [insertAll_obstacle unlocked ready fun s mem => (own s).symm ▸ complete s mem]
  clear complete
  induction batch with
  | nil => rfl
  | cons s rest ih =>
    have obstacle : (Handing.handed s).obstacle? = if s.fits then none else some .integerTooLarge :=
      Handed.obstacle?_handed s
    rw [List.findSome?_cons, List.all_cons, obstacle]
    cases s.fits with
    | true => exact ih
    | false => rfl

end Library

end BookCatalog
