import BookCatalog.Library.Batch
import Mathlib.Data.List.ReduceOption

/-!
# Books of characters

A text of characters can be bound as it is. So a submission, whose texts are all of characters, is
stored without anything being asked of its texts (`Library.insert_eq`), and only its integers may
not fit (`Handed.refusal?_handed`). Every book whose texts are of characters is such a submission
(`Handed.handed_submission`).
-/

namespace BookCatalog

namespace Given

/-- A text of characters has no halves to be replaced. -/
@[simp] lemma text_ofText (s : String) : (ofText s).text = s := by
  have shown : (s.toList.map Symbol.char).map Symbol.shown = s.toList := by
    rw [List.map_map]
    exact List.map_id _
  rw [text, ofText, shown, String.ofList_toList]

/-- A text is one of characters. -/
def Encodable (g : Given) : Prop :=
  ∀ s ∈ g.symbols, s.isHalf = false

/-- A text of characters is one of characters when it is handed over. -/
lemma encodable_ofText (s : String) : (ofText s).Encodable := by
  intro symbol mem
  obtain ⟨c, -, rfl⟩ := List.mem_map.1 mem
  rfl

/-- There is no fault in symbols without halves, wherever they stand. -/
lemma faultFrom_eq_none_iff {position : Nat} {symbols : List Symbol} :
    faultFrom position symbols = none ↔ ∀ s ∈ symbols, s.isHalf = false := by
  induction symbols generalizing position with
  | nil => simp [faultFrom]
  | cons s rest ih => cases s <;> simp [faultFrom, ih, Symbol.isHalf]

/-- The texts that have a form in UTF-8 are those of characters. -/
lemma fault?_eq_none_iff {g : Given} : g.fault? = none ↔ g.Encodable :=
  faultFrom_eq_none_iff

@[simp] lemma fault?_ofText (s : String) : (ofText s).fault? = none :=
  fault?_eq_none_iff.2 (encodable_ofText s)

/-- In a text of characters there is nothing to be replaced. -/
lemma ofText_text {g : Given} (encodable : g.Encodable) : ofText g.text = g := by
  have back : (g.symbols.map Symbol.shown).map Symbol.char = g.symbols := by
    rw [List.map_map]
    refine (List.map_congr_left fun s mem => ?_).trans (List.map_id _)
    cases s with
    | char c => rfl
    | half n => exact nomatch encodable _ mem
  rw [ofText, text, String.toList_ofList, back]

/-- The same for a text that may be missing. -/
lemma map_ofText_text {text : Option Given} (encodable : ∀ g ∈ text, g.Encodable) :
    (text.map Given.text).map ofText = text := by
  cases text with
  | none => rfl
  | some g => exact congrArg some (ofText_text (encodable g rfl))

end Given

/-- A text of characters can be bound, and so can a text that is missing. -/
@[simp] lemma refusedText?_ofText (text : Option String) :
    refusedText? (text.map .ofText) = none := by
  cases text <;> simp [refusedText?]

/-- A text always fits a column. -/
lemma Value.fits_ofText? (text : Option String) : (Value.ofText? text).fits = true := by
  cases text <;> rfl

/-- A number fits a column if it has 64 bits, and so does a missing one. -/
lemma Value.fits_ofInt? (n : Option Int) : (Value.ofInt? n).fits = n.all fitsColumn := by
  cases n <;> rfl

namespace Submission

/-- A submission fits if its four integers do. -/
lemma fits_eq (s : Submission) :
    s.fits = [s.seriesNum, s.year, s.fileSize, s.rating].all fun n => n.all fitsColumn := by
  have text : (Value.text s.id).fits = true := rfl
  simp only [fits, values, List.all_cons, List.all_nil, text, Value.fits_ofText?, Value.fits_ofInt?,
    Option.all_none, Bool.and_true, Bool.true_and]

/-- Handing a submission over loses nothing. -/
@[simp] lemma submission_handed (s : Submission) : s.handed.submission = s := by
  simp [handed, Handed.submission, Function.comp_def]

end Submission

namespace Handed

/-- The texts of a book. -/
def texts (h : Handed) : List Given :=
  [some h.id, h.title, h.series, h.genre, h.language, h.archivePath, h.fileNum, h.format,
    h.annotation].reduceOption ++ (h.authors.getD []).reduceOption

/-- All texts of a book are of characters. -/
def Encodable (h : Handed) : Prop :=
  ∀ g ∈ h.texts, g.Encodable

end Handed

/-- The texts of a submission are of characters. -/
lemma Submission.encodable_handed (s : Submission) : s.handed.Encodable := by
  have listed : s.handed.texts =
    ([some s.id, s.title, s.series, s.genre, s.language, s.archivePath, s.fileNum,
      s.format, s.annotation].map (·.map .ofText)).reduceOption ++
        ((s.authors.getD []).map (·.map .ofText)).reduceOption := by
    rw [Handed.texts, handed]
    cases s.authors <;> rfl
  rw [Handed.Encodable, listed, List.reduceOption_map, List.reduceOption_map, ← List.map_append]
  intro g mem
  obtain ⟨t, -, rfl⟩ := List.mem_map.1 mem
  exact Given.encodable_ofText t

namespace Handed

/-- A book whose texts are of characters is a submission. -/
lemma handed_submission {h : Handed} (encodable : h.Encodable) : h.submission.handed = h := by
  have listed : ∀ text ∈ [some h.id, h.title, h.series, h.genre, h.language, h.archivePath,
      h.fileNum, h.format, h.annotation], (text.map Given.text).map .ofText = text := by
    intro text mem
    refine Given.map_ofText_text fun g own => encodable g (List.mem_append_left _ ?_)
    exact List.reduceOption_mem_iff.2 (own ▸ mem)
  have named : ∀ name ∈ h.authors.getD [], (name.map Given.text).map .ofText = name := by
    intro name mem
    refine Given.map_ofText_text fun g own => encodable g (List.mem_append_right _ ?_)
    exact List.reduceOption_mem_iff.2 (own ▸ mem)
  have authors : (h.authors.map (·.map (·.map Given.text))).map (·.map (·.map .ofText)) =
      h.authors := by
    cases given : h.authors with
    | none => rfl
    | some names =>
      rw [given] at named
      simp only [Option.map_some, List.map_map, Option.some.injEq]
      exact (List.map_congr_left named).trans (List.map_id _)
  have id := listed (some h.id) (by simp)
  simp only [Option.map_some, Option.some.injEq] at id
  simp only [submission, Submission.handed, id, authors, listed h.title (by simp),
    listed h.series (by simp), listed h.genre (by simp), listed h.language (by simp),
    listed h.archivePath (by simp), listed h.fileNum (by simp), listed h.format (by simp),
    listed h.annotation (by simp)]

/-- A number is refused if it does not fit. -/
lemma refusedInt?_eq (n : Option Int) :
    refusedInt? n = bif n.all fitsColumn then none else some .integerTooLarge := by
  rw [refusedInt?, Bool.cond_eq_ite]

/-- The row of a submission can be bound if its integers fit. -/
lemma refusal?_handed (s : Submission) :
    s.handed.refusal? = if s.fits then none else some .integerTooLarge := by
  have id : refusedText? (some (Given.ofText s.id)) = none := refusedText?_ofText (some s.id)
  simp only [refusal?, Submission.handed, refusedText?_ofText, id, refusedInt?_eq, s.fits_eq,
    List.all_cons, List.all_nil, Bool.and_true, ← Bool.cond_eq_ite]
  -- only the four integers are left
  generalize s.seriesNum.all fitsColumn = seriesNum, s.year.all fitsColumn = year,
    s.fileSize.all fitsColumn = fileSize, s.rating.all fitsColumn = rating
  revert seriesNum year fileSize rating
  decide

/-- Why a text cannot be bound: it has no form in UTF-8. -/
lemma notUtf8_of_refusedText? {text : Option Given} {e : Failure}
    (refused : refusedText? text = some e) :
    ∃ fault, e = .notUtf8 fault := by
  obtain ⟨fault, -, rfl⟩ := Option.map_eq_some_iff.1 refused
  exact ⟨fault, rfl⟩

/-- Why an integer cannot be bound: it does not fit. -/
lemma integerTooLarge_of_refusedInt? {n : Option Int} {e : Failure}
    (refused : refusedInt? n = some e) :
    e = .integerTooLarge ∧ n.all fitsColumn = false := by
  rw [refusedInt?] at refused
  split at refused
  case isTrue => cases refused
  case isFalse tooLarge =>
    cases refused
    exact ⟨rfl, by simpa using tooLarge⟩

/-- A book fits if its four integers do. -/
lemma fits_submission (h : Handed) :
    h.submission.fits =
      [h.seriesNum, h.year, h.fileSize, h.rating].all fun n => n.all fitsColumn :=
  h.submission.fits_eq

/-- If the row of a book can be bound, its integers fit. -/
lemma fits_of_refusal? {h : Handed} (free : h.refusal? = none) : h.submission.fits = true := by
  have all := List.findSome?_eq_none_iff.1 free
  refine h.fits_submission.trans (List.all_eq_true.2 fun n mem => ?_)
  have free : refusedInt? n = none := by
    refine all _ ?_
    revert mem
    simp only [List.mem_cons, List.not_mem_nil, or_false]
    rintro (rfl | rfl | rfl | rfl) <;> simp
  rw [refusedInt?] at free
  split at free
  case isTrue fitting => exact fitting
  case isFalse => cases free

/-- If the row of a book cannot be bound, it is for a text without a form in UTF-8, or for an
integer that does not fit. -/
lemma of_refusal? {h : Handed} {e : Failure} (refused : h.refusal? = some e) :
    (∃ fault, e = .notUtf8 fault) ∨ e = .integerTooLarge ∧ h.submission.fits = false := by
  obtain ⟨refusal, mem, refused⟩ := List.exists_of_findSome?_eq_some refused
  have origin : (∃ text, refusal = refusedText? text) ∨
      ∃ n ∈ [h.seriesNum, h.year, h.fileSize, h.rating], refusal = refusedInt? n := by
    revert mem
    simp only [List.mem_cons, List.not_mem_nil, or_false]
    rintro (rfl | rfl | rfl | rfl | rfl | rfl | rfl | rfl | rfl | rfl | rfl) <;>
      first
      | exact .inl ⟨_, rfl⟩
      | exact .inr ⟨_, by simp, rfl⟩
  rcases origin with ⟨text, rfl⟩ | ⟨n, listed, rfl⟩
  · exact .inl (notUtf8_of_refusedText? refused)
  · obtain ⟨rfl, tooLarge⟩ := integerTooLarge_of_refusedInt? refused
    refine .inr ⟨rfl, h.fits_submission.trans (List.all_eq_false.2 ⟨n, listed, ?_⟩)⟩
    simpa using tooLarge

/-- The row of a book can be bound, or it has a text without a form in UTF-8 or an integer that does
not fit. -/
lemma refusal?_cases (h : Handed) :
    (h.refusal? = none ∧ h.submission.fits = true) ∨ (∃ fault, h.refusal? = some (.notUtf8 fault)) ∨
      (h.refusal? = some .integerTooLarge ∧ h.submission.fits = false) := by
  cases found : h.refusal? with
  | none => exact .inl ⟨rfl, fits_of_refusal? found⟩
  | some e =>
    rcases of_refusal? found with ⟨fault, rfl⟩ | ⟨rfl, tooLarge⟩
    · exact .inr (.inl ⟨fault, rfl⟩)
    · exact .inr (.inr ⟨rfl, tooLarge⟩)

end Handed

namespace Library

variable {ctx : WriteContext} {fresh : Bool} {known : KnownNames}

/-- A name of characters is bound. -/
lemma bindName_ofText (action : Action) (kind : Kind) (name : Option String) :
    bindName action kind (name.map .ofText) = pure () := by
  rw [bindName, refusedText?_ofText]

/-- The texts of a submission are bound with its row. -/
lemma bindRow_handed (s : Submission) : bindRow s.handed = pure () := by
  rw [bindRow, Handed.refusal?_handed]
  cases s.fits <;> rfl

/-- An author whose name is of characters is added as it is. -/
lemma addGivenAuthor_ofText (bookId : String) (known : KnownNames) (name : Option String) :
    addGivenAuthor ctx bookId known (name.map .ofText) = addAuthor ctx bookId known name := by
  rw [addGivenAuthor, bindName_ofText, pure_bind]
  simp [Function.comp_def]

/-- A submission is stored as if texts could always be bound. -/
theorem insert_eq (s : Submission) :
    insert ctx fresh known s = (do
      let action := Action.insertBook s.id
      let (seriesId, known) ← resolve? ctx action known .series s.series
      let (genreId, known) ← resolve? ctx action known .genres s.genre
      writeBook ctx s seriesId genreId
      Transaction.skipIf fresh (Transaction.change action (removeLinks s.id))
      match s.authors with
      | none => throw .authorsMissing
      | some authors =>
        let known ← authors.foldlM (addAuthor ctx s.id) known
        Transaction.skipIf fresh (Transaction.change action (removeIndexed s.id))
        match joinedAuthors authors with
        | .error e => throw e
        | .ok joined =>
          Transaction.change action (addIndexed ⟨s.id, ⟨s.title, s.annotation, joined, s.series⟩⟩)
          pure known) := by
  have handed : Handing.handed s = s.handed := rfl
  have series : s.handed.series = s.series.map .ofText := rfl
  have genre : s.handed.genre = s.genre.map .ofText := rfl
  have authors : s.handed.authors = s.authors.map (·.map (·.map .ofText)) := rfl
  rw [insert, handed, Submission.submission_handed, series, genre, authors]
  simp only [bindName_ofText, bindRow_handed, pure_bind]
  cases s.authors with
  | none => rfl
  | some authors =>
    have back : (authors.map (·.map Given.ofText)).map (·.map Given.text) = authors := by
      simp [Function.comp_def]
    simp only [Option.map_some, List.foldlM_map, addGivenAuthor_ofText, back]
    all_goals rfl

/-- The rest of a batch of submissions is stored by their own ids. -/
theorem insertRest_cons (interval total : Nat) (batch : Batch) (s : Submission)
    (rest : List Submission) :
    insertRest ctx interval total fresh batch (s :: rest) =
      match (insert ctx (batch.isNew fresh s.id) batch.known s).run batch.tables with
      | (.error e, tables) => ⟨.error e, tables, batch.notices.reverse⟩
      | (.ok known, tables) =>
        insertRest ctx interval total fresh
          (batch.advance interval total s.id known tables) rest := by
  have id : (Handing.handed s).id.text = s.id := Given.text_ofText s.id
  rw [← id]
  rfl

end Library

end BookCatalog
