import BookCatalog.Entry
import BookCatalog.Text.Given

/-!
# Books as they are handed over

A caller hands a book over with given texts, which need not have a form in UTF-8. `Handed` is such a
book; a `Submission`, whose texts are all of characters, is handed over as it is. What stores books
takes either, and knows by `Handing` what is handed over.
-/

namespace BookCatalog

/-- A book to be stored, with texts as a caller gives them. -/
structure Handed where
  id : Given
  title : Option Given
  authors : Option (List (Option Given)) := some []
  series : Option Given := some (.ofText "")
  seriesNum : Option Int := some 0
  genre : Option Given := some (.ofText "")
  year : Option Int := some 0
  language : Option Given := some (.ofText "")
  fileSize : Option Int := some 0
  archivePath : Option Given := some (.ofText "")
  fileNum : Option Given := some (.ofText "")
  format : Option Given := some (.ofText "")
  date : Option DateTime := none
  rating : Option Int := some 0
  annotation : Option Given := some (.ofText "")
  deriving DecidableEq, Repr

/-- A submission as it is handed over. -/
def Submission.handed (s : Submission) : Handed :=
  { id := .ofText s.id
    title := s.title.map .ofText
    authors := s.authors.map (·.map (·.map .ofText))
    series := s.series.map .ofText
    seriesNum := s.seriesNum
    genre := s.genre.map .ofText
    year := s.year
    language := s.language.map .ofText
    fileSize := s.fileSize
    archivePath := s.archivePath.map .ofText
    fileNum := s.fileNum.map .ofText
    format := s.format.map .ofText
    date := s.date
    rating := s.rating
    annotation := s.annotation.map .ofText }

/-- The submission that is left when the halves in the texts are replaced. -/
def Handed.submission (h : Handed) : Submission :=
  { id := h.id.text
    title := h.title.map Given.text
    authors := h.authors.map (·.map (·.map Given.text))
    series := h.series.map Given.text
    seriesNum := h.seriesNum
    genre := h.genre.map Given.text
    year := h.year
    language := h.language.map Given.text
    fileSize := h.fileSize
    archivePath := h.archivePath.map Given.text
    fileNum := h.fileNum.map Given.text
    format := h.format.map Given.text
    date := h.date
    rating := h.rating
    annotation := h.annotation.map Given.text }

/-- What can be handed over to be stored. -/
class Handing (β : Type) where
  handed : β → Handed

instance : Handing Handed := ⟨id⟩

@[default_instance]
instance : Handing Submission := ⟨Submission.handed⟩

end BookCatalog
