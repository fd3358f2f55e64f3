import PdfText.Bytes

/-!
# Restored data

Undoing a filter goes as far as it can. Data that is damaged is no error: it gives what could be
restored of it, which may be nothing at all.

## Main definitions

* `Restored` — the data behind a filter, and whether the filter found it sound
-/

namespace PdfText

/-- The data behind a filter. -/
structure Restored where
  /-- What could be restored. -/
  data : Bytes
  /-- Whether nothing was found amiss. -/
  isSound : Bool
  deriving DecidableEq, Repr

end PdfText
