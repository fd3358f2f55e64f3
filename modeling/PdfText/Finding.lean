/-!
# Findings

A file may be read although something about it is amiss. What is found does not change the text:
the library goes on with what it has, or skips what it cannot use. But it can be told.

## Main definitions

* `Finding` — something found amiss, or worth a note, in a document
-/

namespace PdfText

/-- What is found in a document on the way to its text. -/
inductive Finding where
  /-- The trailer tells another size than the cross-reference table has. -/
  | tableSize
  /-- At the place of an object in use none can be read. -/
  | unreadableObject
  /-- The length of a stream is looked for in a circle. -/
  | lengthCycle
  /-- The data behind a filter is damaged or lacks its end. -/
  | damagedData
  /-- An object stream tells another number of objects than it lists. -/
  | memberCount
  /-- An object of a locked document cannot be read at its place, or bears another id. -/
  | skippedObject
  /-- A font names no encoding. -/
  | unnamedEncoding
  /-- A font names the encoding that is meant for the document's own strings. -/
  | unsuitableEncoding
  /-- A CMap cannot be read. -/
  | unreadableCMap
  /-- The length of an image in a content stream cannot be told. -/
  | unsupportedImage
  /-- A string is shown while no font is in force. -/
  | unshownString
  /-- A string is shown in the font in force. -/
  | shownString
  deriving DecidableEq, Repr

end PdfText
