import PdfText.Error.Io
import PdfText.Object

/-!
# What can be wrong with a PDF

`PdfError` lists the causes for which a PDF is refused or a page gives no text, and `message`
puts each into words. The causes that belong to one part of the format — reading the
cross-reference table, decrypting, decoding a CMap — have a type of their own.

Besides the causes that this library finds, the list holds those of its neighbours that edit or
write documents, so that all of them share one vocabulary.

## Main definitions

* `PdfError` — a cause, `PdfError.message` — its wording
* `ParseError`, `XrefError`, `Ascii85Error`, `CMapError`, `DecryptionError` — the causes of one part
* `Defect` — a value that reading takes for granted and that is not there
* `Halt` — how a computation ends early: with a cause that is reported, or in a defect
-/

namespace PdfText

/-- What cannot be read at all. -/
inductive ParseError where
  | endOfInput | contentStream | fileHeader | trailer | crossReferenceTable
  deriving DecidableEq, Repr

/-- Which place named for a cross-reference section is not in the file. -/
inductive XrefError where
  | start | previous | stream
  deriving DecidableEq, Repr

/-- What is wrong with base-85 digits. -/
inductive Ascii85Error where
  | overflow | misplacedZero
  deriving DecidableEq, Repr

/-- What is wrong with a CMap. -/
inductive CMapError where
  | unreadable | invalidRange
  deriving DecidableEq, Repr

/-- What is wrong with the encryption of a document, or with a password for it. -/
inductive DecryptionError where
  | missingVersion | missingRevision | missingOwnerPassword | missingUserPassword
  | missingPermissions | missingFileId
  | invalidHashLength | invalidKeyLength | invalidCiphertextLength | invalidVersion | invalidType
  | incorrectPassword | unsupportedVersion | unsupportedRevision
  | prohibitedCharacter (character : Char) | prohibitedBidirectionalText
  | invalidPadding
  deriving DecidableEq, Repr

/-- A reason why a PDF is refused or a page gives no text. -/
inductive PdfError where
  | unimplemented (feature : String)
  | objectType (expected : List Object.Kind) (found : Object.Kind)
  | dictionaryType
  | alreadyEncrypted
  | characterEncoding
  | ascii85 (error : Ascii85Error)
  | parse (error : ParseError)
  | decryption (error : DecryptionError)
  | missingKey (key : String)
  | inlineImage (reason : String)
  | outline (reason : String)
  | stream (reason : String)
  | objectStream (reason : String)
  | offset
  | io (error : IoError)
  | noOutline
  | notEncrypted
  | missingXrefEntry
  | objectNotFound (id : ObjectId)
  | referenceCycle (id : ObjectId)
  | pageNumberNotFound
  | numericCast (reason : String)
  | referenceLimit
  | textString
  | xref (error : XrefError)
  | indirectObject (place : Nat)
  | objectIdMismatch
  | contentSyntax (reason : String)
  | cmap (error : CMapError)
  | negativeInteger
  | unsupportedSecurityHandler
  deriving DecidableEq, Repr

/-- What cannot be read, in words. -/
def ParseError.message : ParseError → String
  | endOfInput => "unexpected end of input"
  | contentStream => "invalid content stream"
  | fileHeader => "invalid file header"
  | trailer => "invalid file trailer"
  | crossReferenceTable => "invalid cross reference table"

/-- Which place is not in the file, in words. -/
def XrefError.message : XrefError → String
  | start => "invalid start value"
  | previous => "invalid start value in Prev field"
  | stream => "invalid start value of XRefStm"

/-- What is wrong with base-85 digits, in words. -/
def Ascii85Error.message : Ascii85Error → String
  | overflow => "multiplication overflow"
  | misplacedZero => "z character is not allowed in the middle of a group"

/-- What is wrong with a CMap, in words. -/
def CMapError.message : CMapError → String
  | unreadable => "could not parse ToUnicode CMap: Error"
  | invalidRange => "invalid code range"

/-- What is wrong with the encryption, in words. -/
def DecryptionError.message : DecryptionError → String
  | missingVersion => "missing encryption version"
  | missingRevision => "missing encryption revision"
  | missingOwnerPassword => "missing the owner password (/O)"
  | missingUserPassword => "missing the user password (/U)"
  | missingPermissions => "missing the permissions field (/P)"
  | missingFileId => "missing the file /ID elements"
  | invalidHashLength => "invalid hash length"
  | invalidKeyLength => "invalid key length"
  | invalidCiphertextLength => "invalid ciphertext length"
  | invalidVersion => "invalid version"
  | invalidType => "unexpected type; document does not comply with the spec"
  | incorrectPassword => "the supplied password is incorrect"
  | unsupportedVersion => "the encryption version is not implemented in lopdf"
  | unsupportedRevision => "the encryption revision is not implemented in lopdf"
  | prohibitedCharacter character =>
    "prohibited character `" ++ String.singleton character ++ "`"
  | prohibitedBidirectionalText => "prohibited bidirectional text"
  | invalidPadding => "invalid padding encountered when decrypting, key might be incorrect"

/-- A cause in words. -/
def PdfError.message : PdfError → String
  | unimplemented feature =>
    "missing feature of lopdf: " ++ feature ++ "; please open an issue at " ++
      "https://github.com/J-F-Liu/lopdf/ to let the developers know of your usecase"
  | objectType expected found =>
    "object has wrong type; expected type " ++ " or ".intercalate (expected.map (·.label)) ++
      " but found type " ++ found.label
  | dictionaryType => "dictionary has wrong type: "
  | alreadyEncrypted => "PDF document is already encrypted"
  | characterEncoding => "invalid character encoding"
  | ascii85 error => "couldn't decompress stream decoding ASCII85 failed: " ++ error.message
  | parse error => "couldn't parse input: " ++ error.message
  | decryption error => "decryption error: " ++ error.message
  | missingKey key => "missing required dictionary key \"" ++ key ++ "\""
  | inlineImage reason => "invalid inline image: " ++ reason
  | outline reason => "invalid document outline: " ++ reason
  | stream reason => "invalid stream: " ++ reason
  | objectStream reason => "invalid object stream: " ++ reason
  | offset => "invalid byte offset"
  | io error => "IO error: " ++ error.message
  | noOutline => "PDF document does not have an outline"
  | notEncrypted => "PDF document is not encrypted"
  | missingXrefEntry => "missing xref entry"
  | objectNotFound id =>
    "object ID " ++ toString id.number ++ " " ++ toString id.generation ++ " not found"
  | referenceCycle id =>
    "reference cycle with object ID " ++ toString id.number ++ " " ++ toString id.generation
  | pageNumberNotFound => "page number not found"
  | numericCast reason => "numberic type cast failed: " ++ reason
  | referenceLimit => "dereferencing object reached limit, may indicate a reference cycle"
  | textString => "decoding text string failed"
  | xref error => "failed parsing cross reference table: " ++ error.message
  | indirectObject place => "invalid indirect object at byte offset " ++ toString place
  | objectIdMismatch => "found object ID does not match expected object ID"
  | contentSyntax reason => "syntax error in content stream: " ++ reason
  | cmap error => "failed parsing ToUnicode CMap: " ++ error.message
  | negativeInteger => "converting integer: number too small to fit in target type"
  | unsupportedSecurityHandler => "unsupported security handler"

/-- A value that reading takes for granted and that is not there. -/
inductive Defect where
  /-- An inline image that is no mask and names no colour space. -/
  | inlineImageColorSpace
  /-- A CMap range whose list of targets ends before the code that is looked up. -/
  | rangeTargets
  deriving DecidableEq, Repr

/-- How a computation ends early. -/
inductive Halt (ε : Type) where
  /-- A cause that is reported to the caller. -/
  | cause (error : ε)
  /-- A defect, which stops the whole run on the spot. -/
  | defect (reason : Defect)
  deriving DecidableEq, Repr

/-- Restates the cause, and leaves a defect as it is. -/
def Halt.map {ε φ : Type} (restate : ε → φ) : Halt ε → Halt φ
  | cause error => .cause (restate error)
  | defect reason => .defect reason

end PdfText
