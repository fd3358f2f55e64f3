import PdfText.Encoding.Table
import PdfText.Security.ClassicKey
import PdfText.Security.ModernKey
import PdfText.Unicode.Preparation
import PdfText.Unicode.Utf16

/-!
# Passwords

A password is text; each revision turns it into bytes in its own way and then checks it and makes
the file key from it.

## Main definitions

* `Settings.passwordBytes` — a password as bytes
* `Settings.checkUser`, `Settings.checkOwner`, `Settings.check` — whether a password is right
* `Settings.fileKey` — the file key that a password makes or opens
* `Document.authenticateUser`, `Document.authenticate` — the same for a document
-/

namespace PdfText

/-- The generations of revisions. -/
inductive Revision where
  | classic | modern
  deriving DecidableEq, Repr

namespace Settings

/-- The generation of the revision. -/
def generation (settings : Settings) : Except DecryptionError Revision :=
  if 2 ≤ settings.revision ∧ settings.revision ≤ 4 then .ok .classic
  else if settings.revision = 5 ∨ settings.revision = 6 then .ok .modern
  else .error .unsupportedRevision

/-- The bytes of a text in the encoding of documents. Units that it lacks vanish. -/
def documentBytes (text : String) : Bytes :=
  (text.toList.flatMap Utf16.unitsOf).filterMap EncodingTable.pdfDoc.byteOf?

/-- How many bytes of a password count in the modern revisions. -/
def maxPasswordLength : Nat := 127

/-- The bytes of a prepared text. -/
def preparedBytes (text : String) : Except DecryptionError Bytes :=
  match prepare text.toList with
  | .ok prepared => .ok ((Utf8.encode (String.ofList prepared)).take maxPasswordLength)
  | .error (.prohibited c) => .error (.prohibitedCharacter c)
  | .error .bidirectional => .error .prohibitedBidirectionalText

/-- A password as bytes. -/
def passwordBytes (settings : Settings) (password : String) : Except DecryptionError Bytes := do
  match ← settings.generation with
  | .classic => return documentBytes password
  | .modern => preparedBytes password

/-- Accepts a user password if it is right. -/
def checkUser (settings : Settings) (document : Document) (password : Bytes) :
    Except DecryptionError Unit := do
  match ← settings.generation with
  | .classic => ClassicKey.checkUser settings document password
  | .modern => ModernKey.checkUser settings password

/-- Accepts an owner password if it is right. -/
def checkOwner (settings : Settings) (document : Document) (password : Bytes) :
    Except DecryptionError Unit := do
  match ← settings.generation with
  | .classic => ClassicKey.checkOwner settings document password
  | .modern => ModernKey.checkOwner settings password

/-- Accepts a password if it is right as the owner or as the user password. -/
def check (settings : Settings) (document : Document) (password : Bytes) :
    Except DecryptionError Unit :=
  match settings.checkOwner document password with
  | .ok () => .ok ()
  | .error _ => settings.checkUser document password

/-- The file key that a password makes or opens. In the classic revisions it is taken as the user
password. -/
def fileKey (settings : Settings) (document : Document) (password : Bytes) :
    Except DecryptionError Bytes := do
  match ← settings.generation with
  | .classic => ClassicKey.fileKey settings document password
  | .modern => ModernKey.fileKey settings password

end Settings

namespace Document

/-- Accepts a password if a check of the settings does. -/
def authenticateBy (document : Document) (password : String)
    (check : Settings → Document → Bytes → Except DecryptionError Unit) : Except PdfError Unit := do
  let settings ← Settings.read document
  let bytes ← (settings.passwordBytes password).mapError .decryption
  (check settings document bytes).mapError .decryption

/-- Accepts a password if it is the user password of the document. -/
def authenticateUser (document : Document) (password : String) : Except PdfError Unit :=
  document.authenticateBy password Settings.checkUser

/-- Accepts a password if it is the owner or the user password of the document. -/
def authenticate (document : Document) (password : String) : Except PdfError Unit :=
  document.authenticateBy password Settings.check

end Document

end PdfText
