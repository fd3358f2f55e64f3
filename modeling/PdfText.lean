import PdfText.FileSystem
import PdfText.Inspection
import PdfText.Main
import PdfText.Proofs.FileSystem
import PdfText.Proofs.Extraction
import PdfText.Proofs.Maps
import PdfText.Proofs.Reading
import PdfText.Proofs.Unlocking
import PdfText.Proofs.Dictionaries
import PdfText.Proofs.Mirroring
import PdfText.Proofs.Rereading
import PdfText.Proofs.Booklet
import PdfText.Proofs.Keystream
import PdfText.Proofs.Locking
import PdfText.Proofs.Recovery
import PdfText.Proofs.SavedBooklet
import PdfText.Proofs.Truncation
import PdfText.Proofs.Questions
import PdfText.Proofs.Endings
import PdfText.Proofs.Entrances
import PdfText.Proofs.Leading
import PdfText.Proofs.LockedTexts
import PdfText.Proofs.Filling
import PdfText.Proofs.Showing
import PdfText.Proofs.Breakdown
import PdfText.Proofs.Cursors
import PdfText.Proofs.Numbering
import PdfText.Proofs.PageOrder
import PdfText.Proofs.Messages
import PdfText.Proofs.Deliveries
import PdfText.Proofs.Independence
import PdfText.Proofs.CommandLines
