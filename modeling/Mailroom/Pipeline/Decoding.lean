import Mailroom.Mime.Extract
import Mailroom.Pipeline.Work

/-!
# Filling in emails from their raw messages

The bodies, the size and the preview are set in one update; then each attachment is filed
under its digest and gets a row. What cannot be filed is stored without a location, and a
row that is refused is left out.
-/

namespace Mailroom.Pipeline.Decoding

open Mailroom.Mail
open Mailroom.Mime (Enclosure Extracted)

/-- What a decoded message changes. A text that is not empty also makes the preview. -/
def update (x : Extracted) (size : Nat) : Update :=
  let bodies := [.textBody x.text, .htmlBody x.html, .size size,
    .hasAttachments !x.enclosures.isEmpty]
  let text := x.text.getD ""
  .ofChanges (if text.isEmpty then bodies else bodies ++ [.snippet (snippet text)])

def place (id : EmailId) (container : String) (e : Enclosure) : Location :=
  ⟨container, s!"attachments/{id}/{e.checksum}"⟩

def attachment (id : EmailId) (e : Enclosure) (storage : Option Location) : NewAttachment where
  email := id
  filename := e.filename
  contentType := e.contentType
  size := e.bytes.length
  checksum := e.checksum
  contentId := e.contentId
  inline := e.inline
  storage

def save (id : EmailId) (container : String) (e : Enclosure) : Work Unit := do
  let l := place id container e
  let stored ← Work.attempt (Work.put l e.bytes)
  let storage := stored.toOption.map fun _ => l
  let _ ← Work.attempt (Work.change (·.addAttachment (attachment id e storage)))

/-- Decodes the raw message of an email. If it cannot be fetched, nothing happens. -/
def decode (id : EmailId) (source : Location) : Work Unit := do
  match ← Work.attempt (Work.fetch source) with
  | .error _ => return
  | .ok raw =>
    let x := Extracted.ofRaw raw
    Work.change (·.applyUpdate id (update x raw.length))
    x.enclosures.forM (save id source.container)

end Mailroom.Pipeline.Decoding
