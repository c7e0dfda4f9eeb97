import Mailroom.Mime.Error
import Mailroom.Text.Blank
import Mailroom.Text.Cut

/-!
# Cutting messages and multipart bodies

A message is cut at its first empty line, where a line break is LF or CRLF. A multipart
body is cut at its delimiter lines; the line break before a delimiter belongs to it.
What precedes the first delimiter and follows the closing one is dropped. A missing
closing delimiter is tolerated.
-/

namespace Mailroom.Mime

def lineFeed : UInt8 := 0x0a

def carriageReturn : UInt8 := 0x0d

/-- The header block and the body of a message. Without an empty line all is header. -/
def splitHead (raw : List UInt8) : List UInt8 × List UInt8 :=
  let crlf := [carriageReturn, lineFeed]
  match Text.dropPrefix? crlf raw, Text.dropPrefix? [lineFeed] raw with
  | some body, _ => ([], body)
  | none, some body => ([], body)
  | none, none =>
    match Text.cut (crlf ++ crlf) raw, Text.cut [lineFeed, lineFeed] raw with
    | some (head, body), some (head', body') =>
      if head.length + 2 ≤ head'.length + 1 then (head ++ crlf, body)
      else (head' ++ [lineFeed], body')
    | some (head, body), none => (head ++ crlf, body)
    | none, some (head, body) => (head ++ [lineFeed], body)
    | none, none => (raw, [])

namespace Multipart

inductive Delimiter
  | opening
  | closing
  deriving DecidableEq, Repr

def lineContent (line : List UInt8) : List UInt8 :=
  let line := (Text.dropSuffix? [lineFeed] line).getD line
  (Text.dropSuffix? [carriageReturn] line).getD line

def withoutLineBreak (content : List UInt8) : List UInt8 :=
  match Text.dropSuffix? [carriageReturn, lineFeed] content with
  | some shorter => shorter
  | none => (Text.dropSuffix? [lineFeed] content).getD content

/-- What kind of delimiter a line is, if any. `mark` is the boundary behind two hyphens. -/
def delimiter? (mark line : List UInt8) : Option Delimiter :=
  match Text.dropPrefix? mark (lineContent line) with
  | none => none
  | some rest =>
    if [0x2d, 0x2d].isPrefixOf rest then some .closing
    else if rest.all Text.isBlankByte then some .opening
    else none

/-- The sections in the lines after an opening delimiter. `held` are the lines of the
section under way, latest first. -/
def sectionsFrom (mark : List UInt8) (held : List (List UInt8)) :
    List (List UInt8) → List (List UInt8)
  | [] => [held.reverse.flatten]
  | line :: rest =>
    match delimiter? mark line with
    | none => sectionsFrom mark (line :: held) rest
    | some .closing => [withoutLineBreak held.reverse.flatten]
    | some .opening => withoutLineBreak held.reverse.flatten :: sectionsFrom mark [] rest

def markOf (boundary : String) : List UInt8 := 0x2d :: 0x2d :: Text.bytes boundary

def split (body : List UInt8) (boundary : String) : Except Error (List (List UInt8)) :=
  let mark := markOf boundary
  let lines := Text.piecesAfter lineFeed body
  match lines.dropWhile fun line => (delimiter? mark line).isNone with
  | [] => .error (.noDelimiter boundary)
  | line :: rest =>
    if delimiter? mark line = some .closing then .ok [] else .ok (sectionsFrom mark [] rest)

end Multipart

end Mailroom.Mime
